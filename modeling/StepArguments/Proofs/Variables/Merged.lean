import StepArguments.Proofs.Variables.Changes
import StepArguments.Proofs.Variables.Paths

/-! # The merged view

The merged view of a store puts its layers over each other, from the outermost to the innermost one;
a look-up goes through them in the other direction.  Both come to the innermost layer that binds a
name (`get?_merged`, `exists_resolve?_iff`), but a look-up passes over a layer that binds the name to
the absent value, and the merged view lets this value hide those further out.  `mergedAgrees_iff` says
when the two views agree, and `not_mergedAgrees` gives a store in which they do not.
-/

namespace StepArguments

/-! ## Plain keys -/

/-- A key that is a name and nothing else: it has no default and leads into no value. -/
def Key.Plain (key : String) : Prop :=
  ∀ c ∈ key.toList, c ≠ ':' ∧ c ≠ '.' ∧ c ≠ '['

variable {key : String}

theorem Key.Plain.not_mem_colon (plain : Key.Plain key) : ':' ∉ key.toList :=
  fun hMem => (plain ':' hMem).1 rfl

theorem Key.Plain.parse (plain : Key.Plain key) : Key.parse key = ⟨key, key, none⟩ :=
  parse_of_not_mem plain.not_mem_colon

theorem Key.Plain.parse? (plain : Key.Plain key) (hKey : key.toList ≠ []) :
    Path.parse? key.toList = some ⟨key.toList, none, none⟩ := by
  have hRoot : ∀ c ∈ key.toList, c ≠ '[' ∧ c ≠ '.' := fun c hMem => (plain c hMem).2.symm
  have hColon : ':' ∉ key.toList ++ [] := by simpa using plain.not_mem_colon
  -- nothing stands behind the name
  have hParse := Path.parse?_append hColon hRoot (by simp)
  rw [List.append_nil, if_neg hKey] at hParse
  exact hParse

theorem Bindings.find?_of_not_mem (bindings : Bindings) (hKey : ':' ∉ key.toList) :
    bindings.find? (.parse key) = (bindings.value? key).or (bindings.follow? key.toList) := by
  rw [find?, Key.parse_of_not_mem hKey]
  rfl

theorem Bindings.find?_of_plain (bindings : Bindings) (plain : Key.Plain key) :
    bindings.find? (.parse key) = bindings.value? key := by
  have hPath : bindings.follow? key.toList = none ∨
      bindings.follow? key.toList = bindings.value? key := by
    by_cases hKey : key.toList = []
    · left
      rw [hKey]
      exact follow?_of_parse?_eq_none rfl
    · right
      rw [follow?_of_parse?_eq_some (plain.parse? hKey), String.ofList_toList]
      cases bindings.value? key <;> rfl
  rw [find?_of_not_mem bindings plain.not_mem_colon]
  rcases hPath with hNone | hSame
  · rw [hNone, Option.or_none]
  · rw [hSame, Option.or_self]

/-! ## Both views -/

/-- The scopes that have layers of the store. -/
def Scope.ofLayers : List Scope :=
  [.step, .scenario, .story, .batch]

namespace Store

variable {s : Store} {e : Environment} {value : Value}

theorem merged_eq (s : Store) :
    s.merged = s.contents.foldr (fun layer bindings => Named.putAll bindings layer) [] := by
  simp [merged, contents, List.foldl_reverse, List.foldr_map]

/-- The merged view has what the innermost layer has that binds a name, be it the absent value. -/
theorem get?_merged (distinct : s.Distinct) (name : String) :
    s.merged.get? name = s.contents.findSome? (·.get? name) := by
  have hLayers := distinct.contents
  rw [merged_eq]
  generalize s.contents = layers at hLayers ⊢
  induction layers with
  | nil => rfl
  | cons layer layers ih =>
    -- the innermost layer is put last, over all of those further out
    obtain ⟨hLayer, hOuter⟩ := List.forall_mem_cons.1 hLayers
    rw [List.foldr_cons, Named.get?_putAll, Named.get?_reverse hLayer, ih hOuter,
      List.findSome?_cons]
    cases layer.get? name <;> rfl

theorem mem_ofLayers {layer : Scope × Bindings} (hLayer : layer ∈ s.layers) :
    layer.1 ∈ Scope.ofLayers := by
  simp only [layers, List.mem_append, List.mem_map, List.mem_cons, List.not_mem_nil,
    or_false] at hLayer
  rcases hLayer with ⟨frame, -, rfl⟩ | rfl | rfl | rfl <;> simp [Scope.ofLayers]

theorem inLayers?_eq_some_iff : s.inLayers? (.parse key) = some (value, scope) ↔
    scope ∈ Scope.ofLayers ∧ s.resolve? e key = some ⟨key, value, scope⟩ := by
  cases hAnswer : s.inLayers? (.parse key) with
  | some answer =>
    obtain ⟨place, bindings, answered⟩ := exists_answeredAt_of_inLayers? hAnswer
    have hScope : answer.2 ∈ Scope.ofLayers := mem_ofLayers (List.mem_of_getElem? answered.layer)
    rw [answered.resolve?_eq]
    constructor
    · intro hSame
      obtain rfl := Option.some.inj hSame
      exact ⟨hScope, rfl⟩
    · rintro ⟨-, hSame⟩
      injection hSame with hSame
      injection hSame with _ hValue hScope
      rw [← hValue, ← hScope]
  | none =>
    -- neither the default nor the environment is a scope of a layer
    refine iff_of_false nofun ?_
    rintro ⟨hScope, hResolve⟩
    rw [resolve?_of_unanswered (inLayers?_eq_none_iff.1 hAnswer)] at hResolve
    split at hResolve
    · injection hResolve with hResolve
      injection hResolve with _ _ hDefault
      simp [← hDefault, Scope.ofLayers] at hScope
    · obtain ⟨text, -, hText⟩ := Option.map_eq_some_iff.1 hResolve
      injection hText with _ _ hEnvironment
      simp [← hEnvironment, Scope.ofLayers] at hScope

/-- A layer answers a plain key with the value that the innermost layer has that has one. -/
theorem exists_resolve?_iff (plain : Key.Plain key) :
    (∃ scope ∈ Scope.ofLayers, s.resolve? e key = some ⟨key, value, scope⟩) ↔
      s.contents.findSome? (·.value? key) = some value := by
  have hFound : (s.inLayers? (.parse key)).map Prod.fst = s.contents.findSome? (·.value? key) := by
    rw [inLayers?_eq, contents, List.findSome?_map, List.map_findSome?]
    congr 1
    funext layer
    simp [Bindings.find?_of_plain layer.2 plain, Function.comp_def]
  simp [← hFound, ← inLayers?_eq_some_iff]

/-! ## Agreement -/

/-- The innermost layer that binds a name binds it to the absent value, though there is a layer that
    has a value for it. -/
structure Hidden (layers : List Bindings) (name : String) : Prop where
  innermost : layers.findSome? (·.get? name) = some .null
  outer : ∃ layer ∈ layers, ∃ value, layer.value? name = some value

variable {layers : List Bindings} {name : String}

theorem findSome?_value?_of_get? (hValue : value ≠ .null)
    (hInnermost : layers.findSome? (·.get? name) = some value) :
    layers.findSome? (·.value? name) = some value := by
  rw [List.findSome?_eq_some_iff] at hInnermost ⊢
  obtain ⟨inner, layer, outer, hLayers, hLayer, hInner⟩ := hInnermost
  refine ⟨inner, layer, outer, hLayers, Value.present?_eq_some_iff.2 ⟨hLayer, hValue⟩, ?_⟩
  intro other hOther
  rw [Bindings.value?, hInner other hOther]
  rfl

theorem findSome?_value?_of_unbound (unbound : layers.findSome? (·.get? name) = none) :
    layers.findSome? (·.value? name) = none := by
  rw [List.findSome?_eq_none_iff] at unbound ⊢
  intro layer hLayer
  rw [Bindings.value?, unbound layer hLayer]
  rfl

theorem findSome?_value?_eq_none_iff :
    layers.findSome? (·.value? name) = none ↔
      ¬ ∃ layer ∈ layers, ∃ value, layer.value? name = some value := by
  rw [List.findSome?_eq_none_iff]
  simp [Option.eq_none_iff_forall_ne_some]

/-- The innermost binding is the innermost value unless it hides one. -/
theorem present?_findSome?_eq_iff (layers : List Bindings) (name : String) :
    Value.present? (layers.findSome? (·.get? name)) = layers.findSome? (·.value? name) ↔
      ¬ Hidden layers name := by
  cases hInnermost : layers.findSome? (·.get? name) with
  | none =>
    refine iff_of_true (findSome?_value?_of_unbound hInnermost).symm fun hidden => ?_
    rw [hidden.innermost] at hInnermost
    cases hInnermost
  | some innermost =>
    by_cases hNull : innermost = .null
    · -- the merged view has nothing then, and the look-up nothing just if no layer has a value
      subst hNull
      have hNothing : Value.present? (some .null) = none := rfl
      rw [hNothing, eq_comm, findSome?_value?_eq_none_iff]
      exact not_congr ⟨fun outer => ⟨hInnermost, outer⟩, Hidden.outer⟩
    · have hPresent : Value.present? (some innermost) = some innermost :=
        Value.present?_eq_some_iff.2 ⟨rfl, hNull⟩
      rw [findSome?_value?_of_get? hNull hInnermost, hPresent]
      refine iff_of_true rfl fun hidden => ?_
      rw [hidden.innermost] at hInnermost
      exact hNull (Option.some.inj hInnermost).symm

/-- The intended rule: the merged view has a value under a key just if a layer answers the key with
    this value. -/
def MergedAgrees (s : Store) (e : Environment) (key : String) : Prop :=
  ∀ value, s.merged.value? key = some value ↔
    ∃ scope ∈ Scope.ofLayers, s.resolve? e key = some ⟨key, value, scope⟩

/-- After any changes the two views agree on a plain key just if the absent value hides none of its
    values. -/
theorem mergedAgrees_iff (bound : List (String × Value)) (changes : List Change)
    (e : Environment) (plain : Key.Plain key) :
    ((ofBatch bound).run changes).MergedAgrees e key ↔
      ¬ Hidden ((ofBatch bound).run changes).contents key := by
  have distinct := (distinct_ofBatch bound).run changes
  generalize (ofBatch bound).run changes = s at distinct ⊢
  have hMerged : s.merged.value? key = Value.present? (s.contents.findSome? (·.get? key)) :=
    congrArg Value.present? (get?_merged distinct key)
  simp only [MergedAgrees, exists_resolve?_iff plain]
  rw [← Option.ext_iff, hMerged]
  exact present?_findSome?_eq_iff s.contents key

/-- A step binds a name that the story has bound before, while the scenario has bound it to the
    absent value. -/
def orderUnits : List Change :=
  [.put .story "unit" (.text "pound"), .put .scenario "unit" .null, .openStep,
    .put .step "unit" (.text "piece")]

theorem mergedAgrees_orderUnits :
    Key.Plain "unit" ∧ ((ofBatch []).run orderUnits).MergedAgrees .empty "unit" := by
  have plain : Key.Plain "unit" := by simp [Key.Plain]
  refine ⟨plain, (mergedAgrees_iff [] orderUnits .empty plain).2 fun hidden => ?_⟩
  have hInnermost : ((ofBatch []).run orderUnits).contents.findSome? (·.get? "unit") =
      some (.text "piece") := rfl
  rw [hidden.innermost] at hInnermost
  cases hInnermost

/-- A step binds a name of the batch to the absent value: the merged view has nothing for it, though
    the batch still answers it. -/
theorem not_mergedAgrees :
    ¬ ((ofBatch [("a", .integer 1)]).run [.openStep, .put .step "a" .null]).MergedAgrees .empty
      "a" := by
  intro rule
  have plain : Key.Plain "a" := by simp [Key.Plain]
  have hAnswered : ∃ scope ∈ Scope.ofLayers, ((ofBatch [("a", .integer 1)]).run
      [.openStep, .put .step "a" .null]).resolve? .empty "a" = some ⟨"a", .integer 1, scope⟩ :=
    (exists_resolve?_iff plain).2 rfl
  have hValue := (rule (.integer 1)).2 hAnswered
  have hMerged : ((ofBatch [("a", .integer 1)]).run
      [.openStep, .put .step "a" .null]).merged.value? "a" = none := rfl
  rw [hMerged] at hValue
  cases hValue

end Store

end StepArguments
