import StepArguments.Proofs.Variables.Environment
import StepArguments.Variables.Store

/-! # Where the value of a key comes from

A key is answered by one layer of a store: the innermost one that has a value for it.  What the
layers further out hold has no part in the answer, nor have the default of the key and the
environment, and the value is one that this layer holds, be it bound to a name or nested in what is
bound.  If no layer has a value, the default of the key answers, and for a key without one the text
that the environment binds it to (`resolve?_provenance`).

The absent value never answers a key.  It is left out wherever a value is taken from, which is at a
name, at an index and at a field; so `Bindings.Provides` is kept along a path
(`provides_of_follow?`), and no layer gives way to an outer one after it has a value.
-/

namespace StepArguments

/-! ## Parts of values -/

namespace Value

/-- A value is another one or is nested in it: an item of a list or what a map binds to a name, and
    so on. -/
inductive Within (part : Value) : Value → Prop
  | self : Within part part
  | item {items : List Value} {i : Nat} {item : Value} : items[i]? = some item →
      Within part item → Within part (.list items)
  | entry {entries : Bindings} {name : String} {value : Value} : entries.get? name = some value →
      Within part value → Within part (.map entries)

variable {part value whole : Value}

theorem Within.trans (inner : part.Within value) (outer : value.Within whole) :
    part.Within whole := by
  induction outer with
  | self => exact inner
  | item hItem _ ih => exact .item hItem ih
  | entry hEntry _ ih => exact .entry hEntry ih

theorem present?_eq_some_iff {found : Option Value} :
    present? found = some value ↔ found = some value ∧ value ≠ .null := by
  rw [present?, Option.filter_eq_some_iff]
  refine and_congr_right fun _ => ?_
  cases value <;> simp [isNull]

/-- What an index picks from a value: an item of a list, and any other value itself. -/
def itemAt? : Option Nat → Value → Option Value
  | some i, .list items => present? items[i]?
  | _, value => some value

/-- What a field picks from a value: what a map has at the path, and any other value itself. -/
def fieldAt? : Option (List Char) → Value → Option Value
  | some rest, .map entries =>
    (Bindings.value? entries (String.ofList rest)).or (Bindings.follow? entries rest)
  | _, value => some value

theorem within_of_itemAt? {index : Option Nat} (hWhole : whole ≠ .null)
    (hItem : itemAt? index whole = some value) : value ≠ .null ∧ value.Within whole := by
  unfold itemAt? at hItem
  split at hItem
  · obtain ⟨hItem, hPresent⟩ := present?_eq_some_iff.1 hItem
    exact ⟨hPresent, .item hItem .self⟩
  · obtain rfl := Option.some.inj hItem
    exact ⟨hWhole, .self⟩

end Value

/-! ## What one layer gives -/

namespace Bindings

/-- A value that bindings hold: one that is bound to a name or nested in what is bound, and not the
    absent one. -/
structure Provides (bindings : Bindings) (value : Value) : Prop where
  present : value ≠ .null
  bound : ∃ name stored, bindings.get? name = some stored ∧ value.Within stored

variable {bindings : Bindings} {path : List Char} {p : Path} {name : String} {value : Value}

theorem provides_of_value? (hValue : bindings.value? name = some value) :
    bindings.Provides value := by
  obtain ⟨hBound, hPresent⟩ := Value.present?_eq_some_iff.1 hValue
  exact ⟨hPresent, name, value, hBound, .self⟩

theorem Provides.within {entries : Bindings} (provides : entries.Provides value) :
    value.Within (.map entries) := by
  obtain ⟨name, stored, hBound, hWithin⟩ := provides.bound
  exact .entry hBound hWithin

theorem follow?_of_parse?_eq_none (hPath : Path.parse? path = none) :
    bindings.follow? path = none := by
  rw [follow?]
  split
  · rfl
  · rename_i p hp
    rw [hPath] at hp
    cases hp

/-- A path is followed in three steps: from the name of its root to an index and on to a field. -/
theorem follow?_of_parse?_eq_some (hPath : Path.parse? path = some p) :
    bindings.follow? path =
      (bindings.value? (String.ofList p.root)).bind fun root =>
        (Value.itemAt? p.index root).bind (Value.fieldAt? p.rest) := by
  rw [follow?]
  split
  · rename_i hNone
    rw [hPath] at hNone
    cases hNone
  · rename_i q hq
    obtain rfl : p = q := Option.some.inj (hPath.symm.trans hq)
    obtain ⟨rootName, index, rest⟩ := p
    refine congrArg (Option.bind _) (funext fun root => ?_)
    cases index with
    | none => cases rest <;> cases root <;> rfl
    | some i =>
      cases root with
      | list items =>
        refine congrArg (Option.bind (Value.present? items[i]?)) (funext fun value => ?_)
        cases rest <;> cases value <;> rfl
      | _ => cases rest <;> rfl

theorem provides_of_follow? (hFollow : bindings.follow? path = some value) :
    bindings.Provides value := by
  -- along the fields of the path; the bindings of a field are a part of what its root is bound to
  induction bindings, path using follow?.induct generalizing value with
  | case1 bindings path hPath =>
    rw [follow?_of_parse?_eq_none hPath] at hFollow
    cases hFollow
  | case2 bindings path p hPath ih =>
    rw [follow?_of_parse?_eq_some hPath] at hFollow
    obtain ⟨root, hRoot, hFollow⟩ := Option.bind_eq_some_iff.1 hFollow
    obtain ⟨picked, hItem, hField⟩ := Option.bind_eq_some_iff.1 hFollow
    have rootProvided := provides_of_value? hRoot
    obtain ⟨hPresent, hPicked⟩ := Value.within_of_itemAt? rootProvided.present hItem
    have within_root (hValue : value.Within picked) : value.Within root := hValue.trans hPicked
    obtain ⟨name, stored, hBound, hStored⟩ := rootProvided.bound
    unfold Value.fieldAt? at hField
    split at hField
    · rename_i rest entries hRest
      have fieldProvided : Provides entries value := by
        rcases Option.or_eq_some_iff.1 hField with hHere | ⟨-, hDeeper⟩
        · exact provides_of_value? hHere
        · exact ih rest entries hRest hDeeper
      exact ⟨fieldProvided.present, name, stored, hBound,
        (within_root fieldProvided.within).trans hStored⟩
    · obtain rfl := Option.some.inj hField
      exact ⟨hPresent, name, stored, hBound, (within_root .self).trans hStored⟩

theorem provides_of_find? {key : Key} (hFind : bindings.find? key = some value) :
    bindings.Provides value := by
  rcases Option.or_eq_some_iff.1 hFind with hWhole | ⟨-, hFind⟩
  · exact provides_of_value? hWhole
  · rcases Option.or_eq_some_iff.1 hFind with hName | ⟨-, hPath⟩
    · split at hName
      · exact provides_of_value? hName
      · cases hName
    · exact provides_of_follow? hPath

end Bindings

/-! ## The layer that answers -/

namespace Store

/-- What the layers of a store bind, from the innermost to the outermost. -/
def contents (s : Store) : List Bindings :=
  s.layers.map Prod.snd

/-- The layer at a place, counted from the innermost one, is the first that has a value for a
    key. -/
structure AnsweredAt (s : Store) (key : Key) (place : Nat) (scope : Scope) (bindings : Bindings)
    (value : Value) : Prop where
  layer : s.layers[place]? = some (scope, bindings)
  found : bindings.find? key = some value
  before : ∀ inner ∈ s.contents.take place, inner.find? key = none

variable {s s' : Store} {e : Environment} {key : Key} {place : Nat} {scope : Scope}
  {bindings : Bindings} {value : Value} {written : String}

theorem inLayers?_eq (s : Store) (key : Key) :
    s.inLayers? key = s.layers.findSome? fun layer => (layer.2.find? key).map (·, layer.1) := rfl

theorem AnsweredAt.inLayers?_eq_some (answered : s.AnsweredAt key place scope bindings value) :
    s.inLayers? key = some (value, scope) := by
  obtain ⟨hPlace, hLayer⟩ := List.getElem?_eq_some_iff.1 answered.layer
  have hLayers : s.layers =
      s.layers.take place ++ (scope, bindings) :: s.layers.drop (place + 1) := by
    rw [← hLayer, List.getElem_cons_drop, List.take_append_drop]
  rw [inLayers?_eq, List.findSome?_eq_some_iff]
  refine ⟨_, _, _, hLayers, by rw [answered.found]; rfl, fun layer hInner => ?_⟩
  have hBefore := answered.before layer.2
  rw [contents, ← List.map_take] at hBefore
  rw [hBefore (List.mem_map_of_mem hInner)]
  rfl

theorem exists_answeredAt_of_inLayers? (hAnswer : s.inLayers? key = some (value, scope)) :
    ∃ place bindings, s.AnsweredAt key place scope bindings value := by
  rw [inLayers?_eq, List.findSome?_eq_some_iff] at hAnswer
  obtain ⟨inner, layer, outer, hLayers, hHere, hBefore⟩ := hAnswer
  obtain ⟨found, hFound, hAnswer⟩ := Option.map_eq_some_iff.1 hHere
  obtain ⟨rfl, rfl⟩ := Prod.mk.inj hAnswer
  have hContents : s.contents.take inner.length = inner.map Prod.snd := by
    rw [contents, hLayers, List.map_append, List.take_left' (List.length_map Prod.snd)]
  refine ⟨inner.length, layer.2, ?_, hFound, ?_⟩
  · rw [hLayers, List.getElem?_append_right (Nat.le_refl _), Nat.sub_self]
    rfl
  · rw [hContents, List.forall_mem_map]
    exact fun layer hInner => Option.map_eq_none_iff.1 (hBefore layer hInner)

theorem inLayers?_eq_none_iff :
    s.inLayers? key = none ↔ ∀ bindings ∈ s.contents, bindings.find? key = none := by
  rw [inLayers?_eq, List.findSome?_eq_none_iff, contents, List.forall_mem_map]
  exact forall₂_congr fun _ _ => Option.map_eq_none_iff

/-- A layer answers a key in every store that has the same bindings up to it. -/
theorem AnsweredAt.of_agreement (answered : s.AnsweredAt key place scope bindings value)
    (hAgree : s'.contents.take (place + 1) = s.contents.take (place + 1)) :
    ∃ scope', s'.AnsweredAt key place scope' bindings value := by
  have hHere : s'.contents[place]? = some bindings := by
    have hSame := congrArg (·[place]?) hAgree
    have hLast : place < place + 1 := Nat.lt_succ_self place
    simp only [List.getElem?_take, if_pos hLast] at hSame
    rw [hSame, contents, List.getElem?_map, answered.layer]
    rfl
  have hBefore : s'.contents.take place = s.contents.take place := by
    have hSame := congrArg (List.take place) hAgree
    rwa [List.take_take, List.take_take, Nat.min_eq_left (Nat.le_succ place)] at hSame
  rw [contents, List.getElem?_map] at hHere
  obtain ⟨⟨scope', bindings⟩, hLayer, rfl⟩ := Option.map_eq_some_iff.1 hHere
  exact ⟨scope', hLayer, answered.found, hBefore ▸ answered.before⟩

theorem AnsweredAt.resolve?_eq
    (answered : s.AnsweredAt (.parse written) place scope bindings value) (e : Environment) :
    s.resolve? e written = some ⟨written, value, scope⟩ := by
  rw [resolve?, answered.inLayers?_eq_some]

theorem AnsweredAt.resolve?_of_contents
    (answered : s.AnsweredAt (.parse written) place scope bindings value)
    (hAgree : s'.contents.take (place + 1) = s.contents.take (place + 1)) (e : Environment) :
    ∃ scope', s'.layers[place]? = some (scope', bindings) ∧
      s'.resolve? e written = some ⟨written, value, scope'⟩ := by
  obtain ⟨scope', answered'⟩ := answered.of_agreement hAgree
  exact ⟨scope', answered'.layer, answered'.resolve?_eq e⟩

theorem AnsweredAt.resolve?_of_layers
    (answered : s.AnsweredAt (.parse written) place scope bindings value)
    (hAgree : s'.layers.take (place + 1) = s.layers.take (place + 1)) (e : Environment) :
    s'.resolve? e written = some ⟨written, value, scope⟩ := by
  have hContents : s'.contents.take (place + 1) = s.contents.take (place + 1) := by
    simp only [contents, ← List.map_take, hAgree]
  obtain ⟨scope', hLayer', hResolve⟩ := answered.resolve?_of_contents hContents e
  have hLayer := congrArg (·[place]?) hAgree
  have hLast : place < place + 1 := Nat.lt_succ_self place
  simp only [List.getElem?_take, if_pos hLast, answered.layer, hLayer'] at hLayer
  obtain ⟨rfl, -⟩ := Prod.mk.inj (Option.some.inj hLayer)
  exact hResolve

theorem resolve?_of_unanswered
    (unanswered : ∀ bindings ∈ s.contents, bindings.find? (.parse written) = none)
    (e : Environment) :
    s.resolve? e written =
      match (Key.parse written).default? with
      | some default => some ⟨written, .text default, .default⟩
      | none => (e.get? written).map fun text => ⟨written, .text text, .environment⟩ := by
  have hLayers := inLayers?_eq_none_iff.2 unanswered
  cases hDefault : (Key.parse written).default? with
  | some default => simp only [resolve?, hLayers, hDefault]
  | none => simp only [resolve?, hLayers, hDefault]

theorem answeredAt_or_unanswered (s : Store) (key : Key) :
    (∃ place scope bindings value, s.AnsweredAt key place scope bindings value) ∨
      ∀ bindings ∈ s.contents, bindings.find? key = none := by
  cases hAnswer : s.inLayers? key with
  | some answer =>
    obtain ⟨place, bindings, answered⟩ := exists_answeredAt_of_inLayers? hAnswer
    exact .inl ⟨place, answer.2, bindings, answer.1, answered⟩
  | none => exact .inr (inLayers?_eq_none_iff.1 hAnswer)

/-! ## Provenance -/

theorem value_ne_null_of_resolve? {resolved : Resolved}
    (hResolve : s.resolve? e written = some resolved) : resolved.value ≠ .null := by
  rcases s.answeredAt_or_unanswered (.parse written) with
    ⟨place, scope, bindings, value, answered⟩ | unanswered
  · rw [answered.resolve?_eq] at hResolve
    obtain rfl := Option.some.inj hResolve
    exact (Bindings.provides_of_find? answered.found).present
  · rw [resolve?_of_unanswered unanswered] at hResolve
    split at hResolve
    · obtain rfl := Option.some.inj hResolve
      exact Value.noConfusion
    · obtain ⟨text, -, rfl⟩ := Option.map_eq_some_iff.1 hResolve
      exact Value.noConfusion

/-- A key is answered in one of two ways, and never with the absent value.

    Either there is an innermost layer that has a value for it.  Then the answer is this value with
    the scope of this layer, which holds the value, and every store gives the same answer that has
    the same layers up to there, whatever else it has and whatever the environment is.  If only the
    bindings of these layers are the same, the value is the same, and the scope is that of the layer
    at the same place.

    Or no layer has a value.  Then the answer is the text after the first colon of the key if there
    is one.  A key without a colon is answered with the text that the environment binds it to, and
    not at all if it binds it to none. -/
theorem resolve?_provenance (s : Store) (e : Environment) (written : String) :
    ((∃ place scope bindings value,
        s.AnsweredAt (.parse written) place scope bindings value ∧
        s.resolve? e written = some ⟨written, value, scope⟩ ∧
        bindings.Provides value ∧
        (∀ (s' : Store) (e' : Environment),
          s'.layers.take (place + 1) = s.layers.take (place + 1) →
            s'.resolve? e' written = some ⟨written, value, scope⟩) ∧
        (∀ (s' : Store) (e' : Environment),
          s'.contents.take (place + 1) = s.contents.take (place + 1) →
            ∃ scope', s'.layers[place]? = some (scope', bindings) ∧
              s'.resolve? e' written = some ⟨written, value, scope'⟩)) ∨
      ((∀ bindings ∈ s.contents, bindings.find? (.parse written) = none) ∧
        (∀ name default, written.toList = name ++ ':' :: default → ':' ∉ name →
          s.resolve? e written = some ⟨written, .text (String.ofList default), .default⟩) ∧
        (':' ∉ written.toList →
          (∀ text, e.Binds written text →
            s.resolve? e written = some ⟨written, .text text, .environment⟩) ∧
          ((∀ text, ¬ e.Binds written text) → s.resolve? e written = none)))) ∧
      ∀ resolved, s.resolve? e written = some resolved → resolved.value ≠ .null := by
  refine ⟨?_, fun resolved hResolve => value_ne_null_of_resolve? hResolve⟩
  rcases s.answeredAt_or_unanswered (.parse written) with
    ⟨place, scope, bindings, value, answered⟩ | unanswered
  · left
    exact ⟨place, scope, bindings, value, answered, answered.resolve?_eq e,
      Bindings.provides_of_find? answered.found,
      fun s' e' hAgree => answered.resolve?_of_layers hAgree e',
      fun s' e' hAgree => answered.resolve?_of_contents hAgree e'⟩
  · right
    have hElse := resolve?_of_unanswered unanswered e
    refine ⟨unanswered, fun name default hWritten hName => ?_,
      fun hWritten => ⟨fun text binds => ?_, fun hNone => ?_⟩⟩
    · rw [hElse, Key.default?_parse_of_colon hWritten hName]
    · rw [hElse, Key.default?_parse_of_not_mem hWritten, Environment.get?_eq_some_iff.2 binds]
      rfl
    · rw [hElse, Key.default?_parse_of_not_mem hWritten, Environment.get?_eq_none_iff.2 hNone]
      rfl

/-- Two open steps, of which the inner one binds a name to the absent value. -/
def orders : Store where
  frames := [[("unit", .null)], [("order", .map [("items", .list [.text "pen"])])]]
  story := [("order.items[0]:none", .text "ink")]

/-- A process with one variable that is a text of three bytes, one that is none, and one whose name
    has an equals sign. -/
def workshop : Environment where
  entries := [("unit", [0x6D, 0xC2, 0xB2]), ("code", [0x6D, 0xC2]), ("a=b", [0x6D])]

theorem resolve?_provenance_orders :
    (∃ value, value.asText? = some "pen" ∧
      ∀ (s : Store) (e : Environment), s.frames = orders.frames →
        s.resolve? e "order.items[0]:none" = some ⟨"order.items[0]:none", value, .step⟩) ∧
      (∀ e : Environment,
        orders.resolve? e "unit:metre" = some ⟨"unit:metre", .text "metre", .default⟩) ∧
      workshop.Binds "unit" "m²" ∧
      orders.resolve? workshop "unit" = some ⟨"unit", .text "m²", .environment⟩ ∧
      (∀ text, ¬ workshop.Binds "code" text) ∧ orders.resolve? workshop "code" = none ∧
      (∀ text, ¬ workshop.Binds "a=b" text) ∧ orders.resolve? workshop "a=b" = none := by
  have outside (written : String) (e : Environment) (hNowhere : ∀ bindings ∈ orders.contents,
      (bindings.find? (.parse written)).isSome = false) :=
    (resolve?_provenance orders e written).1.resolve_left
      fun ⟨_, _, bindings, _, answered, _⟩ => by
        have hMem : bindings ∈ orders.contents :=
          List.mem_map.2 ⟨_, List.mem_of_getElem? answered.layer, rfl⟩
        have hHere := hNowhere bindings hMem
        rw [answered.found] at hHere
        cases hHere
  refine ⟨?_, fun e => ?_, ?_⟩
  · have hFirst : (Bindings.find? [("unit", .null)] (.parse "order.items[0]:none")).isSome =
        false := by decide +kernel
    have hSecond : (Bindings.find? [("order", .map [("items", .list [.text "pen"])])]
        (.parse "order.items[0]:none")).bind Value.asText? = some "pen" := by decide +kernel
    obtain ⟨value, hValue, hText⟩ := Option.bind_eq_some_iff.1 hSecond
    obtain ⟨⟨place, scope, bindings, found, answered, -, -, hOthers, -⟩ | ⟨unanswered, -⟩, -⟩ :=
      resolve?_provenance orders .empty "order.items[0]:none"
    · match place with
      | 0 =>
        obtain ⟨-, rfl⟩ := Prod.mk.inj (Option.some.inj answered.layer)
        rw [answered.found] at hFirst
        cases hFirst
      | 1 =>
        obtain ⟨rfl, rfl⟩ := Prod.mk.inj (Option.some.inj answered.layer)
        obtain rfl := Option.some.inj (hValue.symm.trans answered.found)
        refine ⟨value, hText, fun s e hFrames => hOthers s e ?_⟩
        rw [layers, hFrames]
        rfl
      | place + 2 =>
        have hNone := answered.before _ (.tail _ (.head _))
        rw [hValue] at hNone
        cases hNone
    · have hNone := unanswered _ (.tail _ (.head _))
      rw [hValue] at hNone
      cases hNone
  · obtain ⟨-, hDefault, -⟩ := outside "unit:metre" e (by decide +kernel)
    exact hDefault "unit".toList "metre".toList rfl (by decide)
  · have hUnit : workshop.Binds "unit" "m²" :=
      ⟨⟨'u', by decide, by decide⟩, by decide, by decide, [], _, rfl, List.forall_mem_nil _⟩
    have hCode : ∀ text, ¬ workshop.Binds "code" text :=
      Environment.get?_eq_none_iff.1 (by decide +kernel)
    have hEquals : ∀ text, ¬ workshop.Binds "a=b" text :=
      fun _ binds => binds.equals (by decide)
    obtain ⟨-, -, hFound⟩ := outside "unit" workshop (by decide +kernel)
    obtain ⟨-, -, hCoded⟩ := outside "code" workshop (by decide +kernel)
    obtain ⟨-, -, hNamed⟩ := outside "a=b" workshop (by decide +kernel)
    exact ⟨hUnit, (hFound (by decide)).1 _ hUnit, hCode, (hCoded (by decide)).2 hCode, hEquals,
      (hNamed (by decide)).2 hEquals⟩

end Store

end StepArguments
