import StepArguments.Proofs.Resolver.Spellings

/-! # Placeholders that would stay

`Resolver.unresolved` lists the keys of a text that a call is going to leave in place, and asks no
provider for it.  `leftInPlace` are the keys that a call really leaves.  If no provider fails these
are the keys that neither the store nor a provider has (`leftInPlace_eq_filter`), the provider of a
camelCase alias included.

The list takes a dynamic variable for resolvable under its own name only.  So it holds the keys that
stay and besides them those that reach a provider by its alias (`filter_unresolved`);
`predictsLeft_iff` says that it is right just if there are none of these.
-/

namespace StepArguments

/-- Every provider has a value at any time. -/
def Dynamic.NeverFails (d : Dynamic) : Prop :=
  ∀ name provider, d.registry.get? name = some provider →
    ∀ earlier, ∃ value, provider.answer earlier = .ok value

theorem Dynamic.isNone_lookup {d : Dynamic} (live : d.dryRun = false) (sure : d.NeverFails)
    (name : String) (h : History) :
    (d.lookup name h).1.isNone = (d.registry.reach? name).isNone := by
  rw [lookup, live, if_neg Bool.false_ne_true]
  cases hReach : d.registry.reach? name with
  | none => rfl
  | some reached =>
    obtain ⟨registered, provider⟩ := reached
    obtain ⟨value, hValue⟩ :=
      sure registered provider (get?_of_reach? hReach) (h.timesAsked registered)
    simp only [ask, hValue, Option.isNone_some]

theorem Registry.get?_eq_none_of_reach? {registry : Registry} {name : String}
    (h : registry.reach? name = none) : registry.get? name = none := by
  unfold reach? at h
  split at h
  · cases h
  · assumption

/-! ## Flat texts -/

namespace Template

/-- The keys of the outermost placeholders that stay, given the values of the keys. -/
def staying (answer : String → Option Value) : Template → List String
  | .text _ => []
  | .placeholder _ key rest =>
    let key := String.ofList (meaning answer key)
    if (answer key).isNone then key :: staying answer rest else staying answer rest

variable {s : List Char}

/-- If there are no openers in the keys of a text, its outermost placeholders are all there are. -/
theorem asked_of_flat (answer : String → Option Value)
    (flat : ∀ c ∈ Placeholder.cuts s, Placeholder.opens c.inside = false) :
    (ofChars s).asked answer = (Placeholder.cuts s).map fun c => String.ofList c.inside := by
  induction s using Placeholder.cuts.induct with
  | case1 s hCut =>
    rw [ofChars_of_cut?_eq_none hCut, Placeholder.cuts_of_cut?_eq_none hCut, asked, List.map_nil]
  | case2 s p hCut ih =>
    rw [Placeholder.cuts_of_cut?_eq_some hCut] at flat ⊢
    obtain ⟨hInside, hAfter⟩ := List.forall_mem_cons.1 flat
    rw [ofChars_of_cut?_eq_some hCut, ofChars_of_not_opens hInside, asked, ih hAfter, asked,
      meaning, List.nil_append, List.map_cons]

theorem staying_of_flat (answer : String → Option Value)
    (flat : ∀ c ∈ Placeholder.cuts s, Placeholder.opens c.inside = false) :
    (ofChars s).staying answer =
      ((ofChars s).asked answer).filter fun key => (answer key).isNone := by
  induction s using Placeholder.cuts.induct with
  | case1 s hCut => rw [ofChars_of_cut?_eq_none hCut, staying, asked, List.filter_nil]
  | case2 s p hCut ih =>
    rw [Placeholder.cuts_of_cut?_eq_some hCut] at flat
    obtain ⟨hInside, hAfter⟩ := List.forall_mem_cons.1 flat
    rw [ofChars_of_cut?_eq_some hCut, ofChars_of_not_opens hInside, asked, staying, ih hAfter,
      asked, meaning, List.nil_append, List.filter_cons]

end Template

namespace Resolver

variable {r : Resolver} {text key : String}

/-! ## Keys that nobody knows -/

/-- Whether neither the store nor a provider has a key. -/
def unknown (r : Resolver) (key : String) : Bool :=
  (r.find? key).isNone && (r.dynamic.registry.reach? key).isNone

theorem isNone_answerAt (live : r.dynamic.dryRun = false) (sure : r.dynamic.NeverFails)
    (h : History) (key : String) : (r.answerAt h key).isNone = r.unknown key := by
  rw [answerAt, Option.isNone_or, Dynamic.isNone_lookup live sure, unknown]

theorem value_fst (r : Resolver) (key : String) (h : History) :
    (r.value key h).1 = r.answerAt (.lookup key :: h) key := by
  unfold value answerAt
  cases r.find? key <;> rfl

/-! ## Prediction and outcome -/

/-- The keys of the outermost placeholders that a call leaves in place. -/
def leftInPlace (r : Resolver) (text : String) (h : History) : List String :=
  (Template.ofChars text.toList).staying (r.found text h)

/-- The intended rule: the list predicts what a call leaves in place, and these are the placeholders
    of the text whose keys have no value, now or at any other time. -/
structure PredictsLeft (r : Resolver) (text : String) (h : History) : Prop where
  left : r.unresolved text = r.leftInPlace text h
  valueless : ∀ point, r.unresolved text =
    (Placeholder.keys text).filter fun key => (r.value key point).1.isNone

theorem flat_cuts (flat : ∀ key ∈ Placeholder.keys text, Placeholder.opens key.toList = false) :
    ∀ c ∈ Placeholder.cuts text.toList, Placeholder.opens c.inside = false := by
  intro c hCut
  have hKey : String.ofList c.inside ∈ Placeholder.keys text := by
    rw [Placeholder.keys_eq]
    exact List.mem_map_of_mem hCut
  simpa using flat _ hKey

theorem leftInPlace_eq_filter (h : History) (live : r.dynamic.dryRun = false)
    (sure : r.dynamic.NeverFails)
    (flat : ∀ key ∈ Placeholder.keys text, Placeholder.opens key.toList = false) :
    r.leftInPlace text h = (Placeholder.keys text).filter r.unknown := by
  have hLookedUp : r.lookedUp text h = Placeholder.keys text := by
    rw [lookedUp, Template.asked_of_flat _ (flat_cuts flat), Placeholder.keys_eq]
  rw [leftInPlace, Template.staying_of_flat _ (flat_cuts flat), ← lookedUp, hLookedUp]
  refine List.filter_congr fun key hKey => ?_
  obtain ⟨point, hPoint⟩ := exists_found_eq_answerAt (hLookedUp ▸ hKey)
  rw [hPoint, isNone_answerAt live sure]

/-- Of the keys that are listed, those stay that reach no provider. -/
theorem filter_unresolved
    (flat : ∀ key ∈ Placeholder.keys text, Placeholder.opens key.toList = false) :
    ((r.unresolved text).filter fun key => (r.dynamic.registry.reach? key).isNone) =
      (Placeholder.keys text).filter r.unknown := by
  rw [unresolved, List.filter_filter]
  refine List.filter_congr fun key hKey => ?_
  rw [flat key hKey, unknown]
  cases hReach : r.dynamic.registry.reach? key with
  | none => simp [Registry.get?_eq_none_of_reach? hReach]
  | some reached => simp

/-- The list is right just if none of its keys reaches a provider. -/
theorem predictsLeft_iff (r : Resolver) (text : String) (h : History)
    (live : r.dynamic.dryRun = false) (sure : r.dynamic.NeverFails)
    (flat : ∀ key ∈ Placeholder.keys text, Placeholder.opens key.toList = false) :
    r.PredictsLeft text h ↔
      ∀ key ∈ r.unresolved text, r.dynamic.registry.reach? key = none := by
  have hLeft := leftInPlace_eq_filter h live sure flat
  rw [← filter_unresolved flat] at hLeft
  constructor
  · intro rule
    have hAll := rule.left.trans hLeft
    intro key hKey
    exact Option.isNone_iff_eq_none.1 (List.filter_eq_self.1 hAll.symm key hKey)
  · intro hNone
    have hAll : ((r.unresolved text).filter fun key => (r.dynamic.registry.reach? key).isNone) =
        r.unresolved text :=
      List.filter_eq_self.2 fun key hKey => Option.isNone_iff_eq_none.2 (hNone key hKey)
    refine ⟨(hLeft.trans hAll).symm, fun point => ?_⟩
    rw [← hAll, filter_unresolved flat]
    refine List.filter_congr fun key _ => ?_
    rw [value_fst, isNone_answerAt live sure]

/-- A store with one variable, and one dynamic variable whose name has an alias. -/
def aliased : Resolver where
  find? key := if key = "a" then some (.integer 1) else none
  dynamic := { registry := [("foo-bar", .constant (.text "v"))] }

theorem predictsLeft_aliased :
    aliased.dynamic.dryRun = false ∧ aliased.dynamic.NeverFails ∧
      (∀ key ∈ Placeholder.keys "${a} ${no} ${foo-bar} ${No} ${no}",
        Placeholder.opens key.toList = false) ∧
      aliased.PredictsLeft "${a} ${no} ${foo-bar} ${No} ${no}" [] ∧
      aliased.unresolved "${a} ${no} ${foo-bar} ${No} ${no}" = ["no", "No", "no"] := by
  have sure : aliased.dynamic.NeverFails := by
    intro name provider hGet earlier
    rw [aliased, Named.get?_cons] at hGet
    split at hGet
    · obtain rfl := Option.some.inj hGet
      exact ⟨_, rfl⟩
    · cases hGet
  have flat : ∀ key ∈ Placeholder.keys "${a} ${no} ${foo-bar} ${No} ${no}",
      Placeholder.opens key.toList = false := by
    decide +kernel
  have hUnresolved :
      aliased.unresolved "${a} ${no} ${foo-bar} ${No} ${no}" = ["no", "No", "no"] := by
    decide +kernel
  refine ⟨rfl, sure, flat, ?_, hUnresolved⟩
  refine (predictsLeft_iff aliased _ [] rfl sure flat).2 ?_
  rw [hUnresolved]
  intro key hKey
  rw [← Option.isNone_iff_eq_none]
  revert key hKey
  decide +kernel

/-- The alias of a dynamic variable is listed, but does not stay. -/
theorem not_predictsLeft : ¬ aliased.PredictsLeft "${fooBar}" [] := by
  intro rule
  have hListed : aliased.unresolved "${fooBar}" = ["fooBar"] := by decide +kernel
  have hLeft : aliased.leftInPlace "${fooBar}" [] = [] := by decide +kernel
  have hSame := rule.left
  rw [hListed, hLeft] at hSame
  cases hSame

end Resolver

end StepArguments
