import StepArguments.Resolver

/-! # Asking for a key

What a resolver finds under a key, and what the asking leaves in the history.

* `Dynamic.Steady`: from some point of a run on no provider changes its answer.  Providers answer by
  how often they were asked, so this is a statement about all later numbers of calls.
* `Memory.Faithful`: what is remembered is what would be found by asking anew.  Under steady
  providers this is kept by every look-up (`lookup_of_faithful`), and then the memory of one call
  cannot be told from asking each time.
* `Resolver.Asks`: some keys were looked up, in their order and each of them once, and the dynamic
  variables were asked for nothing that the store has.
-/

namespace StepArguments

/-! ## Events -/

/-- The keys that the store was asked for, the earliest first. -/
def History.lookups (h : History) : List String :=
  h.reverse.filterMap fun
    | .lookup key => some key
    | _ => none

@[simp] theorem History.lookups_nil : History.lookups [] = [] := rfl

theorem History.lookups_append (later earlier : History) :
    History.lookups (later ++ earlier) = earlier.lookups ++ later.lookups := by
  simp [History.lookups]

theorem History.timesAsked_le_of_suffix {earlier later : History} (h : earlier <:+ later)
    (name : String) : earlier.timesAsked name ≤ later.timesAsked name :=
  h.sublist.countP_le

/-- What asking for a dynamic variable may leave in the history: in a dry run that it was skipped,
    else that the provider which the name reaches was asked, and that it failed. -/
inductive Dynamic.Concerns (d : Dynamic) (name : String) : Event → Prop
  | skipped : d.dryRun = true → Concerns d name (.report (.dynamicSkipped name))
  | asked {registered : String} {provider : Provider} : d.dryRun = false →
      d.registry.reach? name = some (registered, provider) →
      Concerns d name (.provider registered)
  | failed {registered reason : String} {provider : Provider} : d.dryRun = false →
      d.registry.reach? name = some (registered, provider) →
      Concerns d name (.report (.providerFailed name reason))

namespace Dynamic

/-! ## Steady providers -/

/-- From a point of a run on, every provider answers as it does at that point. -/
def Steady (d : Dynamic) (h : History) : Prop :=
  ∀ name provider, d.registry.get? name = some provider →
    ∀ earlier, h.timesAsked name ≤ earlier →
      provider.answer earlier = provider.answer (h.timesAsked name)

theorem get?_of_reach? {registry : Registry} {name registered : String} {provider : Provider}
    (h : registry.reach? name = some (registered, provider)) :
    registry.get? registered = some provider := by
  unfold Registry.reach? at h
  split at h
  · rename_i found hFound
    obtain ⟨rfl, rfl⟩ := Prod.mk.inj (Option.some.inj h)
    exact hFound
  · simp only [Option.bind_eq_bind, Option.bind_eq_some_iff, Option.map_eq_some_iff] at h
    obtain ⟨kebab, _, found, hFound, hPair⟩ := h
    obtain ⟨rfl, rfl⟩ := Prod.mk.inj hPair
    exact hFound

theorem lookup_eq_of_steady {d : Dynamic} {h later : History} (steady : d.Steady h)
    (since : h <:+ later) (name : String) : (d.lookup name later).1 = (d.lookup name h).1 := by
  unfold lookup
  split
  · rfl
  · cases hReach : d.registry.reach? name with
    | none => rfl
    | some reached =>
      obtain ⟨registered, provider⟩ := reached
      have hAnswer := steady registered provider (get?_of_reach? hReach) _
        (History.timesAsked_le_of_suffix since registered)
      simp only [ask, hAnswer]
      cases provider.answer (h.timesAsked registered) <;> rfl

theorem lookup_events (d : Dynamic) (name : String) (h : History) :
    ∃ events, (d.lookup name h).2 = events ++ h ∧ ∀ event ∈ events, d.Concerns name event := by
  unfold lookup
  split
  · rename_i hDry
    exact ⟨[_], rfl, by simpa using .skipped hDry⟩
  · rename_i hDry
    have hLive : d.dryRun = false := by simpa using hDry
    cases hReach : d.registry.reach? name with
    | none => exact ⟨[], rfl, by simp⟩
    | some reached =>
      obtain ⟨registered, provider⟩ := reached
      simp only [ask]
      cases provider.answer (h.timesAsked registered) with
      | ok value => exact ⟨[_], rfl, by simpa using .asked hLive hReach⟩
      | error reason =>
        exact ⟨[_, _], rfl, by simpa using ⟨.failed hLive hReach, .asked hLive hReach⟩⟩

theorem recall_events (d : Dynamic) (name : String) (m : Memory) :
    ∃ events, (d.recall name m).2.history = events ++ m.history ∧
      ∀ event ∈ events, d.Concerns name event := by
  unfold Dynamic.recall
  split
  · exact ⟨[], rfl, by simp⟩
  · exact lookup_events d name m.history

end Dynamic

/-! ## Faithful memories -/

/-- What is remembered is what asking at some earlier point of the run would give. -/
structure Memory.Faithful (d : Dynamic) (h : History) (m : Memory) : Prop where
  known : ∀ name answer, m.known.get? name = some answer → answer = (d.lookup name h).1
  since : h <:+ m.history

theorem Memory.faithful_initial (d : Dynamic) (h : History) :
    Memory.Faithful d h { history := h } :=
  ⟨fun name answer hKnown => by simp at hKnown, List.suffix_refl h⟩

namespace Dynamic

variable {d : Dynamic} {h : History} {m : Memory}

theorem recall_of_faithful (steady : d.Steady h) (faithful : m.Faithful d h) (name : String) :
    (d.recall name m).1 = (d.lookup name h).1 ∧ (d.recall name m).2.Faithful d h := by
  have hAsked := lookup_eq_of_steady steady faithful.since name
  obtain ⟨events, hEvents, _⟩ := lookup_events d name m.history
  unfold Dynamic.recall
  split
  · rename_i answer hKnown
    exact ⟨faithful.known name answer hKnown, faithful⟩
  · refine ⟨hAsked, ⟨?_, ?_⟩⟩
    · intro other answer hOther
      rw [Named.get?_put] at hOther
      split at hOther
      · rename_i hName
        obtain rfl := Option.some.inj hOther
        rw [hName, hAsked]
      · exact faithful.known other answer hOther
    · show h <:+ (d.lookup name m.history).2
      rw [hEvents]
      exact faithful.since.trans (List.suffix_append events m.history)

end Dynamic

namespace Resolver

/-! ## Looking a key up -/

variable {r : Resolver} {key : String} {m : Memory}

theorem lookup_of_stored {value : Value} (hStored : r.find? key = some value) :
    r.lookup key m = (some value, { m with history := .lookup key :: m.history }) := by
  rw [lookup, hStored]

theorem lookup_of_remembered {answer : Option Value} (hMissing : r.find? key = none)
    (hKnown : m.known.get? key = some answer) :
    r.lookup key m = (answer, { m with history := .lookup key :: m.history }) := by
  rw [lookup, hMissing]
  simp only [Dynamic.recall, hKnown]

theorem lookup_of_new (hMissing : r.find? key = none) (hNew : m.known.get? key = none) :
    r.lookup key m =
      let (answer, h) := r.dynamic.lookup key (.lookup key :: m.history)
      (answer, ⟨m.known.put key answer, h⟩) := by
  rw [lookup, hMissing]
  simp only [Dynamic.recall, hNew]

/-- What is found under a key at a point of a run: the value in the store, else that of the dynamic
    variables. -/
def answerAt (r : Resolver) (h : History) (key : String) : Option Value :=
  (r.find? key).or (r.dynamic.lookup key h).1

/-- Between two points of a run the keys were looked up in their order, each of them once, and all
    else that happened was asking the dynamic variables for keys that the store does not have. -/
def Asks (r : Resolver) (keys : List String) (before after : History) : Prop :=
  ∃ events, after = events ++ before ∧ History.lookups events = keys ∧
    ∀ event ∈ events, (∃ key, event = .lookup key) ∨
      ∃ key ∈ keys, r.find? key = none ∧ r.dynamic.Concerns key event

theorem Asks.refl (r : Resolver) (h : History) : r.Asks [] h h :=
  ⟨[], rfl, rfl, by simp⟩

theorem Asks.trans {r : Resolver} {keys₁ keys₂ : List String} {h₁ h₂ h₃ : History}
    (first : r.Asks keys₁ h₁ h₂) (second : r.Asks keys₂ h₂ h₃) :
    r.Asks (keys₁ ++ keys₂) h₁ h₃ := by
  obtain ⟨events₁, hHistory₁, hKeys₁, hEvents₁⟩ := first
  obtain ⟨events₂, hHistory₂, hKeys₂, hEvents₂⟩ := second
  refine ⟨events₂ ++ events₁, ?_, ?_, ?_⟩
  · rw [hHistory₂, hHistory₁, List.append_assoc]
  · rw [History.lookups_append, hKeys₁, hKeys₂]
  · intro event hEvent
    cases List.mem_append.1 hEvent with
    | inl hEvent =>
      exact (hEvents₂ event hEvent).imp_right fun ⟨key, hKey, hMissing⟩ =>
        ⟨key, List.mem_append_right _ hKey, hMissing⟩
    | inr hEvent =>
      exact (hEvents₁ event hEvent).imp_right fun ⟨key, hKey, hMissing⟩ =>
        ⟨key, List.mem_append_left _ hKey, hMissing⟩

/-- The keys that were looked up between two points of a run are determined. -/
theorem Asks.unique {keys keys' : List String} {before after : History}
    (asks : r.Asks keys before after) (asks' : r.Asks keys' before after) : keys = keys' := by
  obtain ⟨events, hEvents, hKeys, -⟩ := asks
  obtain ⟨events', hEvents', hKeys', -⟩ := asks'
  rw [hEvents, List.append_cancel_right_eq] at hEvents'
  rw [← hKeys, ← hKeys', hEvents']

theorem lookups_eq_nil_of_concerns {d : Dynamic} {name : String} {events : List Event}
    (h : ∀ event ∈ events, d.Concerns name event) : History.lookups events = [] := by
  rw [History.lookups, List.filterMap_eq_nil_iff]
  intro event hEvent
  cases h event (List.mem_reverse.1 hEvent) <;> rfl

theorem lookup_asks (r : Resolver) (key : String) (m : Memory) :
    r.Asks [key] m.history (r.lookup key m).2.history := by
  unfold lookup
  cases hFound : r.find? key with
  | some value => exact ⟨[.lookup key], rfl, rfl, by simp⟩
  | none =>
    obtain ⟨events, hHistory, hEvents⟩ :=
      r.dynamic.recall_events key { m with history := .lookup key :: m.history }
    refine ⟨events ++ [.lookup key], ?_, ?_, ?_⟩
    · simpa using hHistory
    · rw [History.lookups_append, lookups_eq_nil_of_concerns hEvents]
      rfl
    · intro event hEvent
      cases List.mem_append.1 hEvent with
      | inl hEvent => exact .inr ⟨key, by simp, hFound, hEvents event hEvent⟩
      | inr hEvent => exact .inl ⟨key, by simpa using hEvent⟩

theorem lookup_of_faithful {r : Resolver} {h : History} {m : Memory} (steady : r.dynamic.Steady h)
    (faithful : m.Faithful r.dynamic h) (key : String) :
    (r.lookup key m).1 = r.answerAt h key ∧ (r.lookup key m).2.Faithful r.dynamic h := by
  have hMemory : Memory.Faithful r.dynamic h { m with history := .lookup key :: m.history } :=
    ⟨faithful.known, faithful.since.trans (List.suffix_cons _ _)⟩
  unfold lookup answerAt
  cases r.find? key with
  | some value => exact ⟨rfl, hMemory⟩
  | none => simpa using Dynamic.recall_of_faithful steady hMemory key

end Resolver

end StepArguments
