import Mathlib.Data.List.Dedup
import StepArguments.Proofs.Resolver.Meaning

/-! # One value for each spelling

A call remembers what it was told under each key, so it sees every key with one value, however its
provider changes its answers: the result is the meaning of the text under one assignment of values
to keys (`resolve_eq_found_meaning`).

What is remembered goes by the spelling that was asked for and not by the provider, though.  A
kebab-case name and its camelCase alias are two requests, and the provider is asked once for each
spelling that reaches it (`timesAsked_resolve`).  A dynamic variable is meant to have one value in a
call; `oneValuePerProvider_iff` says that it has just if the call does not spell it in two ways, and
`not_oneValuePerProvider` gives a text that does.
-/

namespace StepArguments

/-! ## Providers that are asked -/

namespace Dynamic

/-- The name of the provider that is asked for a dynamic variable. -/
def provider? (d : Dynamic) (name : String) : Option String :=
  if d.dryRun then none else (d.registry.reach? name).map (·.1)

theorem timesAsked_lookup (d : Dynamic) (name : String) (h : History) (provider : String) :
    (d.lookup name h).2.timesAsked provider =
      h.timesAsked provider + if d.provider? name = some provider then 1 else 0 := by
  unfold lookup provider?
  split
  · simp [History.timesAsked_cons]
  · cases d.registry.reach? name with
    | none => simp
    | some reached =>
      obtain ⟨registered, found⟩ := reached
      simp only [ask]
      cases found.answer (h.timesAsked registered) <;> simp [History.timesAsked_cons]

theorem lookup_eq_none_of_provider? {d : Dynamic} {name : String} (hNone : d.provider? name = none)
    (h : History) : (d.lookup name h).1 = none := by
  unfold provider? at hNone
  unfold lookup
  split
  · rfl
  · rename_i hLive
    rw [if_neg hLive, Option.map_eq_none_iff] at hNone
    rw [hNone]

end Dynamic

/-- What one memory knows, a later one knows as well. -/
def Memory.Keeps (m later : Memory) : Prop :=
  ∀ name answer, m.known.get? name = some answer → later.known.get? name = some answer

namespace Memory.Keeps

theorem refl (m : Memory) : m.Keeps m :=
  fun _ _ hKnown => hKnown

theorem trans {m₁ m₂ m₃ : Memory} (first : m₁.Keeps m₂) (second : m₂.Keeps m₃) : m₁.Keeps m₃ :=
  fun name answer hKnown => second name answer (first name answer hKnown)

end Memory.Keeps

namespace Resolver

variable {r : Resolver} {h : History} {m last : Memory} {key : String} {keys : List String}

/-- The name of the provider that gives a key its value, if it is one and not the store. -/
def provider? (r : Resolver) (key : String) : Option String :=
  if (r.find? key).isSome then none else r.dynamic.provider? key

/-! ## What a call remembers -/

theorem lookup_snd_of_old (hOld : ¬ (r.find? key = none ∧ m.known.get? key = none)) :
    (r.lookup key m).2 = { m with history := .lookup key :: m.history } := by
  cases hFind : r.find? key with
  | some value => rw [lookup_of_stored hFind]
  | none =>
    cases hKnown : m.known.get? key with
    | some answer => rw [lookup_of_remembered hFind hKnown]
    | none => exact absurd ⟨hFind, hKnown⟩ hOld

theorem lookup_keeps (r : Resolver) (key : String) (m : Memory) : m.Keeps (r.lookup key m).2 := by
  by_cases hNew : r.find? key = none ∧ m.known.get? key = none
  · obtain ⟨hMissing, hUnknown⟩ := hNew
    rw [lookup_of_new hMissing hUnknown]
    intro name answer hName
    have hOther : name ≠ key := by
      rintro rfl
      rw [hUnknown] at hName
      cases hName
    simpa [Named.get?_put, hOther] using hName
  · rw [lookup_snd_of_old hNew]
    exact .refl m

/-- What a memory and the store give for a key. -/
def foundIn (r : Resolver) (m : Memory) (key : String) : Option Value :=
  (r.find? key).or (m.known.get? key).join

/-- The answer to a look-up can be read off every later memory of the call. -/
theorem lookup_eq_foundIn (keeps : (r.lookup key m).2.Keeps last) :
    (r.lookup key m).1 = r.foundIn last key := by
  unfold foundIn
  cases hFind : r.find? key with
  | some value => rw [lookup_of_stored hFind, Option.some_or]
  | none =>
    rw [Option.none_or]
    cases hKnown : m.known.get? key with
    | some answer =>
      rw [lookup_of_remembered hFind hKnown] at keeps ⊢
      rw [keeps key answer hKnown, Option.join_some]
    | none =>
      rw [lookup_of_new hFind hKnown] at keeps ⊢
      rw [keeps key _ (by rw [Named.get?_put, if_pos rfl]), Option.join_some]

/-! ## The books of a call -/

/-- A call that began at a point of the run and has looked keys up: its memory names the keys that
    the store does not have, each of them once, for each of them its provider was asked once, and
    what is remembered is what asking gave at some point of the run. -/
structure Ledger (r : Resolver) (h : History) (keys : List String) (m : Memory) : Prop where
  asks : r.Asks keys h m.history
  nodup_names : m.known.names.Nodup
  mem_names : ∀ key, key ∈ m.known.names ↔ key ∈ keys ∧ r.find? key = none
  timesAsked : ∀ name, m.history.timesAsked name =
    h.timesAsked name + m.known.names.countP fun key => r.provider? key = some name
  known : ∀ key answer, m.known.get? key = some answer →
    ∃ point, (r.dynamic.lookup key point).1 = answer

theorem Ledger.initial (r : Resolver) (h : History) : r.Ledger h [] { history := h } where
  asks := .refl r h
  nodup_names := List.nodup_nil
  mem_names := by simp [Named.names]
  timesAsked := by simp [Named.names]
  known := by simp

theorem Ledger.lookup (ledger : r.Ledger h keys m) (key : String) :
    r.Ledger h (keys ++ [key]) (r.lookup key m).2 := by
  have asks := ledger.asks.trans (r.lookup_asks key m)
  by_cases hNew : r.find? key = none ∧ m.known.get? key = none
  · obtain ⟨hMissing, hUnknown⟩ := hNew
    have hProvider : r.provider? key = r.dynamic.provider? key := by simp [provider?, hMissing]
    rw [lookup_of_new hMissing hUnknown] at asks ⊢
    refine ⟨asks, Named.nodup_names_put ledger.nodup_names _ _, fun other => ?_, fun name => ?_,
      fun other answer hOther => ?_⟩
    · simp only [Named.mem_names_put, ledger.mem_names, List.mem_append, List.mem_singleton]
      constructor
      · rintro (rfl | ⟨hKey, hOther⟩)
        · exact ⟨.inr rfl, hMissing⟩
        · exact ⟨.inl hKey, hOther⟩
      · rintro ⟨hKey | rfl, hOther⟩
        · exact .inr ⟨hKey, hOther⟩
        · exact .inl rfl
    · simp only [Named.names_put_of_get?_eq_none hUnknown, List.countP_append,
        List.countP_singleton, Dynamic.timesAsked_lookup, History.timesAsked_cons,
        ledger.timesAsked name, hProvider]
      simp [Nat.add_assoc]
    · rw [Named.get?_put] at hOther
      split at hOther
      · rename_i hName
        rw [hName]
        exact ⟨_, Option.some.inj hOther⟩
      · exact ledger.known other answer hOther
  · -- the store has the key, or it was asked for before
    rw [lookup_snd_of_old hNew] at asks ⊢
    refine ⟨asks, ledger.nodup_names, fun other => ?_, fun name => ?_, ledger.known⟩
    · have hAgain : other = key → r.find? other = none → other ∈ keys := by
        rintro rfl hMissing
        have hKnown : m.known.get? other ≠ none := fun hUnknown => hNew ⟨hMissing, hUnknown⟩
        have hName := (Named.mem_names_iff m.known other).2 (Option.isSome_iff_ne_none.2 hKnown)
        exact ((ledger.mem_names other).1 hName).1
      simp only [ledger.mem_names, List.mem_append, List.mem_singleton]
      exact ⟨fun ⟨hKey, hMissing⟩ => ⟨.inl hKey, hMissing⟩,
        fun ⟨hKey, hMissing⟩ => ⟨hKey.elim id (hAgain · hMissing), hMissing⟩⟩
    · simpa [History.timesAsked_cons] using ledger.timesAsked name

theorem fill_keeps (r : Resolver) (t : Template) (m : Memory) : m.Keeps (r.fill t m).2 := by
  induction t generalizing m with
  | text s => exact .refl m
  | placeholder before keyTemplate rest ihKey ihRest =>
    have keepsKey := ihKey m
    rcases hKey : r.fill keyTemplate m with ⟨key, keyMemory⟩
    rw [hKey] at keepsKey
    have keepsLookup := r.lookup_keeps (String.ofList key) keyMemory
    rcases hLookup : r.lookup (String.ofList key) keyMemory with ⟨answer, memory⟩
    rw [hLookup] at keepsLookup
    rw [fill_placeholder hKey hLookup]
    exact keepsKey.trans (keepsLookup.trans (ihRest memory))

/-- In every later memory of the call a template has the meaning that it was filled with, and the
    books hold the keys that this meaning asks for. -/
theorem Ledger.fill (t : Template) {keys : List String} {m : Memory}
    (ledger : r.Ledger h keys m) (keeps : (r.fill t m).2.Keeps last) :
    (r.fill t m).1 = t.meaning (r.foundIn last) ∧
      r.Ledger h (keys ++ t.asked (r.foundIn last)) (r.fill t m).2 := by
  induction t generalizing keys m with
  | text s =>
    refine ⟨rfl, ?_⟩
    rw [Template.asked, List.append_nil]
    exact ledger
  | placeholder before keyTemplate rest ihKey ihRest =>
    rcases hFill : r.fill keyTemplate m with ⟨key, keyMemory⟩
    rcases hLookup : r.lookup (String.ofList key) keyMemory with ⟨answer, memory⟩
    rw [fill_placeholder hFill hLookup] at keeps ⊢
    -- memories only grow, so the last one knows what was found for the key and in the key
    have keepsMemory : memory.Keeps last := (r.fill_keeps rest memory).trans keeps
    have keepsKey : keyMemory.Keeps last := by
      have keepsLookup := r.lookup_keeps (String.ofList key) keyMemory
      rw [hLookup] at keepsLookup
      exact keepsLookup.trans keepsMemory
    obtain ⟨hKey, ledgerKey⟩ := ihKey ledger (by rwa [hFill])
    have hAnswer :
        (r.lookup (String.ofList key) keyMemory).1 = r.foundIn last (String.ofList key) :=
      lookup_eq_foundIn (by rwa [hLookup])
    have ledgerLookup := ledgerKey.lookup (String.ofList key)
    rw [hFill] at hKey ledgerLookup
    rw [hLookup] at hAnswer ledgerLookup
    obtain ⟨hRest, ledgerRest⟩ := ihRest ledgerLookup keeps
    subst hKey hAnswer
    refine ⟨?_, ?_⟩
    · rw [Template.meaning, hRest]
    · rw [Template.asked]
      simpa using ledgerRest

/-! ## What a call finds -/

/-- The memory at the end of a call. -/
def memoryAfter (r : Resolver) (text : String) (h : History) : Memory :=
  (r.fill (.ofChars text.toList) { history := h }).2

/-- What a call finds under a key. -/
def found (r : Resolver) (text : String) (h : History) : String → Option Value :=
  r.foundIn (r.memoryAfter text h)

/-- The keys that a call looks up. -/
def lookedUp (r : Resolver) (text : String) (h : History) : List String :=
  (Template.ofChars text.toList).asked (r.found text h)

/-- The different keys under which a call asks for the values of one provider. -/
def spellings (r : Resolver) (text : String) (h : History) (name : String) : List String :=
  (r.lookedUp text h).dedup.filter fun key => r.provider? key = some name

theorem history_memoryAfter (r : Resolver) (text : String) (h : History) :
    (r.memoryAfter text h).history = (r.resolve text h).2 := by
  simp only [memoryAfter, resolve, resolveFrom_eq]

theorem ledger_memoryAfter (r : Resolver) (text : String) (h : History) :
    r.Ledger h (r.lookedUp text h) (r.memoryAfter text h) :=
  ((Ledger.initial r h).fill _ (.refl _)).2

/-- Whatever the providers do, a call gives the meaning of its text under one value for each key. -/
theorem resolve_eq_found_meaning (r : Resolver) (text : String) (h : History) :
    (r.resolve text h).1.display =
        String.ofList ((Template.ofChars text.toList).meaning (r.found text h)) ∧
      r.Asks (r.lookedUp text h) h (r.resolve text h).2 := by
  have hMeaning := ((Ledger.initial r h).fill (.ofChars text.toList) (.refl _)).1
  refine ⟨?_, ?_⟩
  · simp only [resolve, resolveFrom_eq, if_pos, List.reverse_nil, List.nil_append]
    rw [Value.display, chars_getD_native?, hMeaning]
    rfl
  · rw [← history_memoryAfter]
    exact (r.ledger_memoryAfter text h).asks

/-- What a call finds under a key is what asking for it at some point of the run gives. -/
theorem exists_found_eq_answerAt {text : String} (hKey : key ∈ r.lookedUp text h) :
    ∃ point, r.found text h key = r.answerAt point key := by
  have ledger := r.ledger_memoryAfter text h
  unfold found foundIn answerAt
  cases hFind : r.find? key with
  | some value => exact ⟨h, by rw [Option.some_or, Option.some_or]⟩
  | none =>
    have hName := (ledger.mem_names key).2 ⟨hKey, hFind⟩
    rw [Named.mem_names_iff] at hName
    obtain ⟨answer, hKnown⟩ := Option.isSome_iff_exists.1 hName
    obtain ⟨point, hPoint⟩ := ledger.known key answer hKnown
    exact ⟨point, by rw [hKnown, Option.join_some, hPoint]⟩

theorem find?_eq_none_of_provider? {name : String} (hProvider : r.provider? key = some name) :
    r.find? key = none := by
  cases hFind : r.find? key with
  | none => rfl
  | some value => simp [provider?, hFind] at hProvider

theorem mem_spellings {text name : String} :
    key ∈ r.spellings text h name ↔
      key ∈ r.lookedUp text h ∧ r.provider? key = some name := by
  simp [spellings]

/-- A call asks a provider once for each different spelling. -/
theorem timesAsked_resolve (r : Resolver) (text : String) (h : History) (name : String) :
    (r.resolve text h).2.timesAsked name =
      h.timesAsked name + (r.spellings text h name).length := by
  have ledger := r.ledger_memoryAfter text h
  rw [← history_memoryAfter, ledger.timesAsked, List.countP_eq_length_filter]
  congr 1
  refine List.Perm.length_eq ((List.perm_ext_iff_of_nodup (ledger.nodup_names.filter _)
    ((List.nodup_dedup _).filter _)).2 fun key => ?_)
  simp only [List.mem_filter, List.mem_dedup, ledger.mem_names, decide_eq_true_eq]
  exact ⟨fun ⟨⟨hKey, _⟩, hProvider⟩ => ⟨hKey, hProvider⟩,
    fun ⟨hKey, hProvider⟩ => ⟨⟨hKey, find?_eq_none_of_provider? hProvider⟩, hProvider⟩⟩

/-! ## One value for each provider -/

/-- The values of keys when each dynamic variable has one, however it is spelled. -/
def answerBy (r : Resolver) (valueOf : String → Option Value) (key : String) : Option Value :=
  match r.provider? key with
  | some name => valueOf name
  | none => r.find? key

/-- The intended rule: a call asks each provider at most once, and its result is the meaning of the
    text under one value for each provider. -/
structure OneValuePerProvider (r : Resolver) (text : String) (h : History) : Prop where
  once : ∀ name, (r.resolve text h).2.timesAsked name ≤ h.timesAsked name + 1
  same : ∃ valueOf,
    (r.resolve text h).1.display =
        String.ofList ((Template.ofChars text.toList).meaning (r.answerBy valueOf)) ∧
      r.Asks ((Template.ofChars text.toList).asked (r.answerBy valueOf)) h (r.resolve text h).2

/-- A key that no provider gives a value has the one in the store. -/
theorem answerAt_of_provider?_eq_none (hNone : r.provider? key = none) (h : History) :
    r.answerAt h key = r.find? key := by
  unfold answerAt
  cases hFind : r.find? key with
  | some value => rw [Option.some_or]
  | none =>
    rw [provider?, hFind] at hNone
    rw [Option.none_or, Dynamic.lookup_eq_none_of_provider? hNone]

/-- What a call finds for a provider, under one of its spellings. -/
def valueOf (r : Resolver) (text : String) (h : History) (name : String) : Option Value :=
  (r.spellings text h name).head?.bind (r.found text h)

theorem found_eq_answerBy {text : String} (hKey : key ∈ r.lookedUp text h)
    (hSpellings : ∀ name, (r.spellings text h name).length ≤ 1) :
    r.found text h key = r.answerBy (r.valueOf text h) key := by
  unfold answerBy
  cases hProvider : r.provider? key with
  | none =>
    obtain ⟨point, hPoint⟩ := exists_found_eq_answerAt hKey
    rw [hPoint, answerAt_of_provider?_eq_none hProvider]
  | some name =>
    -- the key is the only spelling of its provider
    have hMem := mem_spellings.2 ⟨hKey, hProvider⟩
    obtain ⟨only, hOnly⟩ := List.length_eq_one_iff.1
      (Nat.le_antisymm (hSpellings name) (List.length_pos_of_mem hMem))
    obtain rfl : key = only := by simpa [hOnly] using hMem
    simp [valueOf, hOnly]

/-- The rule holds just for the calls that spell no dynamic variable in two ways. -/
theorem oneValuePerProvider_iff (r : Resolver) (text : String) (h : History) :
    r.OneValuePerProvider text h ↔ ∀ name, (r.spellings text h name).length ≤ 1 := by
  constructor
  · intro rule name
    have hOnce := rule.once name
    rw [timesAsked_resolve] at hOnce
    exact Nat.le_of_add_le_add_left hOnce
  · intro hSpellings
    obtain ⟨hMeaning, hAsks⟩ := r.resolve_eq_found_meaning text h
    obtain ⟨hSame, hAsked⟩ :=
      Template.meaning_congr fun key hKey => found_eq_answerBy hKey hSpellings
    refine ⟨fun name => ?_, r.valueOf text h, ?_, ?_⟩
    · rw [timesAsked_resolve]
      exact Nat.add_le_add_left (hSpellings name) _
    · rw [hMeaning, hSame]
    · rw [← hAsked]
      exact hAsks

/-- An empty store, and a dynamic variable that counts how often it is asked for. -/
def counting : Resolver where
  find? _ := none
  dynamic := { registry := [("foo-bar", .counter 0)] }

/-- A name and its alias are two spellings of one dynamic variable. -/
theorem not_oneValuePerProvider : ¬ counting.OneValuePerProvider "${foo-bar} ${fooBar}" [] := by
  intro rule
  have hOnce := rule.once "foo-bar"
  have hTwice : (counting.resolve "${foo-bar} ${fooBar}" []).2.timesAsked "foo-bar" = 2 := by
    decide +kernel
  rw [hTwice] at hOnce
  exact absurd hOnce (by decide)

end Resolver

end StepArguments
