import Mathlib.Data.List.Basic
import StepArguments.Dynamic.Registry
import StepArguments.Proofs.Text.LetterCase
import StepArguments.Text.Search

/-! # Two spellings of a name

A name of several words can be spelled with hyphens between the words or with a capital at the start
of each word but the first.  The kebab-case spelling is computed from the camelCase one, character by
character and with no knowledge of the words (`kebabFrom_camelChars`), and it shows the words, as a
hyphen is in none of them.  So each spelling belongs to one list of words only (`camel_injective`,
`kebab_injective`), and a look-up under one of them ends at a provider of the same words
(`eq_of_reach?_camel`).

Which provider that is, `lookup_camel` says for every registry: the one with just the spelling that was
asked for, else the one with the kebab-case spelling, and never a second one.
-/

namespace StepArguments

/-! ## Words -/

def isWordChar (c : Char) : Bool :=
  c.isLower || c.isDigit

/-- A word of small letters and digits. -/
def IsWord (word : List Char) : Prop :=
  word ≠ [] ∧ word.all isWordChar = true

instance (word : List Char) : Decidable (IsWord word) :=
  inferInstanceAs (Decidable (_ ∧ _))

/-- The words of a name.  Each but the first starts with a letter. -/
@[ext]
structure Words where
  first : List Char
  later : List (List Char)
  isWord_first : IsWord first
  isWord_later : ∀ word ∈ later, IsWord word ∧ word.head?.any Char.isLower = true

/-- A word with a capital at its start. -/
def capitalized : List Char → List Char
  | [] => []
  | c :: s => c.toUpper :: s

namespace Words

variable {words others : Words}

def camelChars (words : Words) : List Char :=
  words.first ++ words.later.flatMap capitalized

def kebabChars (words : Words) : List Char :=
  ['-'].intercalate (words.first :: words.later)

/-- The words one after the other, each but the first with a capital. -/
def camel (words : Words) : String :=
  String.ofList words.camelChars

/-- The words with hyphens between them. -/
def kebab (words : Words) : String :=
  String.ofList words.kebabChars

end Words

/-! ## Letter case of word characters -/

theorem toNat_lt_of_isWordChar {c : Char} (hWord : isWordChar c = true) : c.toNat < 128 := by
  cases Bool.or_eq_true_iff.1 hWord with
  | inl hLetter =>
    have hLast : c ≤ 'z' := of_decide_eq_true (Bool.and_eq_true_iff.1 hLetter).2
    exact Nat.lt_of_le_of_lt hLast (by decide)
  | inr hDigit =>
    have hLast : c ≤ '9' := of_decide_eq_true (Bool.and_eq_true_iff.1 hDigit).2
    exact Nat.lt_of_le_of_lt hLast (by decide)

theorem wordChar_table : ∀ n < 128, isWordChar (Char.ofNat n) = true →
    (Char.ofNat n).isUpper = false ∧
      ((Char.ofNat n).isLower = true → (Char.ofNat n).toUpper.toNat < 128 ∧
        (Char.ofNat n).toUpper.isUpper = true ∧
        (Char.ofNat n).toUpper.toLower = Char.ofNat n) := by
  decide +kernel

theorem isUpper_of_isWordChar {c : Char} (hWord : isWordChar c = true) :
    Text.isUpper c = false := by
  have hAscii := toNat_lt_of_isWordChar hWord
  have hHere := wordChar_table c.toNat hAscii
  rw [Char.ofNat_toNat] at hHere
  rw [Text.isUpper_of_ascii hAscii]
  exact (hHere hWord).1

theorem lowerChar_toUpper {c : Char} (hLetter : c.isLower = true) :
    Text.isUpper c.toUpper = true ∧ Text.lowerChar c.toUpper = [c] := by
  have hWord : isWordChar c = true := by simp [isWordChar, hLetter]
  have hHere := wordChar_table c.toNat (toNat_lt_of_isWordChar hWord)
  rw [Char.ofNat_toNat] at hHere
  obtain ⟨hAscii, hUpper, hBack⟩ := (hHere hWord).2 hLetter
  rw [Text.isUpper_of_ascii hAscii, Text.lowerChar_of_ascii hAscii, hBack]
  exact ⟨hUpper, rfl⟩

/-! ## From one spelling to the other -/

variable {c : Char} {s t : List Char} {later : List (List Char)}

theorem kebabFrom_append_of_not_upper (hSmall : ∀ c ∈ s, Text.isUpper c = false) (empty : Bool)
    (t : List Char) : kebabFrom empty (s ++ t) = s ++ kebabFrom (empty && s.isEmpty) t := by
  induction s generalizing empty with
  | nil => simp
  | cons c s ih =>
    obtain ⟨hHere, hLater⟩ := List.forall_mem_cons.1 hSmall
    simp [kebabFrom, hHere, ih hLater]

theorem IsWord.not_upper {word : List Char} (isWord : IsWord word) :
    ∀ c ∈ word, Text.isUpper c = false :=
  fun c hMem => isUpper_of_isWordChar (List.all_eq_true.1 isWord.2 c hMem)

theorem IsWord.hyphen_not_mem {word : List Char} (isWord : IsWord word) : '-' ∉ word :=
  fun hMem => absurd (List.all_eq_true.1 isWord.2 '-' hMem) (by decide)

/-- A capital is read as a hyphen and the letter, as there are words before it. -/
theorem kebabFrom_capitalized (hLater : ∀ word ∈ later, IsWord word ∧
    word.head?.any Char.isLower = true) :
    kebabFrom false (later.flatMap capitalized) = later.flatMap ('-' :: ·) := by
  induction later with
  | nil => rfl
  | cons word later ih =>
    obtain ⟨⟨isWord, hLetter⟩, hRest⟩ := List.forall_mem_cons.1 hLater
    cases word with
    | nil => simp at hLetter
    | cons c s =>
      obtain ⟨hUpper, hLower⟩ := lowerChar_toUpper (c := c) (by simpa using hLetter)
      have hSmall := (List.forall_mem_cons.1 isWord.not_upper).2
      simp [capitalized, kebabFrom, hUpper, hLower, kebabFrom_append_of_not_upper hSmall, ih hRest]

namespace Words

variable {words others : Words}

theorem kebabChars_eq (words : Words) :
    words.kebabChars = words.first ++ words.later.flatMap ('-' :: ·) := by
  rw [kebabChars]
  generalize words.first = first
  induction words.later generalizing first with
  | nil => simp
  | cons word later ih => simp [List.intercalate_cons_cons, ih]

theorem kebabFrom_camelChars (words : Words) :
    kebabFrom true words.camelChars = words.kebabChars := by
  have hFirst : words.first.isEmpty = false := by simpa using words.isWord_first.1
  rw [camelChars, kebabFrom_append_of_not_upper words.isWord_first.not_upper, hFirst,
    Bool.and_false, kebabFrom_capitalized words.isWord_later, kebabChars_eq]

theorem kebab_injective : Function.Injective kebab := by
  intro words others hSame
  have hSplit (words : Words) :
      Text.splitAt '-' words.kebabChars = words.first :: words.later := by
    rw [kebabChars_eq]
    exact Text.splitAt_lines words.isWord_first.hyphen_not_mem
      fun word hWord => (words.isWord_later word hWord).1.hyphen_not_mem
  have hWords := hSplit words
  rw [String.ofList_injective hSame, hSplit others] at hWords
  obtain ⟨hFirst, hLater⟩ := List.cons.inj hWords
  exact Words.ext hFirst.symm hLater.symm

theorem camel_injective : Function.Injective camel := by
  intro words others hSame
  apply kebab_injective
  rw [kebab, kebab, ← kebabFrom_camelChars, ← kebabFrom_camelChars,
    String.ofList_injective hSame]

theorem not_upper_kebabChars (words : Words) : ∀ c ∈ words.kebabChars, Text.isUpper c = false := by
  intro c hMem
  rw [kebabChars_eq, List.mem_append, List.mem_flatMap] at hMem
  rcases hMem with hFirst | ⟨word, hWord, hLater⟩
  · exact words.isWord_first.not_upper c hFirst
  · rcases List.mem_cons.1 hLater with rfl | hInWord
    · decide +kernel
    · exact (words.isWord_later word hWord).1.not_upper c hInWord

/-- A name that is spelled in both ways has one word. -/
theorem eq_of_camel_eq_kebab (hSame : words.camel = others.kebab) : words = others := by
  apply kebab_injective
  have hKebab : kebabFrom true others.kebabChars = others.kebabChars := by
    simpa [kebabFrom] using kebabFrom_append_of_not_upper others.not_upper_kebabChars true []
  rw [kebab, ← kebabFrom_camelChars, String.ofList_injective hSame, hKebab, kebab]

/-- A name of one word has no capital and so no alias. -/
theorem kebabCase?_camel (words : Words) :
    kebabCase? words.camel = if words.later = [] then none else some words.kebab := by
  rw [kebabCase?, camel, String.toList_ofList, kebabFrom_camelChars, kebab, camelChars]
  cases hLater : words.later with
  | nil =>
    have hNone : words.first.any Text.isUpper = false := by
      simpa using words.isWord_first.not_upper
    simp [hNone]
  | cons word later =>
    obtain ⟨-, hLetter⟩ := words.isWord_later word (by simp [hLater])
    cases word with
    | nil => simp at hLetter
    | cons c s =>
      obtain ⟨hUpper, -⟩ := lowerChar_toUpper (c := c) (by simpa using hLetter)
      simp [capitalized, hUpper]

theorem reach?_camel (registry : Registry) (words : Words) :
    registry.reach? words.camel =
      ((registry.get? words.camel).map (words.camel, ·)).or
        ((registry.get? words.kebab).map (words.kebab, ·)) := by
  rw [Registry.reach?]
  cases hExact : registry.get? words.camel with
  | some provider => rfl
  | none =>
    rw [kebabCase?_camel]
    by_cases hOne : words.later = []
    · -- both spellings are the one word
      have hSame : words.kebab = words.camel := by
        rw [kebab, kebabChars_eq, camel, camelChars, hOne, List.flatMap_nil, List.flatMap_nil]
      rw [if_pos hOne, hSame, hExact]
      rfl
    · rw [if_neg hOne]
      rfl

/-- A provider that is reached by the camelCase spelling of some words and is registered under the
    kebab-case spelling of others has the same words. -/
theorem eq_of_reach?_camel {registry : Registry} {provider : Provider}
    (hReach : registry.reach? words.camel = some (others.kebab, provider)) : words = others := by
  rw [reach?_camel, Option.or_eq_some_iff] at hReach
  rcases hReach with hExact | ⟨-, hAlias⟩
  · obtain ⟨_, -, hPair⟩ := Option.map_eq_some_iff.1 hExact
    exact eq_of_camel_eq_kebab (Prod.mk.inj hPair).1
  · obtain ⟨_, -, hPair⟩ := Option.map_eq_some_iff.1 hAlias
    exact kebab_injective (Prod.mk.inj hPair).1

end Words

/-! ## Look-ups -/

/-- The names of the providers that were asked, the earliest first. -/
def History.asked (h : History) : List String :=
  h.reverse.filterMap fun
    | .provider name => some name
    | _ => none

/-- The outcome of asking one provider: its value, or a report of its failure. -/
inductive Provider.Outcome (provider : Provider) (name registered : String) (h : History) :
    Option Value × History → Prop where
  | value {value : Value} (hAnswer : provider.answer (h.timesAsked registered) = .ok value) :
      Outcome provider name registered h (some value, .provider registered :: h)
  | failure {reason : String}
      (hAnswer : provider.answer (h.timesAsked registered) = .error reason) :
      Outcome provider name registered h
        (none, .report (.providerFailed name reason) :: .provider registered :: h)

theorem Provider.Outcome.asked_eq {provider : Provider} {name registered : String} {h : History}
    {result : Option Value × History} (outcome : provider.Outcome name registered h result) :
    result.2.asked = h.asked ++ [registered] := by
  cases outcome <;> simp [History.asked]

namespace Dynamic

variable {d : Dynamic} {name registered : String} {provider : Provider}

theorem lookup_of_reach? (hLive : d.dryRun = false)
    (hReach : d.registry.reach? name = some (registered, provider)) (h : History) :
    provider.Outcome name registered h (d.lookup name h) := by
  rw [lookup, hLive, if_neg Bool.false_ne_true, hReach]
  dsimp only [ask]
  cases hAnswer : provider.answer (h.timesAsked registered) with
  | ok value => exact .value hAnswer
  | error reason => exact .failure hAnswer

theorem lookup_of_reach?_eq_none (hLive : d.dryRun = false)
    (hReach : d.registry.reach? name = none) (h : History) : d.lookup name h = (none, h) := by
  rw [lookup, hLive, if_neg Bool.false_ne_true, hReach]

/-- What a look-up under the camelCase spelling of some words does: it asks the provider of just this
    spelling, or else the one of the kebab-case spelling, and no other. -/
structure LooksUpCamel (d : Dynamic) (words : Words) (h : History) : Prop where
  camel : ∀ provider, d.registry.get? words.camel = some provider →
    provider.Outcome words.camel words.camel h (d.lookup words.camel h)
  kebab : d.registry.get? words.camel = none →
    ∀ provider, d.registry.get? words.kebab = some provider →
      provider.Outcome words.camel words.kebab h (d.lookup words.camel h)
  missing : d.registry.get? words.camel = none → d.registry.get? words.kebab = none →
    d.lookup words.camel h = (none, h)
  once : ∃ names, (d.lookup words.camel h).2.asked = h.asked ++ names ∧ names.length ≤ 1

theorem looksUpCamel (hLive : d.dryRun = false) (words : Words) (h : History) :
    d.LooksUpCamel words h := by
  have hReach := words.reach?_camel d.registry
  refine ⟨fun provider hCamel => ?_, fun hNone provider hKebab => ?_, fun hNone hMissing => ?_, ?_⟩
  · rw [hCamel] at hReach
    exact lookup_of_reach? hLive hReach h
  · rw [hNone, hKebab] at hReach
    exact lookup_of_reach? hLive hReach h
  · rw [hNone, hMissing] at hReach
    exact lookup_of_reach?_eq_none hLive hReach h
  · cases hReached : d.registry.reach? words.camel with
    | none => exact ⟨[], by simp [lookup_of_reach?_eq_none hLive hReached]⟩
    | some reached =>
      have hAsked := (lookup_of_reach? hLive hReached h).asked_eq
      exact ⟨[reached.1], hAsked, Nat.le_refl 1⟩

/-- A dynamic variable is found under the camelCase spelling of its name, and no other words lead to
    the same spellings or to the same provider. -/
theorem lookup_camel (hLive : d.dryRun = false) (words others : Words) (h : History) :
    d.LooksUpCamel words h ∧
      (words.camel = others.camel ↔ words = others) ∧
      (words.kebab = others.kebab ↔ words = others) ∧
      ∀ provider, d.registry.reach? words.camel = some (others.kebab, provider) → words = others :=
  ⟨looksUpCamel hLive words h, Words.camel_injective.eq_iff, Words.kebab_injective.eq_iff,
    fun _ => Words.eq_of_reach?_camel⟩

/-- The words of a name with a digit in the middle and a word of one letter at the end. -/
def uuidWords : Words where
  first := "random".toList
  later := ["uuid4".toList, "v".toList]
  isWord_first := by decide +kernel
  isWord_later := by decide +kernel

/-- A dynamic variable that is registered under its kebab-case spelling only. -/
def uuidDynamic : Dynamic where
  registry := [("random-uuid4-v", .constant (.integer 7))]

theorem lookup_camel_uuid :
    uuidDynamic.dryRun = false ∧ uuidWords.camel = "randomUuid4V" ∧
      uuidWords.kebab = "random-uuid4-v" ∧
      (Provider.constant (.integer 7)).Outcome "randomUuid4V" "random-uuid4-v" []
        (uuidDynamic.lookup "randomUuid4V" []) := by
  have hCamel : uuidWords.camel = "randomUuid4V" := by decide +kernel
  have hKebab : uuidWords.kebab = "random-uuid4-v" := by decide +kernel
  obtain ⟨looksUp, -⟩ := lookup_camel (d := uuidDynamic) rfl uuidWords uuidWords []
  have outcome := looksUp.kebab (by rw [hCamel]; rfl) (.constant (.integer 7)) (by rw [hKebab]; rfl)
  rw [hCamel, hKebab] at outcome
  exact ⟨rfl, hCamel, hKebab, outcome⟩

end Dynamic

end StepArguments
