import Mathlib.Data.List.Forall2
import StepArguments.Proofs.Json.QuotedText
import StepArguments.Proofs.Json.WholeNumber
import StepArguments.Value.Display

/-! # JSON text of values, written and read

A reader that is to find the end of a value in the middle of a text has to stop at the character
behind it.  So what is said of a value here is said with any text behind it that can stand behind a
value (`Reads`): then the items of a list and the entries of a map are read one after the other, and
`reads_jsonChars` follows the value as it is built.  How deep it may be nested is counted by the
value and by the reader alike, and `parse_jsonChars` has the reader's limit in place of the depth.
-/

namespace StepArguments

/-- Values that JSON text tells apart: null, truth values, integers, texts, and lists and maps of
such values, nested at most to a depth and with no key twice in a map. -/
inductive Value.Exchangeable : (depth : Nat) → Value → Prop where
  | null : Exchangeable depth .null
  | bool (b : Bool) : Exchangeable depth (.bool b)
  | integer (i : Int64) : Exchangeable depth (.integer i)
  | text (s : String) : Exchangeable depth (.text s)
  | list {items : List Value} (inner : ∀ v ∈ items, Exchangeable depth v) :
      Exchangeable (depth + 1) (.list items)
  | map {entries : Bindings} (distinct : entries.names.Nodup)
      (inner : ∀ entry ∈ entries, Exchangeable depth entry.2) :
      Exchangeable (depth + 1) (.map entries)

namespace Json

variable {α : Type} {reader : Reader α} {text rest : List Char} {texts : List (List Char)} {a : α}
  {items : List α} {entries : List (String × α)} {bound : Nat}

/-! ## Separated texts -/

theorem separated_cons (separator part : List Char) (parts : List (List Char)) :
    separated separator (part :: parts) = part ++ parts.flatMap (separator ++ ·) := by
  induction parts generalizing part with
  | nil => simp [separated]
  | cons next parts ih => simp [separated, ih]

theorem Ends.later (ends : Ends rest) (texts : List (List Char)) :
    Ends (texts.flatMap (',' :: ·) ++ rest) := by
  cases texts with
  | nil => exact ends
  | cons text texts => exact .comma _

/-- A text starts with a character that tells a value from what separates values. -/
def Starts (text : List Char) : Prop :=
  ∃ c s, text = c :: s ∧ c ≠ ',' ∧ c ≠ ']' ∧ ∀ rest, skipBlanks (c :: rest) = c :: rest

/-- A text is read as a value, whatever can stand behind a value. -/
structure Reads (reader : Reader α) (text : List Char) (a : α) : Prop where
  starts : Starts text
  reads : ∀ {rest}, Ends rest → reader (text ++ rest) = .ok (a, rest)

theorem Starts.readItemStart_first (starts : Starts text) :
    readItemStart true (text ++ rest) = .ok (some (text ++ rest)) := by
  obtain ⟨c, s, rfl, hComma, hClose, hBlank⟩ := starts
  rw [List.cons_append, readItemStart, hBlank]
  simp [hComma, hClose]

theorem Starts.readItemStart_later (starts : Starts text) :
    readItemStart false (',' :: (text ++ rest)) = .ok (some (text ++ rest)) := by
  obtain ⟨c, s, rfl, hComma, hClose, hBlank⟩ := starts
  have hSeparator : skipBlanks (',' :: (c :: s ++ rest)) = ',' :: (c :: (s ++ rest)) := rfl
  rw [readItemStart, hSeparator]
  simp only [hBlank, List.cons_append]
  simp [hClose]

/-! ## Lists -/

theorem readItems_later (rest : List Char) (hItems : List.Forall₂ (Reads reader) texts items)
    (hBound : items.length < bound) :
    readItems reader bound false (texts.flatMap (',' :: ·) ++ ']' :: rest) = .ok (items, rest) := by
  induction hItems generalizing bound with
  | nil =>
    cases bound with
    | zero => cases hBound
    | succ bound => rfl
  | @cons text a texts items hItem _ ih =>
    cases bound with
    | zero => cases hBound
    | succ bound =>
      have hLater := ih (Nat.lt_of_succ_lt_succ hBound)
      have hEnds := (Ends.list rest).later texts
      rw [List.flatMap_cons, List.append_assoc, List.cons_append, readItems,
        hItem.starts.readItemStart_later]
      simp only [bind, Except.bind, hItem.reads hEnds, hLater]

theorem readItems_first (rest : List Char) (hItems : List.Forall₂ (Reads reader) texts items)
    (hBound : items.length < bound) :
    readItems reader bound true (separated [','] texts ++ ']' :: rest) = .ok (items, rest) := by
  cases bound with
  | zero => cases hBound
  | succ bound =>
    cases hItems with
    | nil => rfl
    | @cons text a texts items hItem hItems =>
      have hLater := readItems_later rest hItems (Nat.lt_of_succ_lt_succ hBound)
      have hEnds := (Ends.list rest).later texts
      rw [separated_cons, List.append_assoc, readItems, hItem.starts.readItemStart_first]
      simp only [bind, Except.bind, List.singleton_append, hItem.reads hEnds, hLater]

/-! ## Maps -/

/-- A text is read as an entry of a map: its key in quotes, a colon and its value. -/
def ReadsEntry (reader : Reader α) (text : List Char) (entry : String × α) : Prop :=
  ∃ value, text = quoted entry.1.toList ++ ':' :: value ∧ Reads reader value entry.2

theorem readEntries_later (rest : List Char)
    (hEntries : List.Forall₂ (ReadsEntry reader) texts entries)
    (hBound : entries.length < bound) :
    readEntries reader bound false (texts.flatMap (',' :: ·) ++ '}' :: rest) =
      .ok (entries, rest) := by
  induction hEntries generalizing bound with
  | nil =>
    cases bound with
    | zero => cases hBound
    | succ bound => rfl
  | @cons text entry texts entries hEntry _ ih =>
    cases bound with
    | zero => cases hBound
    | succ bound =>
      obtain ⟨value, rfl, hValue⟩ := hEntry
      have hLater := ih (Nat.lt_of_succ_lt_succ hBound)
      have hEnds := (Ends.map rest).later texts
      have hKey (s : List Char) : readKeyStart false (',' :: '"' :: s) = .ok (some s) := rfl
      have hColon (s : List Char) : readColon (':' :: s) = .ok ((), s) := rfl
      simp only [List.flatMap_cons, List.append_assoc, List.cons_append, quoted, List.nil_append,
        readEntries, hKey, bind, Except.bind, readText_body, hColon, hValue.reads hEnds, hLater,
        String.ofList_toList]

theorem readEntries_first (rest : List Char)
    (hEntries : List.Forall₂ (ReadsEntry reader) texts entries)
    (hBound : entries.length < bound) :
    readEntries reader bound true (separated [','] texts ++ '}' :: rest) = .ok (entries, rest) := by
  cases bound with
  | zero => cases hBound
  | succ bound =>
    cases hEntries with
    | nil => rfl
    | @cons text entry texts entries hEntry hEntries =>
      obtain ⟨value, rfl, hValue⟩ := hEntry
      have hLater := readEntries_later rest hEntries (Nat.lt_of_succ_lt_succ hBound)
      have hEnds := (Ends.map rest).later texts
      have hKey (s : List Char) : readKeyStart true ('"' :: s) = .ok (some s) := rfl
      have hColon (s : List Char) : readColon (':' :: s) = .ok ((), s) := rfl
      simp only [separated_cons, List.append_assoc, List.cons_append, quoted, List.nil_append,
        readEntries, hKey, bind, Except.bind, readText_body, hColon, hValue.reads hEnds, hLater,
        String.ofList_toList]

/-! ## Values -/

theorem length_le_length_separated (separator : List Char) (hTexts : ∀ text ∈ texts, text ≠ []) :
    texts.length ≤ (separated separator texts).length := by
  fun_induction separated separator texts with
  | case1 => simp
  | case2 text =>
    exact List.length_pos_of_ne_nil (hTexts text List.mem_cons_self)
  | case3 text texts _ ih =>
    obtain ⟨hText, hLater⟩ := List.forall_mem_cons.1 hTexts
    have hPositive := List.length_pos_of_ne_nil hText
    have hRest := ih hLater
    simp only [List.length_cons, List.length_append] at hRest ⊢
    omega

theorem jsonItems_eq (items : List Value) : Value.jsonItems items = items.map Value.jsonChars := by
  induction items with
  | nil => rfl
  | cons v items ih => rw [Value.jsonItems, ih, List.map_cons]

theorem jsonEntries_eq (entries : Bindings) : Value.jsonEntries entries =
    entries.map fun entry => quoted entry.1.toList ++ ':' :: entry.2.jsonChars := by
  induction entries with
  | nil => rfl
  | cons entry entries ih => rw [Value.jsonEntries, ih, List.map_cons]

theorem ne_of_isDigit {c d : Char} (hc : c.isDigit = true) (hd : d.isDigit = false) : c ≠ d := by
  rintro rfl
  rw [hc] at hd
  cases hd

theorem starts_of_isDigit {c : Char} (hc : c.isDigit = true) (s : List Char) : Starts (c :: s) := by
  refine ⟨c, s, rfl, ne_of_isDigit hc rfl, ne_of_isDigit hc rfl, fun rest => ?_⟩
  have hSpace := ne_of_isDigit hc (d := ' ') rfl
  have hFeed := ne_of_isDigit hc (d := '\n') rfl
  have hTab := ne_of_isDigit hc (d := '\t') rfl
  have hReturn := ne_of_isDigit hc (d := '\r') rfl
  simp [skipBlanks, hSpace, hFeed, hTab, hReturn]

theorem readValue_of_isDigit {c : Char} (hc : c.isDigit = true) (depth : Nat) (s : List Char) :
    readValue depth (c :: s) = (readNumber false (c :: s)).map fun (n, s) => (n.value, s) := by
  obtain ⟨_, _, hText, -, -, hBlank⟩ := starts_of_isDigit hc s
  obtain ⟨rfl, rfl⟩ := List.cons.inj hText
  rw [readValue, hBlank]
  simp only [ne_of_isDigit hc (d := 'n') rfl, ne_of_isDigit hc (d := 't') rfl,
    ne_of_isDigit hc (d := 'f') rfl, ne_of_isDigit hc (d := '"') rfl,
    ne_of_isDigit hc (d := '-') rfl, hc, if_false, if_true]

theorem reads_integer (depth : Nat) (i : Int64) :
    Reads (readValue depth) (Value.integer i).jsonChars (.integer i) := by
  rw [Value.jsonChars, Decimal.integerChars]
  by_cases hSign : i.toInt < 0
  · obtain ⟨hPositive, hLimit, hSame⟩ := Decimal.natAbs_of_negative hSign
    have hFits : i.toInt.natAbs ≤ significandLimit := hLimit.trans (by decide)
    rw [if_pos hSign]
    refine ⟨⟨'-', _, rfl, by decide, by decide, fun _ => rfl⟩, fun {rest} ends => ?_⟩
    rw [List.cons_append, readValue]
    show (readNumber true (Decimal.digitChars i.toInt.natAbs ++ rest)).map _ = _
    rw [readNumber_digitChars hFits ends, ends.finishNumber_negative hPositive hLimit, hSame]
    rfl
  · obtain ⟨hLimit, hSame⟩ := Decimal.natAbs_of_natural hSign
    have hFits : i.toInt.natAbs ≤ significandLimit := hLimit.le.trans (by decide)
    rw [if_neg hSign]
    cases hDigits : Decimal.digitChars i.toInt.natAbs with
    | nil => exact absurd hDigits (Decimal.digitChars_ne_nil _)
    | cons c s =>
      have hc : c.isDigit = true :=
        Decimal.isDigit_of_mem_digitChars (hDigits ▸ List.mem_cons_self)
      refine ⟨starts_of_isDigit hc s, fun {rest} ends => ?_⟩
      rw [List.cons_append, readValue_of_isDigit hc, ← List.cons_append, ← hDigits,
        readNumber_digitChars hFits ends, ends.finishNumber_natural]
      show Except.ok (Number.value (.natural i.toInt.natAbs), rest) = _
      rw [Number.value, if_pos hLimit, ← Int64.ofInt_eq_ofNat, hSame]

theorem reads_list {depth : Nat} {items : List Value}
    (hItems : ∀ v ∈ items, Reads (readValue depth) v.jsonChars v) :
    Reads (readValue (depth + 1)) (Value.list items).jsonChars (.list items) where
  starts := ⟨'[', _, by rw [Value.jsonChars]; rfl, by decide, by decide, fun _ => rfl⟩
  reads {rest} _ := by
    have hReads : List.Forall₂ (Reads (readValue depth)) (Value.jsonItems items) items := by
      rw [jsonItems_eq, List.forall₂_map_left_iff, List.forall₂_same]
      exact hItems
    have hTexts : ∀ text ∈ Value.jsonItems items, text ≠ [] := by
      rw [jsonItems_eq, List.forall_mem_map]
      intro v hv
      obtain ⟨c, s, hText, -⟩ := (hItems v hv).starts
      simp [hText]
    have hBound : items.length <
        (separated [','] (Value.jsonItems items) ++ ']' :: rest).length + 1 := by
      have hLength := length_le_length_separated [','] hTexts
      rw [← hReads.length_eq, List.length_append]
      omega
    have hList := readItems_first rest hReads hBound
    rw [Value.jsonChars, List.append_assoc, List.cons_append, List.singleton_append, readValue]
    show (readItems (readValue depth) _ true _).map _ = _
    rw [hList]
    rfl

theorem reads_map {depth : Nat} {entries : Bindings} (distinct : entries.names.Nodup)
    (hEntries : ∀ entry ∈ entries, Reads (readValue depth) entry.2.jsonChars entry.2) :
    Reads (readValue (depth + 1)) (Value.map entries).jsonChars (.map entries) where
  starts := ⟨'{', _, by rw [Value.jsonChars]; rfl, by decide, by decide, fun _ => rfl⟩
  reads {rest} _ := by
    have hReads :
        List.Forall₂ (ReadsEntry (readValue depth)) (Value.jsonEntries entries) entries := by
      rw [jsonEntries_eq, List.forall₂_map_left_iff, List.forall₂_same]
      exact fun entry hEntry => ⟨_, rfl, hEntries entry hEntry⟩
    have hTexts : ∀ text ∈ Value.jsonEntries entries, text ≠ [] := by
      rw [jsonEntries_eq, List.forall_mem_map]
      simp [quoted]
    have hBound : entries.length <
        (separated [','] (Value.jsonEntries entries) ++ '}' :: rest).length + 1 := by
      have hLength := length_le_length_separated [','] hTexts
      rw [← hReads.length_eq, List.length_append]
      omega
    have hMap := readEntries_first rest hReads hBound
    rw [Value.jsonChars, List.append_assoc, List.cons_append, List.singleton_append, readValue]
    show (readEntries (readValue depth) _ true _).map _ = _
    rw [hMap]
    show Except.ok (Value.map (Named.ofPairs entries), rest) = _
    rw [Named.ofPairs_eq_self distinct]

/-- The JSON text of a value is read as the value, unless it is nested too deep. -/
theorem reads_jsonChars {depth : Nat} {v : Value} (h : v.Exchangeable depth) :
    Reads (readValue depth) v.jsonChars v := by
  induction h with
  | null =>
    exact ⟨⟨'n', _, rfl, by decide, by decide, fun _ => rfl⟩, fun _ => by rw [readValue]; rfl⟩
  | bool b =>
    cases b with
    | false =>
      exact ⟨⟨'f', _, rfl, by decide, by decide, fun _ => rfl⟩, fun _ => by rw [readValue]; rfl⟩
    | true =>
      exact ⟨⟨'t', _, rfl, by decide, by decide, fun _ => rfl⟩, fun _ => by rw [readValue]; rfl⟩
  | integer i => exact reads_integer _ i
  | text s =>
    refine ⟨⟨'"', _, rfl, by decide, by decide, fun _ => rfl⟩, fun {rest} _ => ?_⟩
    rw [readValue]
    show (readText ((body s.toList ++ ['"']) ++ rest)).map _ = _
    rw [List.append_assoc, List.singleton_append, readText_body]
    show Except.ok (Value.text (String.ofList s.toList), rest) = _
    rw [String.ofList_toList]
  | list _ ih => exact reads_list ih
  | map distinct _ ih => exact reads_map distinct ih

theorem parse_jsonChars {v : Value} (h : v.Exchangeable depthLimit) :
    parse v.jsonChars = .ok v := by
  have hRead := (reads_jsonChars h).reads .nil
  rw [List.append_nil] at hRead
  rw [parse, readAll, hRead]
  rfl

end Json

end StepArguments
