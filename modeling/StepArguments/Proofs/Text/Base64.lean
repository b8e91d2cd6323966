import StepArguments.Proofs.Text.Utf8
import StepArguments.Text.Base64
import StepArguments.Text.Blank

/-! # Base64, written and read back

Three bytes are written as four symbols, and a rest of one or two bytes is filled up
(`isCode_encode`).  Reading goes over the symbols in groups of four (`decodeFrom_group`), of which the
last one is read symbol by symbol.  What `encode` writes for bytes reads back as these bytes
(`decode_encode`): the bits that no byte uses are zero there, and the padding is complete.
-/

namespace StepArguments.Text.Base64

/-! ## Symbols -/

/-- Letters, digits and two signs, all of them in ASCII. -/
def IsSymbol (c : Char) : Prop :=
  ('A' ≤ c ∧ c ≤ 'Z') ∨ ('a' ≤ c ∧ c ≤ 'z') ∨ ('0' ≤ c ∧ c ≤ '9') ∨ c = '+' ∨ c = '/'

instance (c : Char) : Decidable (IsSymbol c) :=
  inferInstanceAs (Decidable (_ ∨ _))

def symbolByte (n : Nat) : UInt8 :=
  UInt8.ofNat (symbol n).toNat

theorem symbol_mod (n : Nat) : symbol (n % 64) = symbol n := by
  rw [symbol, symbol, Nat.mod_mod]

theorem symbol_table : ∀ n < 64, IsSymbol (symbol n) ∧ bits? (symbolByte n) = some n := by
  decide +kernel

theorem isSymbol_symbol (n : Nat) : IsSymbol (symbol n) := by
  rw [← symbol_mod]
  exact (symbol_table (n % 64) (Nat.mod_lt n (by decide))).1

theorem bits?_symbolByte (n : Nat) : bits? (symbolByte n) = some (n % 64) := by
  rw [symbolByte, ← symbol_mod]
  exact (symbol_table (n % 64) (Nat.mod_lt n (by decide))).2

theorem symbolByte_ne_pad (n : Nat) : symbolByte n ≠ pad := by
  intro hPad
  have hBits := bits?_symbolByte n
  rw [hPad] at hBits
  cases hBits

theorem IsSymbol.visible {c : Char} (h : IsSymbol c) : 0x20 < c.toNat ∧ c.toNat < 0x80 := by
  have hRange {first last : Char} (hc : first ≤ c ∧ c ≤ last) (hFirst : 0x20 < first.toNat)
      (hLast : last.toNat < 0x80) : 0x20 < c.toNat ∧ c.toNat < 0x80 :=
    ⟨Nat.lt_of_lt_of_le hFirst hc.1, Nat.lt_of_le_of_lt hc.2 hLast⟩
  rcases h with hCapital | hSmall | hDigit | rfl | rfl
  · exact hRange hCapital (by decide) (by decide)
  · exact hRange hSmall (by decide) (by decide)
  · exact hRange hDigit (by decide) (by decide)
  · decide
  · decide

/-! ## The code of bytes -/

/-- A text of symbols in groups of four, of which the last group may be filled up. -/
structure IsCode (s : List Char) : Prop where
  groups : 4 ∣ s.length
  symbols : ∃ symbols pads, s = symbols ++ List.replicate pads '=' ∧ pads ≤ 2 ∧
    ∀ c ∈ symbols, IsSymbol c

theorem IsCode.group {s : List Char} (code : IsCode s) (i j k l : Nat) :
    IsCode (symbol i :: symbol j :: symbol k :: symbol l :: s) := by
  obtain ⟨hGroups, symbols, pads, rfl, hPads, hSymbols⟩ := code
  refine ⟨?_, symbol i :: symbol j :: symbol k :: symbol l :: symbols, pads, rfl, hPads, ?_⟩
  · simp only [List.length_cons]
    omega
  · simpa [isSymbol_symbol] using hSymbols

theorem IsCode.visible {s : List Char} (code : IsCode s) :
    ∀ c ∈ s, 0x20 < c.toNat ∧ c.toNat < 0x80 := by
  obtain ⟨-, symbols, pads, rfl, -, hSymbols⟩ := code
  intro c hMem
  rcases List.mem_append.1 hMem with hSymbol | hPad
  · exact (hSymbols c hSymbol).visible
  · rw [List.eq_of_mem_replicate hPad]
    decide

theorem isCode_encode (bytes : List UInt8) : IsCode (encode bytes) := by
  induction bytes using encode.induct with
  | case1 a b c bytes ih => exact ih.group _ _ _ _
  | case2 a b =>
    exact ⟨by simp [encode], [_, _, _], 1, rfl, by decide, by simp [isSymbol_symbol]⟩
  | case3 a => exact ⟨by simp [encode], [_, _], 2, rfl, by decide, by simp [isSymbol_symbol]⟩
  | case4 => exact ⟨by simp [encode], [], 0, rfl, by decide, by simp⟩

/-! ## Reading -/

/-- The first byte of a group, from its first two symbols. -/
def firstByte (i j : Nat) : UInt8 :=
  UInt8.ofNat (i % 64 * 4 + j % 64 / 16)

/-- The second byte of a group, from the two symbols in the middle. -/
def secondByte (j k : Nat) : UInt8 :=
  UInt8.ofNat (j % 64 * 16 + k % 64 / 4)

/-- The third byte of a group, from its last two symbols. -/
def thirdByte (k l : Nat) : UInt8 :=
  UInt8.ofNat (k % 64 * 64 + l % 64)

/-- Bytes that are followed by something are read as a group of four symbols. -/
theorem decodeFrom_group (offset i j k l : Nat) {rest : List UInt8} (hRest : rest ≠ []) :
    decodeFrom offset (symbolByte i :: symbolByte j :: symbolByte k :: symbolByte l :: rest) =
      (decodeFrom (offset + 4) rest).map fun bytes =>
        firstByte i j :: secondByte j k :: thirdByte k l :: bytes := by
  cases rest with
  | nil => exact absurd rfl hRest
  | cons b rest =>
    rw [decodeFrom]
    simp only [bits?_symbolByte]
    rfl

theorem readLast_symbol (offset place i : Nat) {last : Last} (hOpen : last.firstPad = none)
    (bytes : List UInt8) :
    readLast offset place last (symbolByte i :: bytes) =
      readLast offset (place + 1)
        { last with bits := last.bits ++ [i % 64], symbol := symbolByte i } bytes := by
  rw [readLast, if_neg (symbolByte_ne_pad i), hOpen, bits?_symbolByte]

theorem readLast_pad {offset place : Nat} (hPlace : 2 ≤ place) (last : Last) (bytes : List UInt8) :
    readLast offset place last (pad :: bytes) =
      readLast offset (place + 1)
        { last with firstPad := some (last.firstPad.getD place), pads := last.pads + 1 } bytes := by
  rw [readLast, if_pos rfl, if_neg (Nat.not_lt.2 hPlace)]

theorem decodeFrom_four (offset i j k l : Nat) :
    decodeFrom offset [symbolByte i, symbolByte j, symbolByte k, symbolByte l] =
      .ok [firstByte i j, secondByte j k, thirdByte k l] := by
  show (readLast offset 0 {} _).bind (finish offset) = _
  rw [readLast_symbol offset 0 i rfl, readLast_symbol offset 1 j rfl,
    readLast_symbol offset 2 k rfl, readLast_symbol offset 3 l rfl]
  simp [readLast, Except.bind, finish, firstByte, secondByte, thirdByte]

theorem decodeFrom_three (offset i j k : Nat) (hUnused : k % 4 = 0) :
    decodeFrom offset [symbolByte i, symbolByte j, symbolByte k, pad] =
      .ok [firstByte i j, secondByte j k] := by
  show (readLast offset 0 {} _).bind (finish offset) = _
  rw [readLast_symbol offset 0 i rfl, readLast_symbol offset 1 j rfl,
    readLast_symbol offset 2 k rfl, readLast_pad (by decide)]
  simp [readLast, Except.bind, finish, firstByte, secondByte, hUnused]

theorem decodeFrom_two (offset i j : Nat) (hUnused : j % 16 = 0) :
    decodeFrom offset [symbolByte i, symbolByte j, pad, pad] =
      .ok [firstByte i j] := by
  show (readLast offset 0 {} _).bind (finish offset) = _
  rw [readLast_symbol offset 0 i rfl, readLast_symbol offset 1 j rfl, readLast_pad (by decide),
    readLast_pad (by decide)]
  simp [readLast, Except.bind, finish, firstByte, hUnused]

/-! ## Reading what was written -/

theorem encode_symbol (i : Nat) (s : List Char) :
    Utf8.encode (symbol i :: s) = symbolByte i :: Utf8.encode s :=
  Utf8.encode_cons_of_lt (isSymbol_symbol i).visible.2 s

theorem encode_pad (s : List Char) : Utf8.encode ('=' :: s) = pad :: Utf8.encode s :=
  Utf8.encode_cons_of_lt (by decide) s

theorem encode_ne_nil {b : UInt8} {bytes : List UInt8} :
    Utf8.encode (encode (b :: bytes)) ≠ [] := by
  cases bytes with
  | nil =>
    rw [encode, encode_symbol]
    exact List.cons_ne_nil _ _
  | cons c bytes =>
    cases bytes <;>
    · rw [encode, encode_symbol]
      exact List.cons_ne_nil _ _

theorem ofNat_eq_of_mod {n : Nat} {b : UInt8} (h : n % 256 = b.toNat) : UInt8.ofNat n = b := by
  rw [← UInt8.toNat_inj, UInt8.toNat_ofNat']
  exact h

theorem decodeFrom_encode (offset : Nat) (bytes : List UInt8) :
    decodeFrom offset (Utf8.encode (encode bytes)) = .ok bytes := by
  induction bytes using encode.induct generalizing offset with
  | case1 a b c bytes ih =>
    have ha := a.toNat_lt
    have hb := b.toNat_lt
    have hc := c.toNat_lt
    rw [encode]
    generalize hn : (a.toNat * 256 + b.toNat) * 256 + c.toNat = n
    have hFirst : firstByte (n / 262144) (n / 4096) = a := ofNat_eq_of_mod (by omega)
    have hSecond : secondByte (n / 4096) (n / 64) = b := ofNat_eq_of_mod (by omega)
    have hThird : thirdByte (n / 64) n = c := ofNat_eq_of_mod (by omega)
    rw [encode_symbol, encode_symbol, encode_symbol, encode_symbol]
    -- a full group is read in another way if it is the last one
    cases bytes with
    | nil => rw [encode, Utf8.encode_nil, decodeFrom_four, hFirst, hSecond, hThird]
    | cons d bytes =>
      rw [decodeFrom_group _ _ _ _ _ encode_ne_nil, ih, hFirst, hSecond, hThird]
      rfl
  | case2 a b =>
    have ha := a.toNat_lt
    have hb := b.toNat_lt
    rw [encode]
    generalize hn : (a.toNat * 256 + b.toNat) * 4 = n
    have hFirst : firstByte (n / 4096) (n / 64) = a := ofNat_eq_of_mod (by omega)
    have hSecond : secondByte (n / 64) n = b := ofNat_eq_of_mod (by omega)
    rw [encode_symbol, encode_symbol, encode_symbol, encode_pad, Utf8.encode_nil,
      decodeFrom_three offset _ _ _ (by omega), hFirst, hSecond]
  | case3 a =>
    have ha := a.toNat_lt
    rw [encode]
    generalize hn : a.toNat * 16 = n
    have hFirst : firstByte (n / 64) n = a := ofNat_eq_of_mod (by omega)
    rw [encode_symbol, encode_symbol, encode_pad, encode_pad, Utf8.encode_nil,
      decodeFrom_two offset _ _ (by omega), hFirst]
  | case4 => rfl

theorem decode_encode (bytes : List UInt8) : decode (Utf8.encode (encode bytes)) = .ok bytes := by
  have code := isCode_encode bytes
  have hLength := Utf8.length_encode_of_lt fun c hMem => (code.visible c hMem).2
  have hGroups := code.groups
  rw [← hLength] at hGroups
  unfold decode
  split
  · -- a whole number of groups leaves no symbol over
    rw [if_neg (by omega), decodeFrom_encode]
  · rename_i hLast
    cases bytes with
    | nil => rfl
    | cons b bytes => exact absurd (List.getLast?_eq_none_iff.1 hLast) encode_ne_nil

end StepArguments.Text.Base64
