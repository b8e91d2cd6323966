import Mathlib.Data.List.Basic
import StepArguments.Text.Utf8

/-! # UTF-8, written and read back

The bytes of a character are read as that character, whatever comes behind them
(`exists_step_eq`).  The ranges that a second byte has to keep to leave out only what no character is
written as: a longer form of a shorter sequence, a surrogate, a number that is too large.  So
decoding the bytes of a text leaves no gap (`decode_encode`).

They leave out nothing else, and so the other way round a character is only read off its own bytes
(`eq_of_step`), and only the bytes of a text have a strict reading (`decode?_eq_some_iff`).
-/

namespace StepArguments.Text.Utf8

/-! ## One byte -/

theorem toNat_ofNat_of_lt {n : Nat} (h : n < 0x100) : (UInt8.ofNat n).toNat = n :=
  UInt8.toNat_ofNat_of_lt' h

theorem step_of_lt {lead : UInt8} (h : lead.toNat < 0x80) (bytes : List UInt8) :
    step lead bytes = (some (Char.ofNat lead.toNat), bytes) := by
  unfold step
  exact if_pos h

theorem step_of_continuation {lead b : UInt8} {low high more : Nat}
    (hLead : 0x80 ≤ lead.toNat) (hContinuation : continuation? lead.toNat = some (low, high, more))
    (hSecond : low ≤ b.toNat ∧ b.toNat ≤ high) (rest : List UInt8) :
    step lead (b :: rest) =
      tail (leadBits lead.toNat more * 0x40 + b.toNat % 0x40) more rest := by
  unfold step
  rw [if_neg (Nat.not_lt.2 hLead), hContinuation]
  exact if_pos hSecond

/-- A byte that goes on with a sequence adds six bits to those read so far. -/
theorem tail_ofNat (bits more n : Nat) (rest : List UInt8) :
    tail bits (more + 1) (UInt8.ofNat (n % 0x40 + 0x80) :: rest) =
      tail (bits * 0x40 + n % 0x40) more rest := by
  have hByte : (UInt8.ofNat (n % 0x40 + 0x80)).toNat = n % 0x40 + 0x80 :=
    toNat_ofNat_of_lt (by omega)
  rw [tail, hByte, if_pos (by omega)]
  congr 2
  omega

/-- A sequence of two bytes or more begins with a lead byte, which holds the upper bits, and a second
    byte in the range that the lead byte sets. -/
theorem step_ofNat {lead low high more : Nat} (n : Nat) (hLead : 0x80 ≤ lead ∧ lead < 0x100)
    (hContinuation : continuation? lead = some (low, high, more))
    (hSecond : low ≤ n % 0x40 + 0x80 ∧ n % 0x40 + 0x80 ≤ high) (rest : List UInt8) :
    step (UInt8.ofNat lead) (UInt8.ofNat (n % 0x40 + 0x80) :: rest) =
      tail (leadBits lead more * 0x40 + n % 0x40) more rest := by
  have hLeadByte : (UInt8.ofNat lead).toNat = lead := toNat_ofNat_of_lt hLead.2
  have hByte : (UInt8.ofNat (n % 0x40 + 0x80)).toNat = n % 0x40 + 0x80 :=
    toNat_ofNat_of_lt (by omega)
  rw [step_of_continuation (by rw [hLeadByte]; exact hLead.1) (by rwa [hLeadByte]) (by rwa [hByte]),
    hLeadByte, hByte]
  congr 2
  omega

/-! ## One character -/

variable {n : Nat}

theorem step_two (hFirst : 0x80 ≤ n) (hLast : n < 0x800) (rest : List UInt8) :
    step (UInt8.ofNat (n / 0x40 % 0x20 + 0xC0)) (UInt8.ofNat (n % 0x40 + 0x80) :: rest) =
      (some (Char.ofNat n), rest) := by
  have hContinuation : continuation? (n / 0x40 % 0x20 + 0xC0) = some (0x80, 0xBF, 0) :=
    if_pos (by omega)
  have hBits : leadBits (n / 0x40 % 0x20 + 0xC0) 0 * 0x40 + n % 0x40 = n := by
    simp only [leadBits]
    omega
  rw [step_ofNat n (by omega) hContinuation (by omega), hBits, tail]

/-- The lead byte of a sequence of three allows its second byte, since no character is a surrogate. -/
theorem exists_continuation?_three (hFirst : 0x800 ≤ n) (hLast : n < 0x10000)
    (hNoSurrogate : n < 0xD800 ∨ 0xDFFF < n) :
    ∃ low high, continuation? (n / 0x1000 % 0x10 + 0xE0) = some (low, high, 1) ∧
      low ≤ n / 0x40 % 0x40 + 0x80 ∧ n / 0x40 % 0x40 + 0x80 ≤ high := by
  unfold continuation?
  rw [if_neg (by omega)]
  -- behind 0xE0 there are only numbers from 0x800 on, behind 0xED none from 0xD800 on
  split
  · exact ⟨_, _, rfl, by omega, by omega⟩
  · split
    · exact ⟨_, _, rfl, by omega, by omega⟩
    · rw [if_pos (by omega)]
      exact ⟨_, _, rfl, by omega, by omega⟩

theorem step_three (hFirst : 0x800 ≤ n) (hLast : n < 0x10000)
    (hNoSurrogate : n < 0xD800 ∨ 0xDFFF < n) (rest : List UInt8) :
    step (UInt8.ofNat (n / 0x1000 % 0x10 + 0xE0))
        (UInt8.ofNat (n / 0x40 % 0x40 + 0x80) :: UInt8.ofNat (n % 0x40 + 0x80) :: rest) =
      (some (Char.ofNat n), rest) := by
  obtain ⟨low, high, hContinuation, hSecond⟩ :=
    exists_continuation?_three hFirst hLast hNoSurrogate
  have hBits : (leadBits (n / 0x1000 % 0x10 + 0xE0) 1 * 0x40 + n / 0x40 % 0x40) * 0x40 +
      n % 0x40 = n := by
    simp only [leadBits]
    omega
  rw [step_ofNat (n / 0x40) (by omega) hContinuation hSecond, tail_ofNat, hBits, tail]

/-- The lead byte of a sequence of four allows its second byte, since no character is larger. -/
theorem exists_continuation?_four (hFirst : 0x10000 ≤ n) (hLast : n < 0x110000) :
    ∃ low high, continuation? (n / 0x40000 % 0x08 + 0xF0) = some (low, high, 2) ∧
      low ≤ n / 0x1000 % 0x40 + 0x80 ∧ n / 0x1000 % 0x40 + 0x80 ≤ high := by
  unfold continuation?
  rw [if_neg (by omega), if_neg (by omega), if_neg (by omega), if_neg (by omega)]
  -- behind 0xF0 there are only numbers from 0x10000 on, behind 0xF4 none from 0x110000 on
  split
  · exact ⟨_, _, rfl, by omega, by omega⟩
  · split
    · exact ⟨_, _, rfl, by omega, by omega⟩
    · rw [if_pos (by omega)]
      exact ⟨_, _, rfl, by omega, by omega⟩

theorem step_four (hFirst : 0x10000 ≤ n) (hLast : n < 0x110000) (rest : List UInt8) :
    step (UInt8.ofNat (n / 0x40000 % 0x08 + 0xF0))
        (UInt8.ofNat (n / 0x1000 % 0x40 + 0x80) :: UInt8.ofNat (n / 0x40 % 0x40 + 0x80) ::
          UInt8.ofNat (n % 0x40 + 0x80) :: rest) =
      (some (Char.ofNat n), rest) := by
  obtain ⟨low, high, hContinuation, hSecond⟩ := exists_continuation?_four hFirst hLast
  have hBits : ((leadBits (n / 0x40000 % 0x08 + 0xF0) 2 * 0x40 + n / 0x1000 % 0x40) * 0x40 +
      n / 0x40 % 0x40) * 0x40 + n % 0x40 = n := by
    simp only [leadBits]
    omega
  rw [step_ofNat (n / 0x1000) (by omega) hContinuation hSecond, tail_ofNat, tail_ofNat, hBits, tail]

theorem exists_step_eq (c : Char) (rest : List UInt8) :
    ∃ lead bytes, String.utf8EncodeChar c = lead :: bytes ∧
      step lead (bytes ++ rest) = (some c, rest) := by
  have hChar : Char.ofNat c.val.toNat = c := Char.ofNat_toNat c
  have hValid : c.val.toNat < 0xD800 ∨ 0xDFFF < c.val.toNat ∧ c.val.toNat < 0x110000 := c.valid
  rw [String.utf8EncodeChar.eq_def]
  generalize c.val.toNat = n at hChar hValid ⊢
  subst hChar
  dsimp only
  -- by the number of bytes, as the character is written
  split
  · have hByte : (UInt8.ofNat n).toNat = n := toNat_ofNat_of_lt (by omega)
    refine ⟨_, _, rfl, ?_⟩
    rw [step_of_lt (by omega), hByte, List.nil_append]
  · split
    · exact ⟨_, _, rfl, step_two (by omega) (by omega) rest⟩
    · split
      · exact ⟨_, _, rfl, step_three (by omega) (by omega) (by omega) rest⟩
      · exact ⟨_, _, rfl, step_four (by omega) (by omega) rest⟩

/-! ## The bytes that a character is read off -/

theorem val_ofNat (hValid : n.isValidChar) : (Char.ofNat n).val.toNat = n := by
  rw [Char.ofNat, dif_pos hValid]
  rfl

/-- The bytes of a character, by its number. -/
theorem utf8EncodeChar_ofNat (hValid : n.isValidChar) :
    String.utf8EncodeChar (Char.ofNat n) =
      if n ≤ 0x7F then [UInt8.ofNat n]
      else if n ≤ 0x7FF then [UInt8.ofNat (n / 0x40 % 0x20 + 0xC0), UInt8.ofNat (n % 0x40 + 0x80)]
      else if n ≤ 0xFFFF then
        [UInt8.ofNat (n / 0x1000 % 0x10 + 0xE0), UInt8.ofNat (n / 0x40 % 0x40 + 0x80),
          UInt8.ofNat (n % 0x40 + 0x80)]
      else
        [UInt8.ofNat (n / 0x40000 % 0x08 + 0xF0), UInt8.ofNat (n / 0x1000 % 0x40 + 0x80),
          UInt8.ofNat (n / 0x40 % 0x40 + 0x80), UInt8.ofNat (n % 0x40 + 0x80)] := by
  rw [String.utf8EncodeChar.eq_def, val_ofNat hValid]

theorem ofNat_eq {b : UInt8} (h : n = b.toNat) : UInt8.ofNat n = b := by
  rw [h, UInt8.ofNat_toNat]

/-- A byte that may stand behind a lead byte and is not the second one. -/
def Continues (b : UInt8) : Prop :=
  0x80 ≤ b.toNat ∧ b.toNat ≤ 0xBF

theorem exists_of_tail_succ {bits more : Nat} {bytes rest : List UInt8} {c : Char}
    (hTail : tail bits (more + 1) bytes = (some c, rest)) :
    ∃ b later, bytes = b :: later ∧ Continues b ∧
      tail (bits * 0x40 + b.toNat % 0x40) more later = (some c, rest) := by
  cases bytes with
  | nil => cases hTail
  | cons b later =>
    rw [tail] at hTail
    split at hTail
    · rename_i continues
      exact ⟨b, later, rfl, continues, hTail⟩
    · cases hTail

/-- The lead bytes of sequences of two, three and four bytes, with the second bytes that they
    allow. -/
theorem ranges_of_continuation? {lead low high more b : Nat}
    (hContinuation : continuation? lead = some (low, high, more)) (hSecond : low ≤ b ∧ b ≤ high) :
    0x80 ≤ b ∧ b ≤ 0xBF ∧
      ((more = 0 ∧ 0xC2 ≤ lead ∧ lead ≤ 0xDF) ∨
        (more = 1 ∧ 0xE0 ≤ lead ∧ lead ≤ 0xEF ∧ (lead = 0xE0 → 0xA0 ≤ b) ∧
          (lead = 0xED → b ≤ 0x9F)) ∨
        (more = 2 ∧ 0xF0 ≤ lead ∧ lead ≤ 0xF4 ∧ (lead = 0xF0 → 0x90 ≤ b) ∧
          (lead = 0xF4 → b ≤ 0x8F))) := by
  unfold continuation? at hContinuation
  repeat' split at hContinuation
  all_goals cases hContinuation
  all_goals omega

variable {lead b x y : UInt8}

theorem utf8EncodeChar_two (hLead : 0xC2 ≤ lead.toNat ∧ lead.toNat ≤ 0xDF) (hb : Continues b) :
    String.utf8EncodeChar (Char.ofNat (leadBits lead.toNat 0 * 0x40 + b.toNat % 0x40)) =
      [lead, b] := by
  obtain ⟨hFirst, hLast⟩ := hb
  rw [leadBits, utf8EncodeChar_ofNat (.inl (by omega)), if_neg (by omega), if_pos (by omega),
    ofNat_eq (b := lead) (by omega), ofNat_eq (b := b) (by omega)]

theorem utf8EncodeChar_three (hLead : 0xE0 ≤ lead.toNat ∧ lead.toNat ≤ 0xEF) (hb : Continues b)
    (hLow : lead.toNat = 0xE0 → 0xA0 ≤ b.toNat) (hHigh : lead.toNat = 0xED → b.toNat ≤ 0x9F)
    (hx : Continues x) :
    String.utf8EncodeChar (Char.ofNat ((leadBits lead.toNat 1 * 0x40 + b.toNat % 0x40) * 0x40 +
      x.toNat % 0x40)) = [lead, b, x] := by
  obtain ⟨hFirst, hLast⟩ := hb
  obtain ⟨hFirst', hLast'⟩ := hx
  -- the second byte behind 0xED keeps the surrogates out
  have hValid : ((lead.toNat % 0x10 * 0x40 + b.toNat % 0x40) * 0x40 +
      x.toNat % 0x40).isValidChar := by
    unfold Nat.isValidChar
    omega
  rw [leadBits, utf8EncodeChar_ofNat hValid, if_neg (by omega), if_neg (by omega),
    if_pos (by omega), ofNat_eq (b := lead) (by omega), ofNat_eq (b := b) (by omega),
    ofNat_eq (b := x) (by omega)]

theorem utf8EncodeChar_four (hLead : 0xF0 ≤ lead.toNat ∧ lead.toNat ≤ 0xF4) (hb : Continues b)
    (hLow : lead.toNat = 0xF0 → 0x90 ≤ b.toNat) (hHigh : lead.toNat = 0xF4 → b.toNat ≤ 0x8F)
    (hx : Continues x) (hy : Continues y) :
    String.utf8EncodeChar (Char.ofNat (((leadBits lead.toNat 2 * 0x40 + b.toNat % 0x40) * 0x40 +
      x.toNat % 0x40) * 0x40 + y.toNat % 0x40)) = [lead, b, x, y] := by
  obtain ⟨hFirst, hLast⟩ := hb
  obtain ⟨hFirst', hLast'⟩ := hx
  obtain ⟨hFirst'', hLast''⟩ := hy
  have hBits : leadBits lead.toNat 2 = lead.toNat % 0x08 := rfl
  -- the second byte behind 0xF4 keeps out what is larger than every character
  rw [hBits, utf8EncodeChar_ofNat (.inr (by omega)), if_neg (by omega), if_neg (by omega),
    if_neg (by omega), ofNat_eq (b := lead) (by omega), ofNat_eq (b := b) (by omega),
    ofNat_eq (b := x) (by omega), ofNat_eq (b := y) (by omega)]

/-- Bytes that a character is read off are those of the character and what is left. -/
theorem eq_of_step {bytes rest : List UInt8} {c : Char}
    (hStep : step lead bytes = (some c, rest)) :
    lead :: bytes = String.utf8EncodeChar c ++ rest := by
  unfold step at hStep
  split at hStep
  · rename_i hOne
    obtain ⟨hc, rfl⟩ := Prod.mk.inj hStep
    obtain rfl := Option.some.inj hc
    rw [utf8EncodeChar_ofNat (.inl (by omega)), if_pos (by omega), UInt8.ofNat_toNat]
    rfl
  · split at hStep
    · rename_i low high more b later hContinuation
      split at hStep
      · rename_i hSecond
        obtain ⟨hFirst, hLast, hMore⟩ := ranges_of_continuation? hContinuation hSecond
        have hb : Continues b := ⟨hFirst, hLast⟩
        -- by the number of bytes, each of which adds its bits to those of the lead byte
        rcases hMore with ⟨rfl, hLead⟩ | ⟨rfl, hFrom, hTo, hLow, hHigh⟩ |
          ⟨rfl, hFrom, hTo, hLow, hHigh⟩
        · obtain ⟨hc, rfl⟩ := Prod.mk.inj hStep
          rw [← Option.some.inj hc, utf8EncodeChar_two hLead hb]
          rfl
        · obtain ⟨x, later, rfl, hx, hStep⟩ := exists_of_tail_succ hStep
          obtain ⟨hc, rfl⟩ := Prod.mk.inj hStep
          rw [← Option.some.inj hc, utf8EncodeChar_three ⟨hFrom, hTo⟩ hb hLow hHigh hx]
          rfl
        · obtain ⟨x, later, rfl, hx, hStep⟩ := exists_of_tail_succ hStep
          obtain ⟨y, later, rfl, hy, hStep⟩ := exists_of_tail_succ hStep
          obtain ⟨hc, rfl⟩ := Prod.mk.inj hStep
          rw [← Option.some.inj hc, utf8EncodeChar_four ⟨hFrom, hTo⟩ hb hLow hHigh hx hy]
          rfl
      · cases hStep
    · cases hStep

/-! ## Texts -/

theorem encode_nil : encode [] = [] := rfl

theorem encode_cons_of_lt {c : Char} (h : c.toNat < 0x80) (s : List Char) :
    encode (c :: s) = UInt8.ofNat c.toNat :: encode s := by
  have hBytes : String.utf8EncodeChar c = [UInt8.ofNat c.toNat] := if_pos (Nat.le_of_lt_succ h)
  rw [encode, List.flatMap_cons, hBytes]
  rfl

theorem length_encode_of_lt {s : List Char} (h : ∀ c ∈ s, c.toNat < 0x80) :
    (encode s).length = s.length := by
  induction s with
  | nil => rfl
  | cons c s ih =>
    obtain ⟨hc, hs⟩ := List.forall_mem_cons.1 h
    rw [encode_cons_of_lt hc, List.length_cons, List.length_cons, ih hs]

theorem decode_encode (s : List Char) : decode (encode s) = s.map some := by
  induction s with
  | nil => rw [encode, List.flatMap_nil, decode, List.map_nil]
  | cons c s ih =>
    obtain ⟨lead, bytes, hBytes, hStep⟩ := exists_step_eq c (encode s)
    have hEncode : encode (c :: s) = lead :: (bytes ++ encode s) := by
      rw [encode, List.flatMap_cons, hBytes]
      rfl
    rw [hEncode, decode, hStep, ih, List.map_cons]

theorem decodeLossy_encode (s : List Char) : decodeLossy (encode s) = s := by
  rw [decodeLossy, decode_encode, List.map_map]
  exact List.map_id s

theorem encode_of_decode {bytes : List UInt8} {s : List Char}
    (hDecode : decode bytes = s.map some) : encode s = bytes := by
  induction bytes using decode.induct generalizing s with
  | case1 =>
    rw [decode] at hDecode
    rw [List.map_eq_nil_iff.1 hDecode.symm, encode_nil]
  | case2 lead bytes ih =>
    rw [decode] at hDecode
    obtain ⟨c, s, rfl, hc, hRest⟩ := List.map_eq_cons_iff.1 hDecode.symm
    rw [eq_of_step (Prod.ext hc.symm rfl), encode, List.flatMap_cons, ← encode, ih hRest.symm]

theorem mapM_id_eq_some_iff {parts : List (Option Char)} {s : List Char} :
    parts.mapM id = some s ↔ parts = s.map some := by
  induction parts generalizing s with
  | nil => cases s <;> simp
  | cons part parts ih =>
    cases part <;> cases s <;> simp [List.mapM_cons, Option.bind_eq_some_iff, ih, and_comm]

/-- Only the bytes of a text have a strict reading. -/
theorem decode?_eq_some_iff {bytes : List UInt8} {s : List Char} :
    decode? bytes = some s ↔ bytes = encode s := by
  rw [decode?, mapM_id_eq_some_iff]
  constructor
  · intro hDecode
    exact (encode_of_decode hDecode).symm
  · rintro rfl
    exact decode_encode s

end StepArguments.Text.Utf8
