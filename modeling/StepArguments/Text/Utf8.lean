/-! # UTF-8

`Utf8.encode` gives the bytes of a text. `Utf8.decode` reads bytes from left to right: each
well-formed sequence becomes a character, and each longest start of a sequence that goes wrong
becomes one gap. Replacing the gaps gives the lossy reading, refusing them the strict one. -/

namespace StepArguments.Text.Utf8

def encode (s : List Char) : List UInt8 :=
  s.flatMap String.utf8EncodeChar

def size : List Char → Nat
  | [] => 0
  | c :: s => c.utf8Size + size s

@[simp] theorem size_nil : size [] = 0 := rfl

@[simp] theorem size_cons (c : Char) (s : List Char) : size (c :: s) = c.utf8Size + size s := rfl

@[simp] theorem size_append (s t : List Char) : size (s ++ t) = size s + size t := by
  induction s with
  | nil => simp
  | cons c s ih =>
    rw [List.cons_append, size_cons, size_cons, ih]
    omega

/-- The text from a byte offset on. An offset inside a character or past the end gives nothing. -/
def drop? : (offset : Nat) → List Char → Option (List Char)
  | 0, s => some s
  | _ + 1, [] => none
  | offset + 1, c :: s =>
    if c.utf8Size ≤ offset + 1 then drop? (offset + 1 - c.utf8Size) s else none
termination_by _ s => s.length

/-! ## Sizes of parts -/

theorem size_eq_zero_iff {s : List Char} : size s = 0 ↔ s = [] := by
  cases s with
  | nil => simp
  | cons c s =>
    have := Char.utf8Size_pos c
    simp only [size_cons, reduceCtorEq, iff_false]
    omega

/-- Of two starts of a text, the one that takes fewer bytes starts the other one. -/
theorem prefix_of_size_le {s t whole : List Char} (hs : s <+: whole) (ht : t <+: whole)
    (hSize : size s ≤ size t) : s <+: t := by
  cases List.prefix_or_prefix_of_prefix hs ht with
  | inl h => exact h
  | inr h =>
    obtain ⟨more, rfl⟩ := h
    rw [size_append] at hSize
    obtain rfl : more = [] := size_eq_zero_iff.1 (by omega)
    simp

theorem drop?_size_append (before rest : List Char) :
    drop? (size before) (before ++ rest) = some rest := by
  induction before with
  | nil => rw [size_nil, List.nil_append, drop?]
  | cons c before ih =>
    have hPos := Char.utf8Size_pos c
    obtain ⟨offset, hOffset⟩ : ∃ offset, c.utf8Size + size before = offset + 1 :=
      Nat.exists_eq_succ_of_ne_zero (by omega)
    rw [size_cons, hOffset, List.cons_append, drop?, if_pos (by omega)]
    rwa [show offset + 1 - c.utf8Size = size before by omega]

/-! ## Decoding -/

/-- How a lead byte goes on: the range of the second byte, and how many bytes from 0x80 to 0xBF
follow it. A byte that leads no sequence of several bytes has no entry. -/
def continuation? (lead : Nat) : Option (Nat × Nat × Nat) :=
  if 0xC2 ≤ lead ∧ lead ≤ 0xDF then some (0x80, 0xBF, 0)
  else if lead = 0xE0 then some (0xA0, 0xBF, 1)
  else if lead = 0xED then some (0x80, 0x9F, 1)
  else if 0xE1 ≤ lead ∧ lead ≤ 0xEF then some (0x80, 0xBF, 1)
  else if lead = 0xF0 then some (0x90, 0xBF, 2)
  else if 0xF1 ≤ lead ∧ lead ≤ 0xF3 then some (0x80, 0xBF, 2)
  else if lead = 0xF4 then some (0x80, 0x8F, 2)
  else none

def leadBits (lead more : Nat) : Nat :=
  match more with
  | 0 => lead % 0x20
  | 1 => lead % 0x10
  | _ => lead % 0x08

/-- Reads `more` bytes from 0x80 to 0xBF onto the bits read so far. -/
def tail (bits : Nat) : (more : Nat) → List UInt8 → Option Char × List UInt8
  | 0, bytes => (some (Char.ofNat bits), bytes)
  | _ + 1, [] => (none, [])
  | more + 1, b :: bytes =>
    if 0x80 ≤ b.toNat ∧ b.toNat ≤ 0xBF then tail (bits * 0x40 + b.toNat % 0x40) more bytes
    else (none, b :: bytes)

/-- Reads one character, or the longest start of one that goes wrong, given its first byte. -/
def step (lead : UInt8) (bytes : List UInt8) : Option Char × List UInt8 :=
  if lead.toNat < 0x80 then (some (Char.ofNat lead.toNat), bytes)
  else
    match continuation? lead.toNat, bytes with
    | some (low, high, more), b :: rest =>
      if low ≤ b.toNat ∧ b.toNat ≤ high then
        tail (leadBits lead.toNat more * 0x40 + b.toNat % 0x40) more rest
      else (none, b :: rest)
    | _, bytes => (none, bytes)

theorem length_tail_le (bits more : Nat) (bytes : List UInt8) :
    (tail bits more bytes).2.length ≤ bytes.length := by
  induction more generalizing bits bytes with
  | zero => simp [tail]
  | succ more ih =>
    cases bytes with
    | nil => simp [tail]
    | cons b bytes =>
      rw [tail]
      split
      · exact Nat.le_trans (ih _ _) (Nat.le_succ _)
      · exact Nat.le_refl _

theorem length_step_le (lead : UInt8) (bytes : List UInt8) :
    (step lead bytes).2.length ≤ bytes.length := by
  unfold step
  split
  · exact Nat.le_refl _
  · split
    · split
      · exact Nat.le_trans (length_tail_le _ _ _) (Nat.le_succ _)
      · exact Nat.le_refl _
    · exact Nat.le_refl _

/-- The characters of a byte sequence, with a gap for each ill-formed part. -/
def decode : List UInt8 → List (Option Char)
  | [] => []
  | lead :: bytes => (step lead bytes).1 :: decode (step lead bytes).2
termination_by bytes => bytes.length
decreasing_by exact Nat.lt_succ_of_le (length_step_le lead bytes)

/-- The text of a byte sequence, U+FFFD standing for each ill-formed part. -/
def decodeLossy (bytes : List UInt8) : List Char :=
  (decode bytes).map (·.getD '\uFFFD')

def decode? (bytes : List UInt8) : Option (List Char) :=
  (decode bytes).mapM id

end StepArguments.Text.Utf8
