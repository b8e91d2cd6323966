/-! # Base64

Bytes as letters, digits, `+` and `/`, six bits each, in groups of four symbols that `=` fills up.
Decoding is strict: the padding has to be complete, and the bits that no byte uses have to be
zero. -/

namespace StepArguments.Text.Base64

def symbol (n : Nat) : Char :=
  let n := n % 64
  if n < 26 then Char.ofNat ('A'.toNat + n)
  else if n < 52 then Char.ofNat ('a'.toNat + (n - 26))
  else if n < 62 then Char.ofNat ('0'.toNat + (n - 52))
  else if n = 62 then '+'
  else '/'

def bits? (b : UInt8) : Option Nat :=
  let n := b.toNat
  if 65 ≤ n ∧ n ≤ 90 then some (n - 65)
  else if 97 ≤ n ∧ n ≤ 122 then some (n - 97 + 26)
  else if 48 ≤ n ∧ n ≤ 57 then some (n - 48 + 52)
  else if n = 43 then some 62
  else if n = 47 then some 63
  else none

def encode : List UInt8 → List Char
  | a :: b :: c :: bytes =>
    let n := (a.toNat * 256 + b.toNat) * 256 + c.toNat
    symbol (n / 262144) :: symbol (n / 4096) :: symbol (n / 64) :: symbol n :: encode bytes
  | [a, b] =>
    let n := (a.toNat * 256 + b.toNat) * 4
    [symbol (n / 4096), symbol (n / 64), symbol n, '=']
  | [a] =>
    let n := a.toNat * 16
    [symbol (n / 64), symbol n, '=', '=']
  | [] => []

/-- Why bytes are no Base64 text. -/
inductive Fault where
  | invalidSymbol (offset : Nat) (byte : UInt8)
  | invalidLength (length : Nat)
  | invalidLastSymbol (offset : Nat) (byte : UInt8)
  | invalidPadding
deriving DecidableEq

def Fault.message : Fault → String
  | .invalidSymbol offset byte =>
    "Invalid symbol " ++ toString byte.toNat ++ ", offset " ++ toString offset ++ "."
  | .invalidLength length => "Invalid input length: " ++ toString length
  | .invalidLastSymbol offset byte =>
    "Invalid last symbol " ++ toString byte.toNat ++ ", offset " ++ toString offset ++ "."
  | .invalidPadding => "Invalid padding"

def pad : UInt8 := 61

/-- What the last symbols of a text hold. -/
structure Last where
  /-- The bits of the symbols, in order. -/
  bits : List Nat := []
  /-- The offset of the first padding, counted from the last group, and how many there are. -/
  firstPad : Option Nat := none
  pads : Nat := 0
  /-- The last symbol. -/
  symbol : UInt8 := 0

/-- Reads the last symbols of a text, at an offset and a place in the group. Padding comes only
after two symbols, and no symbol after padding. -/
def readLast (offset place : Nat) (last : Last) : List UInt8 → Except Fault Last
  | [] => .ok last
  | b :: bytes =>
    if b = pad then
      if place < 2 then .error (.invalidSymbol (offset + place) b)
      else
        readLast offset (place + 1)
          { last with firstPad := some (last.firstPad.getD place), pads := last.pads + 1 } bytes
    else
      match last.firstPad, bits? b with
      | some first, _ => .error (.invalidSymbol (offset + first) pad)
      | none, none => .error (.invalidSymbol (offset + place) b)
      | none, some n =>
        readLast offset (place + 1) { last with bits := last.bits ++ [n], symbol := b } bytes

def finish (offset : Nat) (last : Last) : Except Fault (List UInt8) :=
  let close (ok : Bool) (bytes : List UInt8) : Except Fault (List UInt8) :=
    if (last.bits.length + last.pads) % 4 ≠ 0 then .error .invalidPadding
    else if ok then .ok bytes
    else .error (.invalidLastSymbol (offset + last.bits.length - 1) last.symbol)
  match last.bits with
  | [a, b] => close (b % 16 == 0) [UInt8.ofNat (a * 4 + b / 16)]
  | [a, b, c] =>
    close (c % 4 == 0) [UInt8.ofNat (a * 4 + b / 16), UInt8.ofNat (b * 16 + c / 4)]
  | [a, b, c, d] =>
    close true
      [UInt8.ofNat (a * 4 + b / 16), UInt8.ofNat (b * 16 + c / 4), UInt8.ofNat (c * 64 + d)]
  | bits => .error (.invalidLength (offset + bits.length))

/-- Decodes groups of four symbols from an offset on. The last group, of at most four bytes, may
hold padding. -/
def decodeFrom (offset : Nat) : List UInt8 → Except Fault (List UInt8)
  | a :: b :: c :: d :: e :: bytes =>
    match bits? a, bits? b, bits? c, bits? d with
    | some a, some b, some c, some d =>
      (decodeFrom (offset + 4) (e :: bytes)).map fun rest =>
        UInt8.ofNat (a * 4 + b / 16) :: UInt8.ofNat (b * 16 + c / 4) :: UInt8.ofNat (c * 64 + d) ::
          rest
    -- the first of the four that is no symbol counts
    | none, _, _, _ => .error (.invalidSymbol offset a)
    | _, none, _, _ => .error (.invalidSymbol (offset + 1) b)
    | _, _, none, _ => .error (.invalidSymbol (offset + 2) c)
    | _, _, _, none => .error (.invalidSymbol (offset + 3) d)
  | [] => .ok []
  | last => (readLast offset 0 {} last).bind (finish offset)

/-- The bytes that Base64 text stands for. A last byte that begins a group of its own and is no
symbol is reported first of all. -/
def decode (bytes : List UInt8) : Except Fault (List UInt8) :=
  match bytes.getLast? with
  | some b =>
    if bytes.length % 4 = 1 ∧ b ≠ pad ∧ (bits? b).isNone then
      .error (.invalidSymbol (bytes.length - 1) b)
    else decodeFrom 0 bytes
  | none => .ok []

end StepArguments.Text.Base64
