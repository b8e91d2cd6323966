import StepArguments.Decimal.Shortest

/-! # Writing doubles

A `Format` holds the decisions of one way to write a double; `Format.write` follows it. `plain` is
the text of a value, `exchange` the number of a JSON text. -/

namespace StepArguments.Decimal

def digitChars (n : Nat) : List Char :=
  Nat.toDigits 10 n

/-- The text of a whole number, with a minus sign if it is negative. -/
def integerChars (i : Int) : List Char :=
  if i < 0 then '-' :: digitChars i.natAbs else digitChars i.natAbs

/-- The decisions of one way to write a double. -/
structure Format where
  /-- Which of two equally short and equally near numbers is written. -/
  tie : Tie
  /-- Whether a whole number ends in `.0`. -/
  wholeFraction : Bool
  /-- The places of the decimal point, counted from the first digit, that are written without an
  exponent; none means all of them. -/
  positional : Option (Int × Int)
  infinite : List Char
  notANumber : List Char
  /-- Whether a minus sign may precede the text of the infinite. -/
  signedInfinite : Bool

/-- Digits with a decimal point at a place counted from the first digit. -/
def Format.writePositional (f : Format) (digits : List Char) (point : Int) : List Char :=
  if point ≤ 0 then '0' :: '.' :: List.replicate (-point).toNat '0' ++ digits
  else if point < digits.length then
    digits.take point.toNat ++ '.' :: digits.drop point.toNat
  else
    digits ++ List.replicate (point.toNat - digits.length) '0' ++
      (if f.wholeFraction then ['.', '0'] else [])

def Format.writeExponent (digits : List Char) (point : Int) : List Char :=
  let exponent := point - 1
  let sign := if exponent < 0 then '-' else '+'
  digits.take 1 ++ (if 1 < digits.length then '.' :: digits.drop 1 else []) ++
    'e' :: sign :: digitChars exponent.natAbs

def Format.writeScaled (f : Format) (s : Scaled) : List Char :=
  let digits := digitChars s.digits
  let point := s.exponent + digits.length
  match f.positional with
  | none => f.writePositional digits point
  | some (low, high) =>
    if low ≤ point ∧ point ≤ high then f.writePositional digits point
    else Format.writeExponent digits point

def Format.write (f : Format) (x : Float) : List Char :=
  let sign := if isNegative x then ['-'] else []
  match magnitude x with
  | .notANumber => f.notANumber
  | .infinite => (if f.signedInfinite then sign else []) ++ f.infinite
  | .zero => sign ++ '0' :: (if f.wholeFraction then ['.', '0'] else [])
  | .finite b => sign ++ f.writeScaled (b.shortest f.tie)

/-- The text of a double: never an exponent, and no point on whole numbers. -/
def plain : Format where
  tie := .up
  wholeFraction := false
  positional := none
  infinite := "inf".toList
  notANumber := "NaN".toList
  signedInfinite := true

/-- A double as a JSON number: a point or an exponent always tells it from an integer, the point is
written down to ten to the minus fifth and up to ten to the sixteenth, and what is not finite is
`null`. -/
def exchange : Format where
  tie := .toEven
  wholeFraction := true
  positional := some (-4, 16)
  infinite := "null".toList
  notANumber := "null".toList
  signedInfinite := false

end StepArguments.Decimal
