import StepArguments.Decimal.Format
import StepArguments.Decimal.Read
import StepArguments.Json.Fault

/-! # JSON numbers

A number without point and exponent is an integer as long as it fits 64 bits. Any other number
keeps the leading digits that fit 64 bits as its significand, which is then multiplied or divided
by a power of ten: one rounding for the significand, one for the power and one for the result. -/

namespace StepArguments.Json

/-- A number as it is written: a natural number, a negative integer or a double. -/
inductive Number where
  | natural (n : Nat)
  | negative (i : Int64)
  | double (x : Float)

/-! ## Doubles -/

def significandLimit : Nat := UInt64.size - 1

/-- A significand and the digits taken onto it as long as it fits 64 bits; then the number of
digits taken and the rest. -/
def takeDigits (significand taken : Nat) : List Char → Nat × Nat × List Char
  | [] => (significand, taken, [])
  | c :: s =>
    if c.isDigit && 10 * significand + Decimal.digitValue c ≤ significandLimit then
      takeDigits (10 * significand + Decimal.digitValue c) (taken + 1) s
    else (significand, taken, c :: s)

def startsWithDigit : List Char → Bool
  | c :: _ => c.isDigit
  | [] => false

/-- Multiplies a significand by a power of ten, in steps of at most ten to the 308th. -/
def scale (rest : List Char) : (steps : Nat) → Float → Int → Except Fault Float
  | 0, x, _ => .ok x
  | steps + 1, x, exponent =>
    if exponent.natAbs ≤ 308 then
      let power := Decimal.ofDecimal 1 exponent.natAbs
      if 0 ≤ exponent then
        let x := x * power
        if x.isInf then .error (.here .numberOutOfRange rest) else .ok x
      else .ok (x / power)
    -- zero stays zero, whatever the power
    else if x == 0 then .ok x
    else if 0 ≤ exponent then .error (.here .numberOutOfRange rest)
    else scale rest steps (x / Decimal.ofDecimal 1 308) (exponent + 308)

/-- The double of a sign, a significand and an exponent. Three divisions by ten to the 308th leave
nothing of any significand, so that four steps are enough. -/
def assemble (negative : Bool) (significand : Nat) (exponent : Int) (rest : List Char) :
    Except Fault (Number × List Char) :=
  (scale rest 4 (UInt64.ofNat significand).toFloat exponent).map fun x =>
    (.double (if negative then -x else x), rest)

/-- The digits of an exponent, up to the first at which it passes 32 bits. -/
def takeExponent (limit exponent : Nat) : List Char → (Nat × List Char) ⊕ List Char
  | [] => .inl (exponent, [])
  | c :: s =>
    if c.isDigit then
      let exponent := 10 * exponent + Decimal.digitValue c
      if exponent ≤ limit then takeExponent limit exponent s else .inr s
    else .inl (exponent, c :: s)

def readExponent (negative : Bool) (significand : Nat) (start : Int) : Reader Number := fun s =>
  let (down, s) :=
    match s with
    | '+' :: s => (false, s)
    | '-' :: s => (true, s)
    | s => (false, s)
  match s with
  | [] => .error (.here .endInValue [])
  | c :: rest =>
    if !c.isDigit then .error ⟨.invalidNumber, Text.Utf8.size s - 1⟩
    else
      match takeExponent 0x7FFFFFFF (Decimal.digitValue c) rest with
      | .inl (exponent, rest) =>
        assemble negative significand (if down then start - exponent else start + exponent) rest
      | .inr rest =>
        if significand != 0 && !down then .error (.here .numberOutOfRange rest)
        else .ok (.double (if negative then -0.0 else 0.0), rest.dropWhile Char.isDigit)

/-- Reads an exponent, if there is one, after all digits. -/
def finishDouble (negative : Bool) (significand : Nat) (exponent : Int) : Reader Number
  | 'e' :: s => readExponent negative significand exponent s
  | 'E' :: s => readExponent negative significand exponent s
  | s => assemble negative significand exponent s

/-- Reads what follows a decimal point. Digits that no longer fit are passed over. -/
def readFraction (negative : Bool) (significand : Nat) (exponent : Int) : Reader Number := fun s =>
  let (significand, taken, rest) := takeDigits significand 0 s
  if startsWithDigit rest then
    finishDouble negative significand (exponent - taken) (rest.dropWhile Char.isDigit)
  else if taken = 0 then
    .error (.next (if rest.isEmpty then .endInValue else .invalidNumber) rest)
  else finishDouble negative significand (exponent - taken) rest

/-! ## Whole numbers -/

/-- Reads what follows the digits before the point, of which `dropped` did not fit. -/
def finishNumber (negative : Bool) (significand dropped : Nat) : Reader Number
  | '.' :: s => readFraction negative significand dropped s
  | 'e' :: s => readExponent negative significand dropped s
  | 'E' :: s => readExponent negative significand dropped s
  | s =>
    -- digits that did not fit count as zeros
    if dropped != 0 then assemble negative significand dropped s
    else if !negative then .ok (.natural significand, s)
    else if 0 < significand && significand ≤ 1 <<< 63 then
      .ok (.negative (Int64.ofInt (-(significand : Int))), s)
    else .ok (.double (-(UInt64.ofNat significand).toFloat), s)

def readNumber (negative : Bool) : Reader Number
  | [] => .error (.here .endInValue [])
  | c :: s =>
    if c = '0' then
      if startsWithDigit s then .error (.next .invalidNumber s)
      else finishNumber negative 0 0 s
    else if !c.isDigit then .error ⟨.invalidNumber, Text.Utf8.size (c :: s) - 1⟩
    else
      let (significand, _, rest) := takeDigits (Decimal.digitValue c) 0 s
      let dropped := (rest.takeWhile Char.isDigit).length
      finishNumber negative significand dropped (rest.drop dropped)

def Number.describe : Number → String
  | .natural n => "integer `" ++ toString n ++ "`"
  | .negative i => "integer `" ++ String.ofList (Decimal.integerChars i.toInt) ++ "`"
  | .double x => "floating point `" ++ String.ofList (Decimal.exchange.write x) ++ "`"

end StepArguments.Json
