import StepArguments.Decimal.Binary

/-! # Reading numbers

Integers are read digit by digit, so that of an unknown character and a number that has grown too
large the earlier one is reported. Doubles are read as a decimal number and rounded once. -/

namespace StepArguments.Decimal

/-- Why a text is not an integer. -/
inductive IntegerFault where
  | empty
  | invalidDigit
  | tooLarge
  | tooSmall
deriving DecidableEq

def IntegerFault.message : IntegerFault → String
  | .empty => "cannot parse integer from empty string"
  | .invalidDigit => "invalid digit found in string"
  | .tooLarge => "number too large to fit in target type"
  | .tooSmall => "number too small to fit in target type"

/-- Why a text is not a double. -/
inductive FloatFault where
  | empty
  | invalid
deriving DecidableEq

def FloatFault.message : FloatFault → String
  | .empty => "cannot parse float from empty string"
  | .invalid => "invalid float literal"

def digitValue (c : Char) : Nat :=
  c.toNat - '0'.toNat

def digitsValue (s : List Char) : Nat :=
  s.foldl (fun n c => 10 * n + digitValue c) 0

/-- Reads digits onto a number, up to a limit; `overflow` is the fault of passing it. -/
def readDigits (limit : Nat) (overflow : IntegerFault) :
    Nat → List Char → Except IntegerFault Nat
  | n, [] => .ok n
  | n, c :: s =>
    if c.isDigit then
      let n := 10 * n + digitValue c
      if n ≤ limit then readDigits limit overflow n s else .error overflow
    else .error .invalidDigit

def readNatural (limit : Nat) (overflow : IntegerFault) :
    List Char → Except IntegerFault Nat
  | [] => .error .invalidDigit
  | s => readDigits limit overflow 0 s

def readInteger : List Char → Except IntegerFault Int64
  | [] => .error .empty
  | '-' :: s => (readNatural (1 <<< 63) .tooSmall s).map fun n => Int64.ofInt (-n)
  | '+' :: s => (readNatural ((1 <<< 63) - 1) .tooLarge s).map fun n => Int64.ofInt n
  | s => (readNatural ((1 <<< 63) - 1) .tooLarge s).map fun n => Int64.ofInt n

/-- Reads an index below `2 ^ 64`. -/
def readIndex? : List Char → Option Nat
  | '+' :: s => (readNatural (UInt64.size - 1) .tooLarge s).toOption
  | s => (readNatural (UInt64.size - 1) .tooLarge s).toOption

/-- The exponent after the letter: an optional sign and at least one digit, and nothing more. -/
def readExponent? (s : List Char) : Option Int :=
  let (negative, digits) :=
    match s with
    | '-' :: s => (true, s)
    | '+' :: s => (false, s)
    | s => (false, s)
  if digits.isEmpty || !digits.all Char.isDigit then none
  else some (if negative then -(digitsValue digits : Int) else digitsValue digits)

/-- Reads an unsigned decimal number: digits with an optional point, at least one digit, and an
optional exponent. -/
def readUnsigned? (s : List Char) : Option Float :=
  let whole := s.takeWhile Char.isDigit
  let rest := s.dropWhile Char.isDigit
  let (fraction, rest) :=
    match rest with
    | '.' :: rest => (rest.takeWhile Char.isDigit, rest.dropWhile Char.isDigit)
    | rest => ([], rest)
  let exponent? :=
    match rest with
    | [] => some 0
    | c :: rest => if c = 'e' ∨ c = 'E' then readExponent? rest else none
  if whole.isEmpty && fraction.isEmpty then none
  else exponent?.map fun exponent =>
    ofDecimal (digitsValue (whole ++ fraction)) (exponent - fraction.length)

/-- The words for doubles that are no numbers of the line, in any mixture of cases. -/
def readWord? (s : List Char) : Option Float :=
  let word := String.ofList (s.map Char.toLower)
  if word = "inf" ∨ word = "infinity" then some (Float.ofBits 0x7FF0000000000000)
  else if word = "nan" then some (Float.ofBits 0x7FF8000000000000)
  else none

/-- Reads a double: an optional sign, then a number or a word. -/
def readFloat (s : List Char) : Except FloatFault Float :=
  let unsigned (s : List Char) : Option Float := (readUnsigned? s).orElse fun _ => readWord? s
  let read? :=
    match s with
    | '-' :: s => (unsigned s).map fun x => -x
    | '+' :: s => unsigned s
    | s => unsigned s
  match read? with
  | some x => .ok x
  | none => .error (if s.isEmpty then .empty else .invalid)

end StepArguments.Decimal
