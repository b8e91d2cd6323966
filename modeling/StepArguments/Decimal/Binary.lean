/-! # Doubles as exact numbers

`Binary` is a finite positive double in the form `mantissa * 2 ^ exponent`. `ofDecimal` is the
double nearest to a decimal number, computed in exact arithmetic: the quotient gets as many bits as
a double holds at that size, and a half goes to the even neighbour. -/

namespace StepArguments.Decimal

/-- A finite positive double, as the number `mantissa * 2 ^ exponent`. -/
structure Binary where
  mantissa : Nat
  exponent : Int
  /-- Whether the next smaller double is only half as far away as the next larger one. -/
  atPowerOfTwo : Bool

/-- What a double stands for, its sign apart. -/
inductive Magnitude where
  | zero
  | finite (b : Binary)
  | infinite
  | notANumber

def isNegative (x : Float) : Bool :=
  1 <<< 63 ≤ x.toBits.toNat

def magnitude (x : Float) : Magnitude :=
  let bits := x.toBits.toNat % (1 <<< 63)
  let fraction := bits % (1 <<< 52)
  let field : Nat := bits >>> 52
  -- the greatest exponent is no number, the least one has no hidden bit
  if field = 0x7FF then (if fraction = 0 then .infinite else .notANumber)
  else if field = 0 then
    (if fraction = 0 then .zero else .finite ⟨fraction, -1074, false⟩)
  else .finite ⟨(1 <<< 52) + fraction, Int.ofNat field - 1075, fraction == 0 && 1 < field⟩

def isFinite (x : Float) : Bool :=
  (x.toBits.toNat >>> 52) % 0x800 != 0x7FF

/-- The numerator and denominator of `mantissa * base ^ exponent`. -/
def ratio (mantissa base : Nat) (exponent : Int) : Nat × Nat :=
  (mantissa * base.pow exponent.toNat, base.pow (-exponent).toNat)

/-- The whole number nearest to a quotient; a half goes to the even neighbour. -/
def divideToEven (num den : Nat) : Nat :=
  let q := num / den
  let twice := 2 * (num % den)
  if twice < den then q
  else if den < twice then q + 1
  else q + q % 2

/-- The greatest `e` with `2 ^ e ≤ num / den`. -/
def floorLog2 (num den : Nat) : Int :=
  let e : Int := (num.log2 : Int) - (den.log2 : Int)
  if den <<< e.toNat ≤ num <<< (-e).toNat then e else e - 1

def bitsOfRatio (num den : Nat) : Nat :=
  -- the place of the last bit: 53 bits, or fewer near zero
  let scale := max (floorLog2 num den - 52) (-1074)
  let q := divideToEven (num <<< (-scale).toNat) (den <<< scale.toNat)
  min (q + (scale + 1074).toNat <<< 52) (0x7FF <<< 52)

/-- The double nearest to `digits * 10 ^ exponent`. Beyond ten to the four hundredth, either way,
the answer is known without computing the number. -/
def ofDecimal (digits : Nat) (exponent : Int) : Float :=
  let size := exponent + ((digits.log2 * 30103 / 100000 : Nat) : Int)
  if digits = 0 ∨ size < -400 then Float.ofBits 0
  else if 400 < size then Float.ofBits (UInt64.ofNat (0x7FF <<< 52))
  else
    let (num, den) := ratio digits 10 exponent
    Float.ofBits (UInt64.ofNat (bitsOfRatio num den))

end StepArguments.Decimal
