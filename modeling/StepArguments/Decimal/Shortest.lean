import StepArguments.Decimal.Binary

/-! # Shortest decimal numbers

The numbers that round to a double form an interval around it. `shortest` is the decimal number of
that interval with the fewest digits, and of those the one nearest to the double: grids of powers
of ten are tried from coarse to fine, and on each grid the two neighbours of the double. -/

namespace StepArguments.Decimal

/-- Which of two neighbours is taken when a number lies exactly between them. -/
inductive Tie where
  | up
  | toEven

/-- A decimal number `digits * 10 ^ exponent`. -/
structure Scaled where
  digits : Nat
  exponent : Int

/-- The interval of the numbers that round to a double, in units of a quarter of its last bit,
together with the double itself; the ends belong to it if the mantissa is even. -/
structure Interval where
  low : Nat
  value : Nat
  high : Nat
  closed : Bool
  /-- The unit, as a numerator and a denominator. -/
  unit : Nat × Nat

def Binary.interval (b : Binary) : Interval where
  low := 4 * b.mantissa - (if b.atPowerOfTwo then 1 else 2)
  value := 4 * b.mantissa
  high := 4 * b.mantissa + 2
  closed := b.mantissa % 2 == 0
  unit := ratio 1 2 (b.exponent - 2)

/-- Whether the point `digits * num / den` lies in an interval. -/
def Interval.holds (i : Interval) (digits num den : Nat) : Bool :=
  let point := digits * num * i.unit.2
  let low := i.low * i.unit.1 * den
  let high := i.high * i.unit.1 * den
  if i.closed then low ≤ point && point ≤ high else low < point && point < high

/-- The best point of the grid of the multiples of `10 ^ exponent` inside an interval. -/
def Interval.onGrid? (i : Interval) (tie : Tie) (exponent : Int) : Option Nat :=
  let (num, den) := ratio 1 10 exponent
  let below := i.value * i.unit.1 * den / (i.unit.2 * num)
  let rest := i.value * i.unit.1 * den % (i.unit.2 * num)
  match i.holds below num den, i.holds (below + 1) num den with
  | false, false => none
  | true, false => some below
  | false, true => some (below + 1)
  | true, true =>
    if 2 * rest < i.unit.2 * num then some below
    else if i.unit.2 * num < 2 * rest then some (below + 1)
    else
      match tie with
      | .up => some (below + 1)
      | .toEven => some (below + below % 2)

def Interval.search (i : Interval) (tie : Tie) : (grids : Nat) → (exponent : Int) → Scaled
  | 0, exponent => ⟨i.value * i.unit.1 / i.unit.2, exponent⟩
  | grids + 1, exponent =>
    match i.onGrid? tie exponent with
    | some digits => ⟨digits, exponent⟩
    | none => i.search tie grids (exponent - 1)

/-- The decimal number with the fewest digits that rounds to a double, and of those the nearest.
The first grid is coarser than the double is large, and a double needs at most 17 digits. -/
def Binary.shortest (b : Binary) (tie : Tie) : Scaled :=
  -- 30103 hundred thousandths are just above the decimal logarithm of two
  let bits : Int := (b.mantissa.log2 : Int) + 1 + b.exponent
  b.interval.search tie 20 (bits * 30103 / 100000 + 1)

end StepArguments.Decimal
