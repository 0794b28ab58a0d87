/-!
# MarkupActions.Decimal.Shortest

**The fewest decimal digits that read back.** A finite double-precision number is an integer times
a power of two, and every real number between the midpoints to its two neighbours rounds to it
(the midpoints too when the integer is even). Of all decimals in that interval, the shortest are
those on the coarsest grid of powers of ten that meets it, and of these the nearest is taken.

The search is exact: it compares natural numbers only. When a grid meets the interval, one of the
two grid points next to the number itself lies in it, so two candidates per grid are enough.
-/

namespace MarkupActions.Decimal

/-- A nonnegative finite number, `significand · 2 ^ exponent`. -/
structure Binary where
  significand : Nat
  exponent : Int
  /-- Whether the neighbour below is half as far away as the one above. -/
  closeBelow : Bool

/-! ### The fields of a double

From the greatest bit down: the sign, eleven bits of exponent, fifty-two bits of fraction. -/

/-- The number of fractions that go with one exponent. -/
def fractionCount : Nat := 0x10000000000000

/-- The number of exponents that go with one sign. -/
def exponentCount : Nat := 0x800

/-- The fraction of a double. -/
def fractionField (bits : UInt64) : Nat := bits.toNat % fractionCount

/-- The exponent of a double as it is stored. -/
def exponentField (bits : UInt64) : Nat := bits.toNat / fractionCount % exponentCount

/-- The sign bit, which zero and the infinities have too. -/
def isNegative (bits : UInt64) : Bool := bits.toNat / fractionCount / exponentCount = 1

/-- Whether a double is a finite number. The greatest exponent is kept for what is not. -/
def isFinite (bits : UInt64) : Bool := exponentField bits + 1 < exponentCount

/-- The magnitude that the bits of a finite double stand for. -/
def Binary.ofBits (bits : UInt64) : Binary :=
  let fraction := fractionField bits
  let field := exponentField bits
  if field = 0 then ⟨fraction, -1074, false⟩
  else ⟨fractionCount + fraction, (field : Int) - 1075, fraction = 0 && field > 1⟩

/-- A nonnegative decimal number, `coefficient · 10 ^ exponent`. -/
structure Scaled where
  coefficient : Nat
  exponent : Int
  deriving DecidableEq

/-- What to do when a number lies exactly halfway between two shortest decimals. -/
inductive Tie where
  /-- Take the greater one. -/
  | up
  /-- Take the one with an even last digit. -/
  | even
  deriving DecidableEq

/-- An interval of positive reals around a number, over one denominator. -/
structure Interval where
  /-- Numerator of the lower end. -/
  low : Nat
  /-- Numerator of the number. -/
  mid : Nat
  /-- Numerator of the upper end. -/
  high : Nat
  /-- The common denominator. -/
  unit : Nat
  /-- Whether the ends belong to the interval. -/
  closed : Bool

/-- The reals that round to the number. -/
def Binary.interval (x : Binary) : Interval :=
  -- In quarters of the last place, so that half the distance to a close neighbour is whole.
  let up := Nat.pow 2 (x.exponent - 2).toNat
  { low := (4 * x.significand - if x.closeBelow then 1 else 2) * up
    mid := 4 * x.significand * up
    high := (4 * x.significand + 2) * up
    unit := Nat.pow 2 (2 - x.exponent).toNat
    closed := x.significand % 2 = 0 }

/-- The interval measured in multiples of `10 ^ grid`. -/
def Interval.onGrid (i : Interval) (grid : Int) : Interval :=
  let up := Nat.pow 10 (-grid).toNat
  { i with low := i.low * up, mid := i.mid * up, high := i.high * up
           unit := i.unit * Nat.pow 10 grid.toNat }

/-- Whether the interval holds the integer. -/
def Interval.holds (i : Interval) (n : Nat) : Bool :=
  let p := n * i.unit
  if i.closed then i.low ≤ p && p ≤ i.high else i.low < p && p < i.high

/-- The integer of the interval nearest to its number among the two next to it, if any. -/
def Interval.nearest? (i : Interval) (tie : Tie) : Option Nat :=
  let below := i.mid / i.unit
  match i.holds below, i.holds (below + 1) with
  | false, false => none
  | true, false => some below
  | false, true => some (below + 1)
  | true, true =>
      -- The halfway point between the two is compared over twice the denominator.
      let twice := 2 * i.mid
      let half := (2 * below + 1) * i.unit
      if twice < half then some below
      else if half < twice then some (below + 1)
      else match tie with
        | .up => some (below + 1)
        | .even => some (if below % 2 = 0 then below else below + 1)

/-- The coarsest grid worth trying: the power of ten of the number's first digit, or for a number
below one possibly the next greater power. -/
def Interval.topGrid (i : Interval) : Int :=
  if i.unit ≤ i.mid then ((Nat.toDigits 10 (i.mid / i.unit)).length : Int) - 1
  else 1 - ((Nat.toDigits 10 (i.unit / i.mid)).length : Int)

/-- Try one grid after another, each ten times finer. -/
def Interval.search (i : Interval) (tie : Tie) : Nat → Int → Scaled
  | 0, grid => ⟨(i.onGrid grid).mid / (i.onGrid grid).unit, grid⟩
  | tries + 1, grid =>
      match (i.onGrid grid).nearest? tie with
      | some n => ⟨n, grid⟩
      | none => i.search tie tries (grid - 1)

/-- The same number with the zeros at the end of its coefficient moved to the exponent; `tries`
bounds how many. -/
def Scaled.normalize : Nat → Scaled → Scaled
  | 0, x => x
  | tries + 1, x =>
      if x.coefficient ≠ 0 ∧ x.coefficient % 10 = 0
      then normalize tries ⟨x.coefficient / 10, x.exponent + 1⟩ else x

/-- The shortest decimal that rounds to the number. Seventeen digits always do, and the first grid
may be one too coarse, hence eighteen tries. -/
def Binary.shortest (x : Binary) (tie : Tie) : Scaled :=
  if x.significand = 0 then ⟨0, 0⟩
  else (x.interval.search tie 18 x.interval.topGrid).normalize 20

end MarkupActions.Decimal
