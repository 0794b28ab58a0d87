import MarkupActions.Value
import MarkupActions.Decimal.Reading

/-!
# MarkupActions.Json.Number

**Numbers in JSON text.** A number without fraction and exponent is an integer when it fits 64 bits
with a sign; `-0` and everything else is a floating-point number.

Floating-point numbers are read by a fast rule that is not always the nearest double: the digits
are gathered in a 64-bit significand, which is converted to a double and then scaled by a power of
ten in floating-point arithmetic. Digits that no longer fit are left out: in front of the point
they still count as powers of ten, behind it they are dropped. A number too great for a double is
refused.
-/

namespace MarkupActions.Json

/-- Digits gathered so far: their number below `2 ^ 64`, and the power of ten they are scaled by. -/
structure Gathered where
  /-- The digits that fit. -/
  significand : Nat
  exponent : Int

/-- The greatest significand that is kept. -/
def maxSignificand : Nat := UInt64.size - 1

/-- One more digit behind the significand, if it still fits. -/
def appendDigit? (significand : Nat) (c : Char) : Option Nat :=
  let next := significand * 10 + (c.toNat - 48)
  if next ≤ maxSignificand then some next else none

/-- Digits in front of the point: from the first one that does not fit, each counts as a power of
ten. -/
def gatherWhole (significand : Nat) : List Char → Gathered
  | [] => ⟨significand, 0⟩
  | c :: rest =>
      match appendDigit? significand c with
      | some next => gatherWhole next rest
      | none => ⟨significand, (c :: rest).length⟩

/-- Digits behind the point: from the first one that does not fit, all are dropped. -/
def gatherFraction (g : Gathered) : List Char → Gathered
  | [] => g
  | c :: rest =>
      match appendDigit? g.significand c with
      | some next => gatherFraction ⟨next, g.exponent - 1⟩ rest
      | none => g

/-- The double nearest to a power of ten up to `10 ^ 308`. -/
def powerOfTen (e : Nat) : Float := Float.ofScientific 1 false e

/-- Scale a double by a power of ten, in steps of `10 ^ 308` while the exponent is below that. None
when the result is too great. `steps` bounds the number of divisions; after two of them even the
greatest significand has become zero. -/
def scale? : Nat → Float → Int → Option Float
  | 0, _, _ => some 0
  | steps + 1, x, e =>
      if e.natAbs ≤ 308 then
        if 0 ≤ e then
          let y := x * powerOfTen e.natAbs
          if y.isInf then none else some y
        else some (x / powerOfTen e.natAbs)
      else if x == 0 then some x
      else if 0 ≤ e then none
      else scale? steps (x / powerOfTen 308) (e + 308)

/-- The double of a significand and a power of ten, if it is not too great. -/
def Gathered.toFloat? (g : Gathered) : Option Float :=
  scale? 4 (UInt64.ofNat g.significand).toFloat g.exponent

/-- The greatest exponent that is taken at its word. -/
def maxExponent : Nat := 0x7FFFFFFF

/-- A number's sign, the digits in front of the point, the digits behind it if there is a point,
and the sign and digits of the exponent if there is one. -/
structure Parts where
  negative : Bool
  whole : List Char
  fraction : Option (List Char)
  /-- Sign and digits of the exponent; true stands for minus. -/
  exponent : Option (Bool × List Char)

/-- The magnitude of a number with a fraction or an exponent, or of a long integer. -/
def Parts.magnitude? (p : Parts) : Option Float :=
  let g := gatherFraction (gatherWhole 0 p.whole) (p.fraction.getD [])
  match p.exponent with
  | none => g.toFloat?
  | some (negative, ds) =>
      let e := Decimal.natOfDigits ds
      if e ≤ maxExponent then
        Gathered.toFloat? ⟨g.significand, if negative then g.exponent - e else g.exponent + e⟩
      else if g.significand = 0 || negative then some 0
      else none

/-- The integer a number stands for, if it has neither fraction nor exponent, fits, and is not a
negative zero. -/
def Parts.int? (p : Parts) : Option Int64 :=
  let n := Decimal.natOfDigits p.whole
  let i : Int := if p.negative then -(n : Int) else n
  if p.fraction.isNone && p.exponent.isNone && Decimal.fitsInt64 i && !(p.negative && n == 0)
  then some (Int64.ofInt i) else none

/-- The value of a number that has been read: an integer if its parts are those of one, or else a
floating-point number. None when it is too great for that. -/
def Parts.value? (p : Parts) : Option Value :=
  match p.int? with
  | some i => some (.int i)
  | none => p.magnitude?.map fun x => .float (if p.negative then -x else x)

/-! ### Scanning -/

/-- The digits in front of a text, and what is behind them. -/
def spanDigits (cs : List Char) : List Char × List Char :=
  (cs.takeWhile Text.isAsciiDigit, cs.dropWhile Text.isAsciiDigit)

/-- A zero alone, or digits that do not begin with zero. -/
def scanWhole? : List Char → Option (List Char × List Char)
  | '0' :: rest => some (['0'], rest)
  | cs => if (spanDigits cs).1.isEmpty then none else some (spanDigits cs)

/-- A point with at least one digit behind it, if there is a point. -/
def scanFraction? : List Char → Option (Option (List Char) × List Char)
  | '.' :: rest =>
      if (spanDigits rest).1.isEmpty then none
      else some (some (spanDigits rest).1, (spanDigits rest).2)
  | cs => some (none, cs)

/-- An exponent with at least one digit, if there is an exponent mark. -/
def scanExponent? : List Char → Option (Option (Bool × List Char) × List Char)
  | c :: rest =>
      if c = 'e' ∨ c = 'E' then
        let signed := Decimal.takeSign rest
        let ds := spanDigits signed.2
        if ds.1.isEmpty then none else some (some (signed.1, ds.1), ds.2)
      else some (none, c :: rest)
  | [] => some (none, [])

/-- A number in front of a text, and the rest. -/
def scanNumber? (cs : List Char) : Option (Parts × List Char) := do
  let (negative, body) := match cs with
    | '-' :: rest => (true, rest)
    | other => (false, other)
  let (whole, afterWhole) ← scanWhole? body
  let (fraction, afterFraction) ← scanFraction? afterWhole
  let (exponent, rest) ← scanExponent? afterFraction
  return (⟨negative, whole, fraction, exponent⟩, rest)

end MarkupActions.Json
