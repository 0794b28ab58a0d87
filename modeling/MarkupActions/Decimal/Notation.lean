import MarkupActions.Decimal.Shortest

/-!
# MarkupActions.Decimal.Notation

**How a number is written.** An integer is its digits behind an optional minus sign. A
floating-point number is its shortest decimal, laid out by a `Style`: which magnitudes are written
positionally, whether a whole number shows a fraction, and what stands for a value that is no
number.
-/

namespace MarkupActions.Decimal

/-- The decimal digits of a natural number, `0` for zero. -/
def digits (n : Nat) : List Char := Nat.toDigits 10 n

/-- An integer, with `-` in front when it is negative. -/
def signedDigits (i : Int) : List Char :=
  if i < 0 then '-' :: digits i.natAbs else digits i.natAbs

/-- The rules by which a format writes floating-point numbers. -/
structure Style where
  /-- Which of two equally near shortest decimals is written. -/
  tie : Tie
  /-- Whether a number of which the first digit stands for that power of ten is written
  positionally. -/
  positional : Int → Bool
  /-- What follows the digits of a whole number in positional notation. -/
  wholeEnd : List Char
  /-- What is written for a value that is not a number. -/
  nan : List Char
  infinity : List Char
  negInfinity : List Char

/-- Digits, a point where the fraction begins, and the zeros needed to reach it. -/
def Style.layOut (style : Style) (x : Scaled) : List Char :=
  let ds := digits x.coefficient
  let point : Int := ds.length + x.exponent
  if style.positional (point - 1) then
    if 0 ≤ x.exponent then ds ++ List.replicate x.exponent.toNat '0' ++ style.wholeEnd
    else if point ≤ 0 then '0' :: '.' :: List.replicate (-point).toNat '0' ++ ds
    else ds.take point.toNat ++ '.' :: ds.drop point.toNat
  else
    let fraction := if ds.length ≤ 1 then [] else '.' :: ds.drop 1
    let sign := if point - 1 < 0 then '-' else '+'
    ds.take 1 ++ fraction ++ 'e' :: sign :: digits (point - 1).natAbs

/-- A floating-point number in the style. The sign of zero is written. -/
def Style.write (style : Style) (x : Float) : List Char :=
  let bits := x.toBits
  if isFinite bits then
    let body := style.layOut ((Binary.ofBits bits).shortest style.tie)
    if isNegative bits then '-' :: body else body
  else if fractionField bits ≠ 0 then style.nan
  else if isNegative bits then style.negInfinity else style.infinity

/-- Plain text: always positional, whole numbers without a fraction, a tie goes up. -/
def plain : Style where
  tie := .up
  positional := fun _ => true
  wholeEnd := []
  nan := ['N', 'a', 'N']
  infinity := ['i', 'n', 'f']
  negInfinity := ['-', 'i', 'n', 'f']

end MarkupActions.Decimal
