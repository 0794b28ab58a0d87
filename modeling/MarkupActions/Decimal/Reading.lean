import MarkupActions.Text.Basic

/-!
# MarkupActions.Decimal.Reading

**Numbers out of text.** `readInt?` takes an optional sign and ASCII digits, and refuses what does
not fit 64 bits. `readFloat?` takes an optional sign, digits with at most one point among or around
them, and an optional exponent, or one of the names of the values that are no finite number; it
rounds to the nearest double, beyond the greatest to infinity.
-/

namespace MarkupActions.Decimal

open Text

/-- The number that digits stand for. -/
def natOfDigits (cs : List Char) : Nat := cs.foldl (fun n c => 10 * n + (c.toNat - 48)) 0

/-- A sign, if there is one, and what follows it. True stands for minus. -/
def takeSign : List Char → Bool × List Char
  | '-' :: rest => (true, rest)
  | '+' :: rest => (false, rest)
  | cs => (false, cs)

/-- Whether the text is one or more digits. -/
def isDigits (cs : List Char) : Bool := !cs.isEmpty && cs.all isAsciiDigit

/-- Whether the integer fits 64 bits with a sign. -/
def fitsInt64 (i : Int) : Bool := Int64.minValue.toInt ≤ i && i ≤ Int64.maxValue.toInt

/-- The integer a text stands for. -/
def readInt? (cs : List Char) : Option Int64 :=
  let (negative, body) := takeSign cs
  if isDigits body then
    let i : Int := if negative then -(natOfDigits body : Int) else natOfDigits body
    if fitsInt64 i then some (Int64.ofInt i) else none
  else none

/-- The value of `inf`, and of every number too great for a double. -/
def infinity : Float := Float.ofBits 0x7FF0000000000000

/-- The value of `nan`. -/
def notANumber : Float := Float.ofBits 0x7FF8000000000000

/-- The double nearest to `coefficient · 10 ^ exponent`. Far outside the range of doubles the
answer is known without computing the power. -/
def nearestFloat (coefficient : Nat) (exponent : Int) : Float :=
  let magnitude : Int := (Nat.toDigits 10 coefficient).length + exponent
  -- The power of ten is computed exactly, so it must not be as large as a text can ask for.
  if coefficient = 0 then 0
  else if magnitude > 310 then infinity
  else if magnitude < -330 then 0
  else if exponent < 0 then Float.ofScientific coefficient true exponent.natAbs
  else Float.ofScientific coefficient false exponent.natAbs

/-- The exponent at the end of a number: nothing, or `e`, an optional sign and digits. -/
def readExponent? : List Char → Option Int
  | [] => some 0
  | e :: rest =>
      if e = 'e' ∨ e = 'E' then
        let (negative, body) := takeSign rest
        if isDigits body then
          some (if negative then -(natOfDigits body : Int) else natOfDigits body)
        else none
      else none

/-- A number without sign: digits, an optional point with digits, an optional exponent; at least
one digit in front of the exponent. -/
def readMagnitude? (cs : List Char) : Option Float :=
  let whole := cs.takeWhile isAsciiDigit
  let rest := cs.dropWhile isAsciiDigit
  let (fraction, tail) := match rest with
    | '.' :: after => (after.takeWhile isAsciiDigit, after.dropWhile isAsciiDigit)
    | other => ([], other)
  if whole.isEmpty && fraction.isEmpty then none
  else
    (readExponent? tail).map fun e =>
      nearestFloat (natOfDigits (whole ++ fraction)) (e - fraction.length)

/-- The names of infinity and of not-a-number, in any case. -/
def namedFloat? (cs : List Char) : Option Float :=
  -- Only ASCII letters have another case here.
  let name := String.ofList (cs.map Char.toLower)
  if name = "inf" ∨ name = "infinity" then some infinity
  else if name = "nan" then some notANumber
  else none

/-- The floating-point number a text stands for. -/
def readFloat? (cs : List Char) : Option Float :=
  let (negative, body) := takeSign cs
  ((namedFloat? body).orElse fun _ => readMagnitude? body).map fun x => if negative then -x else x

end MarkupActions.Decimal
