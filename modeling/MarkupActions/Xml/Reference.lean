import MarkupActions.Decimal.Reading
import MarkupActions.Xml.Char

/-!
# MarkupActions.Xml.Reference

**Character references and attribute values.** A reference stands between `&` and `;`: one of five
names, or the number of a character. A number that is no Unicode scalar value stands for the
replacement character, one that does not fit 32 bits or that names a character no document may
hold is refused, and so is every other name.

In an attribute value each written tab, line feed and carriage return counts as a space, a carriage
return with its line feed as one; what a reference stands for is kept as it is.
-/

namespace MarkupActions.Xml

/-- The value of a hexadecimal digit in either case. -/
def hexValue? (c : Char) : Option Nat :=
  if '0' ≤ c ∧ c ≤ '9' then some (c.toNat - 48)
  else if 'a' ≤ c ∧ c ≤ 'f' then some (c.toNat - 87)
  else if 'A' ≤ c ∧ c ≤ 'F' then some (c.toNat - 55)
  else none

/-- The number of hexadecimal digits, at least one. -/
def readHex? (cs : List Char) : Option Nat :=
  if cs.isEmpty then none
  else cs.foldlM (fun n c => (hexValue? c).map (16 * n + ·)) 0

/-- The number of decimal digits, at least one. -/
def readNumber? (cs : List Char) : Option Nat :=
  if Decimal.isDigits cs then some (Decimal.natOfDigits cs) else none

/-- The character of a number in a reference. -/
def numbered? (n : Nat) : Option Char :=
  if n < UInt32.size then
    let c := if h : n.isValidChar then Char.ofNatAux n h else '\uFFFD'
    if isXmlChar c then some c else none
  else none

/-- The character that the part between `&` and `;` stands for. -/
def referenced? : List Char → Option Char
  | '#' :: 'x' :: ds => (readHex? ds).bind numbered?
  | '#' :: ds => (readNumber? ds).bind numbered?
  | name =>
      if name = "quot".toList then some '"'
      else if name = "amp".toList then some '&'
      else if name = "apos".toList then some '\''
      else if name = "lt".toList then some '<'
      else if name = "gt".toList then some '>'
      else none

/-- How characters that are written as they are count. -/
abbrev Normalization := Char → Char

/-- Tabs and line ends count as spaces. -/
def spaced : Normalization := fun c => if c = '\t' ∨ c = '\n' ∨ c = '\r' then ' ' else c

/-- Expand the references of a text and normalize everything else. While a reference is being
read, `open?` holds the part of it that has been passed, last character first. -/
def expandFrom (normal : Normalization) : (open? : Option (List Char)) → List Char →
    Option (List Char)
  | none, [] => some []
  | some _, [] => none
  | none, c :: rest =>
      if c = '&' then expandFrom normal (some []) rest
      else if c = '\r' ∧ rest.head? = some '\n' then expandFrom normal none rest
      else (expandFrom normal none rest).map (normal c :: ·)
  | some passed, c :: rest =>
      if c = ';' then
        match referenced? passed.reverse with
        | some r => (expandFrom normal none rest).map (r :: ·)
        | none => none
      else expandFrom normal (some (c :: passed)) rest

/-- The value of an attribute, out of the characters between its quotes. -/
def attributeValue? (raw : List Char) : Option String :=
  (expandFrom spaced none raw).map String.ofList

/-- Whether every reference of a text stands for a character. -/
def hasGoodReferences (text : List Char) : Bool := (expandFrom id none text).isSome

end MarkupActions.Xml
