import MarkupActions.Text.Basic

/-!
# MarkupActions.Xml.Char

**The characters of markup.** Which characters a document may hold, which of them are white space
between names, and which can begin and continue a name (XML 1.0, fifth edition). A few characters
that are blanks elsewhere in Unicode, such as the Ogham space mark, are name characters here.
-/

namespace MarkupActions.Xml

/-- White space of markup: space, tab, line feed and carriage return. -/
def isSpace (c : Char) : Bool := c = ' ' || c = '\t' || c = '\n' || c = '\r'

/-- Whether the character can stand in a document at all. -/
def isXmlChar (c : Char) : Bool :=
  if c.toNat < 0x20 then isSpace c else c.toNat ≠ 0xFFFE && c.toNat ≠ 0xFFFF

/-- Characters outside ASCII that can begin a name. -/
def nameStartRanges : List (Nat × Nat) := [
  (0xC0, 0xD6), (0xD8, 0xF6), (0xF8, 0x2FF), (0x370, 0x37D), (0x37F, 0x1FFF), (0x200C, 0x200D),
  (0x2070, 0x218F), (0x2C00, 0x2FEF), (0x3001, 0xD7FF), (0xF900, 0xFDCF), (0xFDF0, 0xFFFD),
  (0x10000, 0xEFFFF)]

/-- Characters outside ASCII that can continue a name but not begin one. -/
def namePartRanges : List (Nat × Nat) := [(0xB7, 0xB7), (0x300, 0x36F), (0x203F, 0x2040)]

/-- Whether the character can begin a name. The colon counts here, and is dealt with where names are
cut at it. -/
def isNameStart (c : Char) : Bool :=
  Text.isAsciiLetter c || c = ':' || c = '_' || Text.inRanges nameStartRanges c.toNat

/-- Whether the character can continue a name. -/
def isNameChar (c : Char) : Bool :=
  isNameStart c || Text.isAsciiDigit c || c = '-' || c = '.' || Text.inRanges namePartRanges c.toNat

end MarkupActions.Xml
