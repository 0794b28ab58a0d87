import MarkupActions.Value

/-!
# MarkupActions.Json.Printer

**Values as JSON text.** `compact` writes without any white space, `pretty` gives every item and
member a line of its own, indented by two spaces a level. Members come in the order in which the
object lists them. Floating-point numbers always show a fraction or an exponent, so that they read
back as such; a value that JSON has no number for is `null`.
-/

namespace MarkupActions.Json

/-- Floating-point numbers in JSON: positional from `0.00001` up to sixteen digits before the
point, scientific elsewhere, of two equally near shortest decimals the even one. -/
def numberStyle : Decimal.Style where
  tie := .even
  positional := fun e => -5 ≤ e && e < 16
  wholeEnd := ['.', '0']
  nan := "null".toList
  infinity := "null".toList
  negInfinity := "null".toList

/-- One character inside a JSON text: the quote, the backslash and the control characters are
escaped, everything else stands for itself. -/
def escapeChar (c : Char) : List Char :=
  if c = '"' then ['\\', '"']
  else if c = '\\' then ['\\', '\\']
  else if c = '\x08' then ['\\', 'b']
  else if c = '\x0c' then ['\\', 'f']
  else if c = '\n' then ['\\', 'n']
  else if c = '\r' then ['\\', 'r']
  else if c = '\t' then ['\\', 't']
  else if c.toNat < 0x20 then
    ['\\', 'u', '0', '0', Nat.digitChar (c.toNat / 16), Nat.digitChar (c.toNat % 16)]
  else [c]

/-- A text between double quotes. -/
def text (s : String) : List Char := '"' :: s.toList.flatMap escapeChar ++ ['"']

/-! ### Compact form -/

mutual

/-- A value without white space. -/
def compactChars : Value → List Char
  | .null => "null".toList
  | .bool true => "true".toList
  | .bool false => "false".toList
  | .int i => Decimal.signedDigits i.toInt
  | .float x => numberStyle.write x
  | .string s => text s
  | .array items => '[' :: compactItems items ++ [']']
  | .object members => '\x7b' :: compactMembers members ++ ['\x7d']

/-- The items of an array on one line, with commas between them. -/
def compactItems : List Value → List Char
  | [] => []
  | [v] => compactChars v
  | v :: rest => compactChars v ++ ',' :: compactItems rest

/-- The members of an object on one line, with commas between them. -/
def compactMembers : List (String × Value) → List Char
  | [] => []
  | [(k, v)] => text k ++ ':' :: compactChars v
  | (k, v) :: rest => text k ++ ':' :: compactChars v ++ ',' :: compactMembers rest

end

/-- The text of a value on one line, without blanks. -/
def compact (v : Value) : String := String.ofList (compactChars v)

/-! ### Indented form -/

/-- A line end and the indentation of a level. -/
def newline (level : Nat) : List Char := '\n' :: List.replicate (2 * level) ' '

mutual

/-- A value whose first line stands at the level; an empty array or object stays on one line. -/
def prettyChars (level : Nat) : Value → List Char
  | .array [] => ['[', ']']
  | .array items =>
      '[' :: newline (level + 1) ++ prettyItems (level + 1) items ++ newline level ++ [']']
  | .object [] => ['\x7b', '\x7d']
  | .object members =>
      '\x7b' :: newline (level + 1) ++ prettyMembers (level + 1) members ++ newline level
        ++ ['\x7d']
  | .null => compactChars .null
  | .bool b => compactChars (.bool b)
  | .int i => compactChars (.int i)
  | .float x => compactChars (.float x)
  | .string s => compactChars (.string s)

/-- The items of an array, each on a line of its own. -/
def prettyItems (level : Nat) : List Value → List Char
  | [] => []
  | [v] => prettyChars level v
  | v :: rest => prettyChars level v ++ ',' :: newline level ++ prettyItems level rest

/-- The members of an object, each on a line of its own. -/
def prettyMembers (level : Nat) : List (String × Value) → List Char
  | [] => []
  | [(k, v)] => text k ++ ':' :: ' ' :: prettyChars level v
  | (k, v) :: rest =>
      text k ++ ':' :: ' ' :: prettyChars level v ++ ',' :: newline level
        ++ prettyMembers level rest

end

/-- The text of a value over several lines, two blanks deeper with every level. -/
def pretty (v : Value) : String := String.ofList (prettyChars 0 v)

end MarkupActions.Json
