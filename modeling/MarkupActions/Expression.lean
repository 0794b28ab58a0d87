import MarkupActions.DataModel

/-!
# MarkupActions.Expression

**The expressions of attributes.** An expression is a literal or a location, nothing more; blanks
around it do not count.

* text between single or double quotes stands for itself, without escapes;
* `null`, `undefined`, `true` and `false` are words;
* a number is an integer if it fits, otherwise a floating-point number, which must begin with a
  digit or a minus;
* what begins with a bracket or a brace is JSON;
* anything else is the location of a variable.

Literals come first, so a variable named like a word cannot be read.
-/

namespace MarkupActions

namespace Expression

/-- The text between two quotes that begin and end the characters. -/
def unquote? (quote : Char) : List Char → Option (List Char)
  | [] => none
  | c :: rest =>
      if c = quote ∧ rest.getLast? = some quote then some rest.dropLast else none

/-- The value of a word. Both words for nothing have the same value. -/
def word? (cs : List Char) : Option Value :=
  if cs = "null".toList ∨ cs = "undefined".toList then some .null
  else if cs = "true".toList then some (.bool true)
  else if cs = "false".toList then some (.bool false)
  else none

/-- A number: an integer if it fits into 64 bits, or else a floating-point number. Words for
numbers, such as `inf`, are numbers behind a minus only. -/
def number? (cs : List Char) : Option Value :=
  match Decimal.readInt? cs with
  | some i => some (.int i)
  | none =>
      match cs with
      | c :: _ =>
          if Text.isAsciiDigit c || c = '-' then (Decimal.readFloat? cs).map .float else none
      | [] => none

/-- The value of a JSON text that is an array or an object. -/
def json? : List Char → Option Value
  | [] => none
  | c :: rest => if c = '[' ∨ c = '\x7b' then Json.ofChars? (c :: rest) else none

/-- The value of a literal. A word is one, although it could name a variable. -/
def literal? (cs : List Char) : Option Value :=
  -- Quotes come first: what they enclose may look like anything.
  match unquote? '\'' cs with
  | some inner => some (.string (String.ofList inner))
  | none =>
      match unquote? '"' cs with
      | some inner => some (.string (String.ofList inner))
      | none =>
          match word? cs with
          | some v => some v
          | none =>
              match number? cs with
              | some v => some v
              | none => json? cs

end Expression

/-- The value of an expression over the variables. -/
def DataModel.evaluate (m : DataModel) (expression : String) : Except DataModelError Value :=
  let text := Text.trim expression
  match Expression.literal? text.toList with
  | some v => .ok v
  | none =>
      if isLocation text then
        match m.get? text with
        | some v => .ok v
        | none => .error (.undefined text)
      else .error (.unsupported text)

end MarkupActions
