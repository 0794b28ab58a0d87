import MarkupActions.Json.Printer

/-!
# MarkupActions.Value.Text

**The canonical text of a value.** Texts stand for themselves, scalars have their shortest form
(a whole floating-point number drops its fraction), arrays and objects are compact JSON. An
attribute takes this text; `null` has none to give.
-/

namespace MarkupActions.Value

/-- The canonical text, as characters. -/
def textChars : Value → List Char
  | .null => "null".toList
  | .bool true => "true".toList
  | .bool false => "false".toList
  | .int i => Decimal.signedDigits i.toInt
  | .float x => Decimal.plain.write x
  | .string s => s.toList
  | .array items => Json.compactChars (.array items)
  | .object members => Json.compactChars (.object members)

/-- A value as it stands in a message: a text without quotes, and else its JSON. -/
def text : Value → String
  | .string s => s
  | v => String.ofList (textChars v)

/-- The text an attribute takes from the value: none from `null`. -/
def attributeText? : Value → Option String
  | .null => none
  | v => some v.text

@[simp] theorem text_string (s : String) : text (.string s) = s := rfl

@[simp] theorem attributeText?_null : attributeText? .null = none := rfl

@[simp] theorem attributeText?_string (s : String) : attributeText? (.string s) = some s := rfl

/-- Only `null` gives an attribute no text. -/
theorem attributeText?_eq_none_iff (v : Value) : v.attributeText? = none ↔ v = .null := by
  cases v <;> simp [attributeText?]

end MarkupActions.Value
