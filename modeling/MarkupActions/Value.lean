import MarkupActions.Dict
import MarkupActions.Decimal.Notation

/-!
# MarkupActions.Value

**The dynamic values of documents.** Variables hold them, expressions produce them, diagnostics
carry them. `null` stands for "no value": a line read at the end of the input is `null` and never
an empty text.

Objects list their members in ascending key order; `Value.Ordered` says so for a whole value, and
every way of building an object keeps it.
-/

namespace MarkupActions

/-- What a variable can hold: the values of JSON, where integers and floating-point numbers are two
kinds. -/
inductive Value where
  | null
  | bool (b : Bool)
  /-- A signed integer of 64 bits. -/
  | int (i : Int64)
  /-- A floating-point number of double precision. -/
  | float (x : Float)
  | string (s : String)
  /-- A sequence of values. -/
  | array (items : List Value)
  /-- Values under names, in key order. -/
  | object (members : List (String × Value))
  deriving Inhabited

namespace Value

/-! ### Equality

Two values are equal when they are built alike and their parts are equal, where floating-point
parts compare as numbers: not-a-number differs from itself, and the two zeros are the same. An
integer is never equal to a floating-point number. -/

mutual

/-- Equality of values. Numbers of the two kinds are never equal, and not a number is not equal to
itself. -/
def beq : Value → Value → Bool
  | .null, .null => true
  | .bool a, .bool b => a == b
  | .int a, .int b => a == b
  | .float a, .float b => a == b
  | .string a, .string b => a == b
  | .array a, .array b => beqItems a b
  | .object a, .object b => beqMembers a b
  | _, _ => false

/-- Equality of sequences, item by item. -/
def beqItems : List Value → List Value → Bool
  | [], [] => true
  | a :: as, b :: bs => beq a b && beqItems as bs
  | _, _ => false

/-- Equality of members, in order. -/
def beqMembers : List (String × Value) → List (String × Value) → Bool
  | [], [] => true
  | (k, a) :: as, (l, b) :: bs => k == l && beq a b && beqMembers as bs
  | _, _ => false

end

instance : BEq Value := ⟨beq⟩

/-! ### Ordered members -/

mutual

/-- Every object inside the value lists its members in strictly ascending key order. -/
def Ordered : Value → Prop
  | .array items => OrderedItems items
  | .object members => Entries.Ascending members ∧ OrderedMembers members
  | _ => True

/-- Every item is ordered. -/
def OrderedItems : List Value → Prop
  | [] => True
  | v :: rest => Ordered v ∧ OrderedItems rest

/-- Every member is ordered. -/
def OrderedMembers : List (String × Value) → Prop
  | [] => True
  | (_, v) :: rest => Ordered v ∧ OrderedMembers rest

end

/-! ### Asking a value what it is -/

/-- Whether the value is nothing. -/
def isNull : Value → Bool
  | .null => true
  | _ => false

/-- The text of a text value. -/
def asString? : Value → Option String
  | .string s => some s
  | _ => none

/-- The name of the kind of value, as diagnostics show it. -/
def typeName : Value → String
  | .null => "null"
  | .bool _ => "boolean"
  | .int _ => "integer"
  | .float _ => "float"
  | .string _ => "string"
  | .array _ => "array"
  | .object _ => "object"

/-- The object with the members of a map. -/
def ofDict (members : Dict Value) : Value := .object members.entries

end Value

/-! ### Values of ordinary types -/

/-- Types whose members have a value. -/
class ToValue (α : Type) where
  toValue : α → Value

export ToValue (toValue)

instance : ToValue Value := ⟨id⟩
instance : ToValue Bool := ⟨.bool⟩
instance : ToValue Int64 := ⟨.int⟩
instance : ToValue Int32 := ⟨fun i => .int i.toInt64⟩
instance : ToValue Float := ⟨.float⟩
instance : ToValue String := ⟨.string⟩
instance {α : Type} [ToValue α] : ToValue (List α) := ⟨fun xs => .array (xs.map toValue)⟩

/-- An absent value is `null`. -/
instance {α : Type} [ToValue α] : ToValue (Option α) :=
  ⟨fun
    | some x => toValue x
    | none => .null⟩

end MarkupActions
