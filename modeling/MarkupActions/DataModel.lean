import MarkupActions.Location
import MarkupActions.Value.Text
import MarkupActions.Json.Reader

/-!
# MarkupActions.DataModel

**Variables at dotted locations.** A location `user.name` is the member `name` of the object that
the variable `user` holds. Reading walks down the members; writing walks down the same way, makes
an object wherever nothing is bound yet, and refuses to go through anything that is not an object.

`Value.lookup?` and `Value.putAt` do this for a path of segments, so their laws are about values and
not about the data model.
-/

namespace MarkupActions

/-- Why a data model refuses an expression or an assignment. -/
inductive DataModelError where
  /-- The text is neither a literal nor a location. -/
  | unsupported (expression : String)
  | undefined (location : String)
  | invalidLocation (location : String)
  /-- The path goes through a value of that kind, which is no object. -/
  | notAnObject (segment : String) (typeName : String)
  deriving DecidableEq

/-- What an interpreter is told about the failure. -/
def DataModelError.message : DataModelError → String
  | .unsupported expression => "unsupported expression: " ++ expression
  | .undefined location => location ++ " is not defined"
  | .invalidLocation location => "invalid location: " ++ location
  | .notAnObject segment typeName =>
      "cannot assign into " ++ segment ++ ": it is a " ++ typeName

/-! ### Paths below a value -/

/-- The value at the end of a path of member names. -/
def Value.lookup? : Value → List String → Option Value
  | v, [] => some v
  | .object members, segment :: rest =>
      match Entries.find? segment members with
      | some v => v.lookup? rest
      | none => none
  | _, _ :: _ => none

/-- Put `v` at the end of a path of names below the members of an object. The path is walked on the
members themselves: an object is made wherever nothing is bound yet, and the walk is refused where
something is bound that is no object. A refusal takes nothing back. -/
def Value.putAt (v : Value) : String → List String → Entries Value →
    Entries Value × Except DataModelError Unit
  | name, [], members => (Entries.insert name v members, .ok ())
  | name, next :: rest, members =>
      match Entries.find? name members with
      | none =>
          let (inner, result) := v.putAt next rest []
          (Entries.insert name (.object inner) members, result)
      | some (.object old) =>
          let (inner, result) := v.putAt next rest old
          (Entries.replace name (.object inner) members, result)
      | some other => (members, .error (.notAnObject name other.typeName))

theorem Entries.Ascending.putAt {members : Entries Value} (h : members.Ascending) (v : Value)
    (name : String) (path : List String) : (v.putAt name path members).1.Ascending := by
  cases path with
  | nil => exact h.insert name v
  | cons next rest =>
    simp only [Value.putAt]
    split
    · exact h.insert name _
    · exact h.replace name _
    · exact h

/-! ### The data model -/

/-- The variables of a document, by their top-level names. -/
structure DataModel where
  vars : Dict Value

namespace DataModel

/-- A data model without variables. -/
def empty : DataModel := ⟨.empty⟩

instance : Inhabited DataModel := ⟨empty⟩

/-- The value at a location: its first segment names a variable, and the others lead into its
value. -/
def get? (m : DataModel) (location : String) : Option Value :=
  match Location.segments location with
  | [] => none
  | first :: rest =>
      match m.vars.find? first with
      | some v => v.lookup? rest
      | none => none

/-- Put a value at a location: the variables afterwards, and whether it went well. -/
def write (m : DataModel) (location : String) (v : Value) : DataModel × Except DataModelError Unit :=
  if isLocation location then
    match Location.segments location with
    | [] => (m, .ok ())
    | first :: rest =>
        (⟨⟨(v.putAt first rest m.vars.entries).1, m.vars.ascending.putAt v first rest⟩⟩,
          (v.putAt first rest m.vars.entries).2)
  else (m, .error (.invalidLocation location))

/-- The data model after a value has been put at a location. -/
def set (m : DataModel) (location : String) (v : Value) : Except DataModelError DataModel :=
  (m.write location v).2.map fun _ => (m.write location v).1

end DataModel

end MarkupActions
