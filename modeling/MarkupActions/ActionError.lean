import MarkupActions.Value

/-!
# MarkupActions.ActionError

**How an action fails.** A failed action reports what kind of failure it is, the event that the
surrounding state machine should raise, a message, and diagnostic data. Behind it stand its causes,
nearest first: texts of failures from outside, and the reports of actions whose failure was passed
on. Wrapping an error puts its report in front of its own causes, so the chain never loses a link.
-/

namespace MarkupActions

/-- The kinds of failures, by what went wrong. -/
inductive ErrorKind where
  /-- No data model is bound to evaluate or store with. -/
  | missingDataModel
  /-- A required parameter came to nothing. -/
  | missingParameter
  /-- Two ways to give a parameter were used that exclude each other. -/
  | conflictingParameters
  /-- The data model refused an expression. -/
  | evaluation
  /-- A store or a stream reported an error. -/
  | externalEffect
  /-- A child that was executed on behalf of its parent failed. -/
  | delegatedChild
  /-- The data model refused an assignment. -/
  | assignment
  /-- There was no element to handle. -/
  | invalidElement
  /-- A module could not be loaded. -/
  | load
  deriving DecidableEq

/-- The name of a kind, as diagnostics show it. -/
def ErrorKind.name : ErrorKind → String
  | .missingDataModel => "missing_data_model"
  | .missingParameter => "missing_parameter"
  | .conflictingParameters => "conflicting_parameters"
  | .evaluation => "evaluation"
  | .externalEffect => "external_effect"
  | .delegatedChild => "delegated_child"
  | .assignment => "assignment"
  | .invalidElement => "invalid_element"
  | .load => "load"

/-- The event that every failed action raises. -/
def executionErrorEvent : String := "error.execution"

/-- What is known about one failure. -/
structure Report where
  kind : ErrorKind
  event : String
  message : String
  /-- The element and the parameters concerned; for diagnosis only. -/
  data : Dict Value

/-- A link in the chain of causes. -/
inductive Cause where
  /-- A failure of which only the wording is known. -/
  | text (s : String)
  | report (r : Report)

/-- The text under which a cause is listed: its own wording, or the message of its report. -/
def Cause.message : Cause → String
  | .text s => s
  | .report r => r.message

/-- A failed action: its own report, and the chain of what led to it. -/
structure ActionError extends Report where
  /-- What stands behind it, nearest first. -/
  causes : List Cause

namespace ActionError

/-- A failure of the named element, without causes. -/
def of (kind : ErrorKind) (element message : String) : ActionError where
  kind := kind
  event := executionErrorEvent
  message := message
  data := Dict.empty.insert "element" (.string element)
  causes := []

/-- The failure of an action that found no data model. -/
def missingDataModel (vocabulary element : String) : ActionError :=
  of .missingDataModel element ("No data model available for " ++ vocabulary)

/-- Add a value to the diagnostic data. -/
def withData (e : ActionError) (key : String) (value : Value) : ActionError :=
  { e with data := e.data.insert key value }

/-- Name the failure behind this one by its wording. -/
def becauseText (e : ActionError) (text : String) : ActionError := { e with causes := [.text text] }

/-- Put another failure, with everything behind it, behind this one. -/
def because (e cause : ActionError) : ActionError :=
  { e with causes := .report cause.toReport :: cause.causes }

/-- The text under a key of the data, if there is one and it is a text. -/
def dataString? (e : ActionError) (key : String) : Option String :=
  (e.data.find? key).bind Value.asString?

/-- The failed action directly behind this one. -/
def inner? (e : ActionError) : Option ActionError :=
  match e.causes with
  | .report r :: rest => some ⟨r, rest⟩
  | _ => none

@[simp] theorem inner?_because (e cause : ActionError) : (e.because cause).inner? = some cause :=
  rfl

end ActionError

end MarkupActions
