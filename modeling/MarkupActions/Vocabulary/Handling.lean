import MarkupActions.Host.State
import MarkupActions.Resolver

/-!
# MarkupActions.Vocabulary.Handling

**What modules share when they handle an element.** A module looks at the element's name without
prefix, in lower case, and answers with a reaction. Besides declining the element and having handled
it, a module may leave it to the host to execute the element's children on its behalf; the host then
executes them in document order, and the module says how the failure of a child reads.
-/

namespace MarkupActions

/-- A module's answer to an element. -/
inductive Reaction where
  /-- The element is not one of its own. -/
  | declined
  /-- The element is its own, and this is how the action went. -/
  | handled (result : Except ActionError Unit)
  /-- The element is its own, and its children are to be executed in order; the failure of a child
  is wrapped by the function. -/
  | children (wrap : Element → ActionError → ActionError)
  /-- There was nothing to handle. -/
  | failed (e : ActionError)

/-- The reaction to a missing element. -/
def Reaction.missingElement (label : String) : Reaction :=
  .failed ((ActionError.of .invalidElement "" (label ++ ": element cannot be nil")).withData
    "namespace" (.string label))

/-- The reaction that an action is. -/
def Reaction.ofAction (x : ActionM Unit) : HostM Reaction := do
  return .handled (← x.outcome)

/-- The text of a parameter, out of a data model that works in no monad. -/
def Resolver.text? (r : Resolver Id) (p : Parameter) : Except ActionError (Option String) :=
  r.resolve p

/-- The text of a parameter, empty when it is absent. -/
def Resolver.textD (r : Resolver Id) (p : Parameter) : Except ActionError String :=
  (r.text? p).map (·.getD "")

/-- Go on with what a request resolved to. -/
def ActionM.ofExcept {α : Type} : Except ActionError α → ActionM α
  | .ok a => pure a
  | .error e => throw e

/-- Store a value, and word the failure as an error of the action. -/
def ActionM.assign (location : String) (v : Value) (failure : ActionError) : ActionM Unit := do
  match ← HostM.assign location v with
  | some (.error reason) => throw (failure.becauseText reason)
  | _ => pure ()

end MarkupActions
