import MarkupActions.ActionError
import MarkupActions.Element

/-!
# MarkupActions.Vocabulary.Script

**What a module may do to its host, as data.** A script is a sequence of requests: write a log
line, evaluate an expression, store a value, execute an element. Each request but the first kind is
answered, and what comes next depends on the answer. A script does nothing by itself; the host that
runs it decides what its requests mean.
-/

namespace MarkupActions

/-- A sequence of requests that ends in a result. -/
inductive Script (α : Type) : Type where
  | done (result : α)
  | log (label message : String) (next : Script α)
  /-- Evaluate an expression; no answer without a data model. -/
  | evaluate (expression : String) (next : Option (Except String Value) → Script α)
  /-- Store a value at a location; no answer without a data model. -/
  | assign (location : String) (value : Value) (next : Option (Except String Unit) → Script α)
  | execute (element : Element) (next : Except ActionError Unit → Script α)

namespace Script

variable {α β : Type}

/-- Go on with another script. -/
def bind : Script α → (α → Script β) → Script β
  | .done a, f => f a
  | .log label message next, f => .log label message (next.bind f)
  | .evaluate expression next, f => .evaluate expression fun answer => (next answer).bind f
  | .assign location value next, f => .assign location value fun answer => (next answer).bind f
  | .execute element next, f => .execute element fun answer => (next answer).bind f

instance : Monad Script where
  pure := .done
  bind := Script.bind

/-- Write a line into the log, and that is all. -/
def say (label message : String) : Script Unit := .log label message (.done ())

/-- Execute one element and learn how it went. -/
def attempt (element : Element) : Script (Except ActionError Unit) := .execute element .done

end Script

end MarkupActions
