import MarkupActions.Vocabulary.Handling

/-!
# MarkupActions.Vocabulary.Env

**Entries of a store.** `get` copies the value of a key to a location; an unset key gives the
default if there is one, with a log line, and an empty text otherwise. `set` writes one entry. Both
need a data model, and everything is resolved before anything is read or written.
-/

namespace MarkupActions.Env

/-- The name of the entry, given as it is or by an expression. -/
def nameParameter : Parameter := ((Parameter.required "name").orExpression "nameexpr").trimmed

/-- Where the value goes. -/
def locationParameter : Parameter := (Parameter.required "location").trimmed

/-- What an unset key gives. -/
def defaultParameter : Parameter := Parameter.optional "default"

/-- What is written. -/
def valueParameter : Parameter := (Parameter.required "value").xorExpression "expr"

/-- What the log says about a default. -/
def defaultMessage (name value : String) : String :=
  name ++ " is not set, using default '" ++ value ++ "'"

/-- What `get` asks for. -/
structure GetRequest where
  name : String
  /-- Where the value goes. -/
  location : String
  /-- What an unset key gives. -/
  default : Option String

/-- Read what `get` asks for. The name comes first, so that later failures can report it. -/
def getRequest (el : Element) (model : Option DataModel) : Except ActionError GetRequest := do
  let r := el.resolver model "env:get"
  let _ ← r.evaluatorOrFail
  let name ← r.textD nameParameter
  let location ← (r.textD locationParameter).mapError (·.withData "name" (.string name))
  let default ← r.text? defaultParameter
  return ⟨name, location, default⟩

/-- The failure to store what was found. -/
def getFailure (q : GetRequest) : ActionError :=
  ((ActionError.of .assignment "get" "Failed to store environment variable").withData
    "name" (.string q.name)).withData "location" (.string q.location)

/-- The text that a request finds. -/
def lookup (store : Store) (q : GetRequest) : HostM String := do
  match store.get? (← get).holdings q.name, q.default with
  | some value, _ => pure value
  | none, some value => do
      HostM.log "env" (defaultMessage q.name value)
      pure value
  | none, none => pure ""

/-- Copy an entry to a location. -/
def getEntry (store : Store) (el : Element) : ActionM Unit := do
  let q ← .ofExcept (getRequest el (← getThe HostState).dataModel)
  let value ← lookup store q
  .assign q.location (.string value) (getFailure q)

/-- What `set` is asked for: the key and the value. -/
structure SetRequest where
  name : String
  /-- What is written. -/
  value : String

/-- Read what `set` asks for. -/
def setRequest (el : Element) (model : Option DataModel) : Except ActionError SetRequest := do
  let r := el.resolver model "env:set"
  let _ ← r.evaluatorOrFail
  let name ← r.textD nameParameter
  let value ← (r.textD valueParameter).mapError (·.withData "name" (.string name))
  return ⟨name, value⟩

/-- What is reported when the store refuses the value. -/
def setFailure (q : SetRequest) : ActionError :=
  ((ActionError.of .externalEffect "set" "Failed to set environment variable").withData
    "name" (.string q.name)).withData "value" (.string q.value)

/-- Handle `set`: write the entry, and note it. -/
def setEntry (uri : String) (store : Store) (el : Element) : ActionM Unit := do
  let s ← getThe HostState
  let q ← .ofExcept (setRequest el s.dataModel)
  match store.set s.holdings q.name q.value with
  | .ok holdings =>
      modify fun s => { s with holdings := holdings }.note (.stored uri q.name q.value)
  | .error e => throw ((setFailure q).becauseText e.message)

/-- What a module of this vocabulary does with an element. -/
def react (uri : String) (store : Store) : Option Element → HostM Reaction
  | none => pure (.missingElement "env")
  | some el =>
      if el.action = "get" then Reaction.ofAction (getEntry store el)
      else if el.action = "set" then Reaction.ofAction (setEntry uri store el)
      else pure .declined

end MarkupActions.Env
