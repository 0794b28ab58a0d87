import MarkupActions.Host.Session

/-!
# MarkupActions.Host

**Running a document.** An element is given to the session first. What no module takes gets default
processing: `assign` stores a value, `log` writes a log line, `transition` does nothing, and every
other element has its children executed in document order. The first failure ends the execution.

Execution follows the shape of the tree. Only a module that asks for an element of its own choice
leaves that shape; `executeAt` allows this to a given depth, beyond which such an element fails.
The three built-in vocabularies never ask.
-/

namespace MarkupActions

/-! ### Default processing -/

/-- Where `assign` stores. -/
def assignLocation : Parameter := (Parameter.required "location").trimmed

/-- Under what label `log` writes. -/
def logLabel : Parameter := Parameter.optional "label"

/-- The value of an element's `expr` attribute, none when it is absent or empty. -/
def Resolver.exprValue? (r : Resolver Id) : Except ActionError (Option Value) :=
  match r.literal? "expr" false with
  | none => .ok none
  | some text => (r.evaluate "expr" text : Except ActionError Value).map some

/-- What `assign` is asked for: where, and which value. The absence of an expression stands for
`null`, and only then is it the missing data model itself that fails. -/
def assignRequest (el : Element) (model : Option DataModel) :
    Except ActionError (String × Value) := do
  let r := el.resolver model "assign"
  let location ← r.textD assignLocation
  let value ← r.exprValue?
  -- Without an expression nothing has asked for the data model yet.
  let _ ← r.evaluatorOrFail
  return (location, value.getD .null)

/-- Default processing of `assign`: evaluate the expression and write its value. -/
def assignElement (el : Element) : ActionM Unit := do
  let (location, value) ← .ofExcept (assignRequest el (← getThe HostState).dataModel)
  .assign location value
    ((ActionError.of .assignment "assign" ("Failed to assign to " ++ location)).withData
      "location" (.string location))

/-- What `log` is asked for: the label and the message. -/
def logRequest (el : Element) (model : Option DataModel) :
    Except ActionError (String × String) := do
  let r := el.resolver model "log"
  let label ← r.textD logLabel
  let value ← r.exprValue?
  return (label, value.elim "" fun v => v.attributeText?.getD "null")

/-- Default processing of `log`: one line, with the value of the expression if there is one. -/
def logElement (el : Element) : ActionM Unit := do
  let (label, message) ← .ofExcept (logRequest el (← getThe HostState).dataModel)
  HostM.log label message

namespace Host

variable (host : Host) (reenter : Reenter)

/-- How the failure of a child reads when the children are executed by default. -/
def passOn (_ : Element) (e : ActionError) : ActionError := e

mutual

/-- Execute an element. The session is asked first; what it declines gets default processing, and
children are executed on behalf of the element or by default. A module that executes elements of its
own choice is given `reenter` for that. -/
def executeWith : Element → ActionM Unit
  | ⟨tag, ns, attributes, children⟩ => do
      let el : Element := ⟨tag, ns, attributes, children⟩
      match ← (host.reaction reenter el).run with
      | .error e => throw (e.forElement tag el.localName (ns.getD ""))
      | .ok (.failed e) => throw e
      | .ok (.handled result) => .ofExcept result
      | .ok (.children wrap) => executeEach wrap children
      | .ok .declined =>
          if el.action = "assign" then assignElement el
          else if el.action = "log" then logElement el
          else if el.action = "transition" then pure ()
          else executeEach passOn children

/-- Execute elements in turn up to the first that fails, and wrap its failure. -/
def executeEach (wrap : Element → ActionError → ActionError) : List Element → ActionM Unit
  | [] => pure ()
  | c :: rest => do
      (executeWith c).adapt (wrap c)
      executeEach wrap rest

end

/-- The failure of an element that is asked for too deep inside other executions. -/
def tooDeep (el : Element) : ActionError :=
  .of .load el.localName ("Executions are nested too deeply at " ++ el.tag)

/-- Execute an element for a module, with a limit on how deep such executions may be nested. -/
def executeAt : Nat → Element → ActionM Unit
  | 0, el => throw (tooDeep el)
  | depth + 1, el => host.executeWith (executeAt depth) el

/-- How elements are executed for modules. -/
def onBehalf : Reenter := host.executeAt host.nesting

/-- Execute an element; modules that execute others do so in the same host. -/
def execute (el : Element) : ActionM Unit := host.executeWith host.onBehalf el

/-- A host for a document. Loaders that execute an element do so once each, so as many levels as
there are vocabularies are enough for them. -/
def ofDocument (registry : Registry) (document : Document) : Host :=
  ⟨registry, document, registry.size⟩

/-! ### The steps of a run -/

/-- Load what the document uses, then execute its root. -/
def run : SessionM Unit := do
  host.preload host.onBehalf
  (host.execute host.document.root).adapt .action

/-- End the session: every module is unloaded, and nothing can be loaded afterwards. -/
def teardown : SessionM Unit := (unload host.onBehalf).adapt .action

/-- Carry out what a reaction leaves to the host. -/
def settle (el : Element) : Reaction → SessionM Dispatch
  | .declined => return .declined
  | .handled result => return .handled result
  | .failed e => throw (.action e)
  | .children wrap => do
      return .handled (← (host.executeEach host.onBehalf wrap el.children).outcome)

/-- Give an element to the module of its namespace, and to no other. Elements outside any namespace
are declined, also by a session that has been torn down. -/
def dispatch (el : Element) : SessionM Dispatch := do
  match el.namespaceUri with
  | none => return .declined
  | some uri => host.settle el (← host.route host.onBehalf uri el)

/-- Offer an element to the modules that accept elements outside any namespace. -/
def offer (el : Element) : SessionM Dispatch := do
  host.settle el (← offerAround host.onBehalf el)

/-- Give an element, or the absence of one, to the module of some namespace; none without a
vocabulary. -/
def handle (uri : String) (el : Option Element) : SessionM (Option (Except ActionError Dispatch)) :=
  do
  match ← host.module? host.onBehalf uri with
  | none => return none
  | some l =>
      match ← ask host.onBehalf uri l el with
      | .failed e => return some (.error e)
      | reaction => return some (.ok (← host.settle (el.getD default) reaction))

/-- Load a module outside the session and release it again; the results of loading and releasing,
with the namespace the module says it owns. -/
def tryLoad (uri : String) : SessionM (String × Except ActionError Unit) := do
  let l ← host.load host.onBehalf uri
  return (l.mod.uri, ← (l.mod.unload host.onBehalf).outcome)

/-- How a session is shown in diagnostics. -/
def describe (s : HostState) : String :=
  "NamespaceSession \x7b registry: " ++ host.registry.describe ++ ", loaded: "
    ++ Text.quotedList s.loadedUris ++ ", closed: " ++ (if s.closed then "true" else "false")
    ++ " \x7d"

end Host

end MarkupActions
