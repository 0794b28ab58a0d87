import MarkupActions.Vocabulary.Handling

/-!
# MarkupActions.Vocabulary.Agent

**Roots of documents.** An `agent` element declares its data model and the aliases of namespaces in
the log, notes the event schemas of all transitions inside it, and then has its children executed.
A `transition` met later is noted again and left to default processing.

Event schemas are texts: they are kept by event, the last one for an event counts, and nothing ever
reads what they say.
-/

namespace MarkupActions

/-- What the name of an attribute that declares an alias begins with. -/
def aliasMark : List Char := ['u', 's', 'e', ':']

/-- The alias prefix that an attribute's name declares. -/
def aliasOf? (written : String) : Option String :=
  if aliasMark.isPrefixOf written.toList then
    let name := String.ofList (written.toList.drop aliasMark.length)
    if isAliasPrefix name then some name else none
  else none

/-- The namespace aliases that an element declares, by prefix. -/
def Element.aliases (el : Element) : Dict String :=
  Dict.ofList (el.attributes.filterMap fun a => (aliasOf? a.1).map fun name => (name, a.2))

namespace Agent

/-- The attribute with the schema of a transition's event. -/
def schemaAttribute : String := "event:schema"

/-- Keep the schema of an event. -/
def record (event schema : String) : Module → Module
  | .agent schemas => .agent (schemas.insert event schema)
  | m => m

/-- Whether an element is a transition, in letters of any case. -/
def isTransition (el : Element) : Bool :=
  Text.eqIgnoringAsciiCase el.localName "transition"

/-- Note the schema of one element if it is a transition with an event and a schema. -/
def scanOne (uri : String) (el : Element) : HostM Unit := do
  if isTransition el then
    let schema := el.attributeD schemaAttribute
    let event := el.attributeD "event"
    if schema ≠ "" ∧ event ≠ "" then
      HostM.log "agent" ("Event schema for '" ++ event ++ "': " ++ schema)
      modify (·.updateModule uri (record event schema))

mutual

/-- Note the schemas of an element and of everything below it. -/
def scan (uri : String) : Element → HostM Unit
  | ⟨tag, ns, attributes, children⟩ => do
      scanOne uri ⟨tag, ns, attributes, children⟩
      scanAll uri children

/-- Note the schemas of a list of elements and of everything below them. -/
def scanAll (uri : String) : List Element → HostM Unit
  | [] => pure ()
  | c :: rest => do
      scan uri c
      scanAll uri rest

end

/-- Write the aliases to the log, in the order of their prefixes. -/
def logAliases : List (String × String) → HostM Unit
  | [] => pure ()
  | (name, uri) :: rest => do
      HostM.log "agent" ("Namespace " ++ name ++ ": " ++ uri)
      logAliases rest

/-- What comes before the children: the log lines and the schemas. -/
def announce (uri : String) (el : Element) : HostM Unit := do
  let datamodel := el.attributeD "datamodel"
  if datamodel ≠ "" then HostM.log "agent" ("Datamodel: " ++ datamodel)
  logAliases el.aliases.entries
  scan uri el

/-- The failure of an agent because of a child's. -/
def childFailure (el child : Element) (e : ActionError) : ActionError :=
  (((ActionError.of .delegatedChild "agent"
      ("Failed to execute agent child element: " ++ e.message)).withData
    "child" (.string child.tag)).withData
    "datamodel" (.string (el.attributeD "datamodel"))).because e

/-- Note the schema of a transition that is met during execution. -/
def noteTransition (uri : String) (el : Element) : HostM Unit := do
  let schema := el.attributeD schemaAttribute
  if schema ≠ "" then
    HostM.log "agent" ("Transition event schema: " ++ schema)
    let event := el.attributeD "event"
    if event ≠ "" then modify (·.updateModule uri (record event schema))

/-- What a module of this vocabulary does with an element. -/
def react (uri : String) : Option Element → HostM Reaction
  | none => pure (.missingElement "agent")
  | some el => do
      if el.action = "agent" then
        announce uri el
        pure (.children (childFailure el))
      else if el.action = "transition" then
        noteTransition uri el
        pure .declined
      else pure .declined

end Agent

end MarkupActions
