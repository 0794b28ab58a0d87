import MarkupActions.HostError
import MarkupActions.InputStream
import MarkupActions.Store
import MarkupActions.Vocabulary.Script

/-!
# MarkupActions.Vocabulary.Basic

**Vocabularies, and the modules they are loaded into.** A vocabulary owns a namespace and handles
the elements in it. Loading it makes a module: what it keeps between one element and the next.

Three vocabularies are built in. Any other is given by scripts for loading, handling and
unloading; between calls it remembers one value.
-/

namespace MarkupActions

/-- What a vocabulary does with an element. -/
inductive Dispatch where
  /-- The element is not one of its own. -/
  | declined
  /-- The element is its own, and this is how the action went. -/
  | handled (result : Except ActionError Unit)

/-- Where prompts go, and how writing there fails. -/
structure PromptSink where
  /-- Why a text is refused, if it is. An empty text is never refused. -/
  writeFailure : Option String
  /-- Why a text that was taken cannot be passed on, if so. -/
  flushFailure : Option String

/-- Where every prompt is shown. -/
def PromptSink.working : PromptSink := ⟨none, none⟩

/-- A vocabulary given by scripts. -/
structure Scripted where
  /-- The namespace it says it owns. -/
  uri : String
  /-- Whether elements outside any namespace are offered to it. -/
  acceptsUnqualified : Bool
  /-- The event schemas it has recorded, by what it remembers. -/
  schemas : Value → Dict String
  /-- Make a module. It is told how often it has been called, this call included, and the root of
  the document; what it returns is what the module remembers at first. -/
  load : Nat → Element → Script (Except HostError Value)
  /-- Handle an element, or the absence of one. -/
  handle : Value → Option Element → Script (Except ActionError Dispatch × Value)
  /-- Release the module. -/
  unload : Value → Script (Except ActionError Unit)

/-- What is registered for a namespace: how its modules are made, and what they do. -/
inductive Vocabulary where
  /-- Document roots that declare aliases, record event schemas and execute their children. -/
  | agent
  /-- Entries of a store. -/
  | env (store : Store)
  /-- Lines of an input, which every module reads from its beginning, and prompts. -/
  | stdin (input : InputStream) (sink : PromptSink)
  | scripted (s : Scripted)

/-- A loaded vocabulary. -/
inductive Module where
  /-- The event schemas recorded so far. -/
  | agent (schemas : Dict String)
  /-- The store it works on. -/
  | env (store : Store)
  /-- The input still to be read, and where prompts go. -/
  | stdin (input : InputStream) (sink : PromptSink)
  /-- What a scripted module remembers. -/
  | scripted (s : Scripted) (memory : Value)

/-- The namespace of document roots. -/
def agentUri : String := "urn:scxml-ext:agent"

/-- The namespace of the entries of a store. -/
def envUri : String := "urn:scxml-ext:env"

/-- The namespace of the lines of the standard input. -/
def stdinUri : String := "urn:scxml-ext:stdin"

namespace Module

/-- The namespace a module says it owns, wherever its vocabulary is registered. -/
def uri : Module → String
  | .agent _ => agentUri
  | .env _ => envUri
  | .stdin _ _ => stdinUri
  | .scripted s _ => s.uri

/-- Whether elements outside any namespace are offered to the module. -/
def acceptsUnqualified : Module → Bool
  | .agent _ => true
  | .scripted s _ => s.acceptsUnqualified
  | _ => false

/-- The event schemas the module has recorded, by event. -/
def schemas : Module → Dict String
  | .agent schemas => schemas
  | .scripted s memory => s.schemas memory
  | _ => .empty

end Module

/-- A module in a session: the result of some call of its loader. -/
structure Loaded where
  /-- Which call of the loader it was, counted from one. -/
  serial : Nat
  mod : Module

end MarkupActions
