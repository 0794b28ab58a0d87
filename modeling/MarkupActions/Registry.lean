import MarkupActions.Location
import MarkupActions.Text.Quoted
import MarkupActions.Vocabulary.Basic

/-!
# MarkupActions.Registry

**The vocabularies a host knows, by namespace.** Each URI has at most one vocabulary, the first that
was registered for it; a URI must not be empty and must not hold a blank.
-/

namespace MarkupActions

/-- Vocabularies by namespace URI. -/
structure Registry where
  vocabularies : Dict Vocabulary

namespace Registry

/-- The registry without vocabularies. -/
def empty : Registry := ⟨.empty⟩

instance : Inhabited Registry := ⟨empty⟩

/-- Whether a URI can name a namespace. -/
def checkUri (uri : String) : Except HostError Unit :=
  if isNamespaceUri uri then .ok () else .error (.invalidUri uri)

/-- The vocabulary registered for a URI. -/
def get? (r : Registry) (uri : String) : Option Vocabulary := r.vocabularies.find? uri

/-- Whether there is a vocabulary for the URI. -/
def contains (r : Registry) (uri : String) : Bool := r.vocabularies.contains uri

/-- The URIs that there are vocabularies for, in ascending order. -/
def uris (r : Registry) : List String := r.vocabularies.keys

/-- How many vocabularies are registered. -/
def size (r : Registry) : Nat := r.vocabularies.size

/-- Register a vocabulary for a URI. A URI that is not well formed is refused, and so is one that
has a vocabulary: the first one stays. -/
def register (r : Registry) (uri : String) (v : Vocabulary) : Except HostError Registry :=
  match checkUri uri with
  | .error e => .error e
  | .ok _ =>
      if r.contains uri then .error (.duplicate uri) else .ok ⟨r.vocabularies.insert uri v⟩

/-- Register vocabularies in turn up to the first that fails. What was registered before it
stays. -/
def registerAll (r : Registry) : List (String × Vocabulary) → Registry × Except HostError Unit
  | [] => (r, .ok ())
  | (uri, v) :: rest =>
      match r.register uri v with
      | .ok next => next.registerAll rest
      | .error e => (r, .error e)

/-- A listing of the registered URIs. -/
def describe (r : Registry) : String :=
  "NamespaceRegistry \x7b uris: " ++ Text.quotedList r.uris ++ " \x7d"

end Registry

/-- The built-in vocabularies over the environment of the process, with the input and the prompts
they are to use. -/
def builtIn (input : InputStream) (sink : PromptSink) : List (String × Vocabulary) :=
  [(agentUri, .agent), (envUri, .env .environment), (stdinUri, .stdin input sink)]

/-- The registry of the built-in vocabularies. -/
def Registry.standard (input : InputStream) (sink : PromptSink) : Registry :=
  (Registry.empty.registerAll (builtIn input sink)).1

end MarkupActions
