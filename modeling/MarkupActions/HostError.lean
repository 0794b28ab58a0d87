import MarkupActions.ActionError

/-!
# MarkupActions.HostError

**How registering, loading, running and reading fail.** A failed action passes through unchanged:
it keeps its own message and its own causes.
-/

namespace MarkupActions

/-- A failure outside a single action. -/
inductive HostError where
  | invalidUri (uri : String)
  /-- A vocabulary is registered under the URI already. -/
  | duplicate (uri : String)
  | unknown (uri : String)
  | loadFailed (uri message : String) (causes : List Cause)
  | closed
  | action (e : ActionError)
  /-- The text is no well-formed document. -/
  | malformed
  | io (reason : String)

namespace HostError

/-- The wording under which a failure is reported. -/
def message : HostError → String
  | .invalidUri uri => "Invalid namespace URI: '" ++ uri ++ "'"
  | .duplicate uri => "Namespace '" ++ uri ++ "' is already registered"
  | .unknown uri => "No loader registered for namespace '" ++ uri ++ "'"
  | .loadFailed uri message _ => "Failed to load namespace '" ++ uri ++ "': " ++ message
  | .closed => "Namespace session has been unloaded"
  | .action e => e.message
  | .malformed => "XML parsing failed: the document is not well formed"
  | .io reason => "IO error: " ++ reason

/-- What stands behind a failure, nearest first. -/
def causes : HostError → List Cause
  | .loadFailed _ _ causes => causes
  | .action e => e.causes
  | .io reason => [.text reason]
  | _ => []

/-- The failure of executing an element that could not be routed. A failed action stays what it is;
any other failure becomes a load error of the element, with the failure and its causes behind it. -/
def forElement (e : HostError) (tag localName uri : String) : ActionError :=
  match e with
  | .action inner => inner
  | other =>
      { ActionError.of .load localName
          ("Failed to load namespace for " ++ tag ++ ": " ++ other.message) with
        data := (Dict.empty.insert "element" (.string localName)).insert "namespace" (.string uri)
        causes := .text other.message :: other.causes }

end HostError

end MarkupActions
