import MarkupActions.Vocabulary.Basic

/-!
# MarkupActions.Vocabulary.StandIn

**Vocabularies for trying out a host.** A `stub` claims, fails or refuses the elements it is told
to, keeps a log of everything it is asked, and may execute an element while it is loaded for the
first time. A `plain` vocabulary takes every element and does nothing. A `broken` one cannot be
loaded.
-/

namespace MarkupActions

/-- What a stub is told to do. Names are local names in lower case. -/
structure Stub where
  uri : String
  claims : List String
  /-- Names that it handles and fails. -/
  fails : List String
  /-- Names on which it fails without handling them. -/
  errs : List String
  /-- Whether elements outside any namespace are offered to it. -/
  unqualified : Bool
  schemas : Dict String
  /-- Why it fails to unload, if it does. -/
  unloadError : Option String
  /-- An element to execute while it is loaded for the first time. -/
  onLoad : Option Element

namespace Stub

/-- The label of its log lines. -/
def label : String := "stub"

/-- A namespace and the number of the module, for the log. -/
def name (s : Stub) (serial : Nat) : String :=
  s.uri ++ " #" ++ String.ofList (Decimal.digits serial)

/-- Loading: log the call, and the first time execute the element it was given. -/
def load (s : Stub) (serial : Nat) (root : Element) : Script (Except HostError Value) := do
  Script.say label ("load " ++ s.name serial ++ " for " ++ root.tag)
  match serial, s.onLoad with
  | 1, some el =>
      match ← Script.attempt el with
      | .ok _ => Script.say label "on_load ok"
      | .error e => Script.say label ("on_load " ++ e.message)
  | _, _ => pure ()
  return .ok (.string (s.name serial))

/-- The failure of an element it was told to fail. -/
def failure (el : Element) : ActionError :=
  .of .evaluation el.localName (el.action ++ " failed")

/-- The answer to an element, by its name. -/
def answer (s : Stub) (el : Element) : Except ActionError Dispatch :=
  if s.claims.contains el.action then .ok (.handled (.ok ()))
  else if s.fails.contains el.action then .ok (.handled (.error (failure el)))
  else if s.errs.contains el.action then .error (failure el)
  else .ok .declined

/-- What is reported when there is no element to handle. -/
def missing (label : String) : ActionError :=
  (ActionError.of .invalidElement "" (label ++ ": element cannot be nil")).withData
    "namespace" (.string label)

/-- Log the element and what the module was loaded with, and give the answer that is laid down. -/
def handle (s : Stub) (memory : Value) :
    Option Element → Script (Except ActionError Dispatch × Value)
  | none => return (.error (missing label), memory)
  | some el => do
      Script.say label ("handle " ++ el.tag ++ " " ++ memory.asString?.getD "")
      return (s.answer el, memory)

/-- Log the end, and fail if that is laid down. -/
def unload (s : Stub) (memory : Value) : Script (Except ActionError Unit) := do
  Script.say label ("unload " ++ memory.asString?.getD "")
  match s.unloadError with
  | some reason => return .error (.of .externalEffect label reason)
  | none => return .ok ()

/-- The vocabulary that a stub is. -/
def vocabulary (s : Stub) : Vocabulary := .scripted
  { uri := s.uri
    acceptsUnqualified := s.unqualified
    schemas := fun _ => s.schemas
    load := s.load
    handle := s.handle
    unload := s.unload }

end Stub

/-- A vocabulary that handles every element without doing anything. -/
def Vocabulary.plain (uri : String) : Vocabulary := .scripted
  { uri := uri
    acceptsUnqualified := false
    schemas := fun _ => .empty
    load := fun _ _ => .done (.ok .null)
    handle := fun memory el => .done <| match el with
      | some _ => (.ok (.handled (.ok ())), memory)
      | none => (.error (Stub.missing "plain"), memory)
    unload := fun _ => .done (.ok ()) }

/-- A vocabulary of which the loader fails, for a reason of which the cause may be known. -/
def Vocabulary.broken (uri message : String) (cause : Option String) : Vocabulary := .scripted
  { uri := uri
    acceptsUnqualified := false
    schemas := fun _ => .empty
    load := fun _ _ => .done (.error (.loadFailed uri message (cause.toList.map .text)))
    handle := fun memory _ => .done (.ok .declined, memory)
    unload := fun _ => .done (.ok ()) }

end MarkupActions
