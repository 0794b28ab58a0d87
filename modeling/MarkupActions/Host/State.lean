import MarkupActions.Vocabulary.Basic
import MarkupActions.Expression

/-!
# MarkupActions.Host.State

**Everything that a run of a document changes.** The variables, the log, the modules of the session
with what each keeps, and what the stores hold. Next to these stands the journal, the record of what
passed between the host and its modules and the world outside, in the order in which it happened:
loaders called, modules loaded, handled and unloaded, prompts shown, input consumed, entries stored.

An action is a computation on this state that may fail. A failure does not undo anything: the state
is the one that the failing step left behind.
-/

namespace MarkupActions

/-- A line of the log. -/
structure LogRecord where
  /-- Who wrote it. -/
  label : String
  /-- What it says. -/
  message : String
  deriving DecidableEq

/-- Something that passed between the host, a module registered under a URI, and the world. Modules
of one URI are told apart by the call of the loader that made them. -/
inductive Event where
  | called (uri : String) (serial : Nat)
  /-- A loader gave the session a module. -/
  | loaded (uri : String) (serial : Nat)
  /-- A module was asked to handle an element. -/
  | handled (uri : String) (serial : Nat)
  | unloaded (uri : String) (serial : Nat)
  | prompted (uri text : String)
  | consumed (uri : String) (bytes : List UInt8)
  | stored (uri key value : String)
  deriving DecidableEq

/-- What a host changes in the course of a session: what it shows to the outside, what its modules
and the stores hold, and the journal of what happened. -/
structure HostState where
  /-- The variables; none when no data model is bound. -/
  dataModel : Option DataModel
  log : Array LogRecord
  /-- The modules of the session, by the URI they are loaded for. -/
  modules : Dict Loaded
  closed : Bool
  holdings : Holdings
  /-- What happened, oldest first. -/
  journal : Array Event

namespace HostState

/-- The state before anything has happened. -/
def fresh (model : Option DataModel) (holdings : Holdings) : HostState :=
  ⟨model, #[], .empty, false, holdings, #[]⟩

/-- One more line in the log. -/
def addLog (s : HostState) (label message : String) : HostState :=
  { s with log := s.log.push ⟨label, message⟩ }

/-- One more entry in the journal. -/
def note (s : HostState) (e : Event) : HostState := { s with journal := s.journal.push e }

/-- What happened, oldest first. -/
def events (s : HostState) : List Event := s.journal.toList

/-- How often the loader registered under a URI has been called. -/
def calls (s : HostState) (uri : String) : Nat :=
  s.journal.foldl (fun n e => match e with
    | .called u _ => if u = uri then n + 1 else n
    | _ => n) 0

/-- Change what the module of a URI keeps. -/
def updateModule (s : HostState) (uri : String) (f : Module → Module) : HostState :=
  { s with modules := s.modules.modify uri fun l => { l with mod := f l.mod } }

/-- The URIs of the modules that are loaded, in ascending order. -/
def loadedUris (s : HostState) : List String := s.modules.keys

/-- The event schemas of all modules. Of two modules with a schema for one event, the one with the
greater URI counts. -/
def schemas (s : HostState) : Dict String :=
  s.modules.values.foldl (fun acc l => acc.insertAll l.mod.schemas.entries) .empty

/-- The variables; none are bound without a data model. -/
def snapshot (s : HostState) : Dict Value :=
  match s.dataModel with
  | some m => m.vars
  | none => .empty

/-- The prompts shown so far, in order. -/
def prompts (s : HostState) : List String :=
  s.journal.toList.filterMap fun
    | .prompted _ text => some text
    | _ => none

/-! ### What a change leaves alone -/

variable (s : HostState) (uri label message : String) (e : Event) (f : Module → Module)

@[simp] theorem dataModel_addLog : (s.addLog label message).dataModel = s.dataModel := rfl
@[simp] theorem modules_addLog : (s.addLog label message).modules = s.modules := rfl
@[simp] theorem closed_addLog : (s.addLog label message).closed = s.closed := rfl
@[simp] theorem holdings_addLog : (s.addLog label message).holdings = s.holdings := rfl
@[simp] theorem events_addLog : (s.addLog label message).events = s.events := rfl

@[simp] theorem dataModel_note : (s.note e).dataModel = s.dataModel := rfl
@[simp] theorem log_note : (s.note e).log = s.log := rfl
@[simp] theorem modules_note : (s.note e).modules = s.modules := rfl
@[simp] theorem closed_note : (s.note e).closed = s.closed := rfl
@[simp] theorem holdings_note : (s.note e).holdings = s.holdings := rfl
@[simp] theorem events_note : (s.note e).events = s.events ++ [e] := Array.toList_push ..

@[simp] theorem dataModel_updateModule : (s.updateModule uri f).dataModel = s.dataModel := rfl
@[simp] theorem log_updateModule : (s.updateModule uri f).log = s.log := rfl
@[simp] theorem closed_updateModule : (s.updateModule uri f).closed = s.closed := rfl
@[simp] theorem holdings_updateModule : (s.updateModule uri f).holdings = s.holdings := rfl
@[simp] theorem events_updateModule : (s.updateModule uri f).events = s.events := rfl

theorem find?_updateModule_self :
    (s.updateModule uri f).modules.find? uri =
      (s.modules.find? uri).map fun l => { l with mod := f l.mod } :=
  Dict.find?_modify_self ..

theorem find?_updateModule_of_ne {other : String} (h : other ≠ uri) :
    (s.updateModule uri f).modules.find? other = s.modules.find? other :=
  Dict.find?_modify_of_ne _ h _

theorem find?_updateModule_of_none {other : String} (h : s.modules.find? other = none) :
    (s.updateModule uri f).modules.find? other = none := by
  by_cases hne : other = uri
  · subst hne
    rw [find?_updateModule_self, h, Option.map_none]
  · rw [find?_updateModule_of_ne _ _ _ hne, h]

end HostState

/-- A computation that may change the state of a host, and always gives a result. -/
abbrev HostM := StateM HostState

/-- An action: it may fail with an action error, and keeps what it has done by then. -/
abbrev ActionM := ExceptT ActionError HostM

/-- A step of a session: it may fail with any failure of a host. -/
abbrev SessionM := ExceptT HostError HostM

/-- Write a line into the log. -/
def HostM.log (label message : String) : HostM Unit := modify (·.addLog label message)

/-- Note in the journal that something has happened. -/
def HostM.note (e : Event) : HostM Unit := modify (·.note e)

/-- What a computation did and gave. -/
def ActionM.outcome {α : Type} (x : ActionM α) : HostM (Except ActionError α) := x.run

/-- Store a value at a location of the data model. The failure to do so is worded by the data
model; without a data model there is nothing to do. -/
def HostM.assign (location : String) (v : Value) : HostM (Option (Except String Unit)) := do
  let s ← get
  match s.dataModel with
  | none => pure none
  | some m => do
      let (next, result) := m.write location v
      set { s with dataModel := some next }
      pure (some (result.mapError DataModelError.message))

/-- Evaluate an expression over the variables; no answer without a data model. -/
def HostM.evaluate (expression : String) : HostM (Option (Except String Value)) := do
  let s ← get
  pure (s.dataModel.map fun m => (m.evaluate expression).mapError DataModelError.message)

end MarkupActions
