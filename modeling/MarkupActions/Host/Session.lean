import MarkupActions.Registry
import MarkupActions.Vocabulary.Agent
import MarkupActions.Vocabulary.Env
import MarkupActions.Vocabulary.Stdin

/-!
# MarkupActions.Host.Session

**The modules of one run.** A session loads a vocabulary the first time its namespace is used,
keeps the module until it is torn down, and asks it about the elements of that namespace. Elements
outside any namespace are offered to the loaded modules that accept them, in the order of their
URIs, until one takes the element.

Loading and handling may execute elements in turn. How an element is executed is a parameter here
(`Reenter`): the session does not know, and `MarkupActions.Host` supplies it. While a loader runs,
its namespace has no module yet, so it may be loaded a second time from inside; the module that is
loaded first stays, and the other is dropped.
-/

namespace MarkupActions

/-- What a run needs to know and never changes. -/
structure Host where
  registry : Registry
  document : Document
  /-- How deep executions may be nested that modules ask for. -/
  nesting : Nat

/-- How an element is executed when a module asks for it. -/
abbrev Reenter := Element → ActionM Unit

/-- What the requests of a script mean to a host. -/
def Script.run {α : Type} (reenter : Reenter) : Script α → HostM α
  | .done a => pure a
  | .log label message next => do
      HostM.log label message
      next.run reenter
  | .evaluate expression next => do (next (← HostM.evaluate expression)).run reenter
  | .assign location v next => do (next (← HostM.assign location v)).run reenter
  | .execute el next => do (next (← (reenter el).outcome)).run reenter

/-! ### Modules at work -/

/-- Make a module of a vocabulary. `serial` says which call of the loader it is. -/
def Vocabulary.load (reenter : Reenter) (serial : Nat) (root : Element) :
    Vocabulary → SessionM Module
  | .agent => pure (.agent .empty)
  | .env store => pure (.env store)
  | .stdin input sink => pure (.stdin input sink)
  | .scripted s => .mk do return (← (s.load serial root).run reenter).map (.scripted s)

/-- What a module does with an element, or with the absence of one. -/
def Module.react (reenter : Reenter) (uri : String) (el : Option Element) :
    Module → HostM Reaction
  | .agent _ => Agent.react uri el
  | .env store => Env.react uri store el
  | .stdin input sink => Stdin.react uri input sink el
  | .scripted s memory => do
      let (answer, memory) ← (s.handle memory el).run reenter
      modify (·.updateModule uri fun _ => .scripted s memory)
      match answer with
      | .ok .declined => return .declined
      | .ok (.handled result) => return .handled result
      | .error e => return .failed e

/-- What a module does at the end of its session. -/
def Module.unload (reenter : Reenter) : Module → ActionM Unit
  | .stdin _ sink => .ofExcept (Stdin.release sink)
  | .scripted s memory => .mk ((s.unload memory).run reenter)
  | _ => pure ()

/-! ### Loading -/

/-- Keep the module that a loader returned. The loader may have executed an element of this very
namespace; the module loaded for that element stays. -/
def HostState.receive (s : HostState) (uri : String) (l : Loaded) : HostState :=
  let received := s.note (.loaded uri l.serial)
  match s.modules.find? uri with
  | some _ => received
  | none => { received with modules := s.modules.insert uri l }

namespace HostState

variable {s : HostState} {uri other : String} {l : Loaded}

@[simp] theorem closed_receive : (s.receive uri l).closed = s.closed := by
  simp only [receive]
  split <;> rfl

@[simp] theorem dataModel_receive : (s.receive uri l).dataModel = s.dataModel := by
  simp only [receive]
  split <;> rfl

@[simp] theorem log_receive : (s.receive uri l).log = s.log := by
  simp only [receive]
  split <;> rfl

@[simp] theorem holdings_receive : (s.receive uri l).holdings = s.holdings := by
  simp only [receive]
  split <;> rfl

@[simp] theorem events_receive :
    (s.receive uri l).events = s.events ++ [.loaded uri l.serial] := by
  simp only [receive]
  split
  · exact events_note ..
  · exact events_note s (.loaded uri l.serial)

theorem find?_receive_self :
    (s.receive uri l).modules.find? uri = some ((s.modules.find? uri).getD l) := by
  simp only [receive]
  split
  · next first h => simp [h]
  · next h => simp [h]

theorem find?_receive_of_ne (h : other ≠ uri) :
    (s.receive uri l).modules.find? other = s.modules.find? other := by
  simp only [receive]
  split
  · rfl
  · exact Dict.find?_insert_of_ne _ h l

theorem find?_receive_of_some {first : Loaded} (h : s.modules.find? other = some first) :
    (s.receive uri l).modules.find? other = some first := by
  by_cases hne : other = uri
  · subst hne
    rw [find?_receive_self, h, Option.getD_some]
  · rw [find?_receive_of_ne hne, h]

end HostState

namespace Host

variable (host : Host) (reenter : Reenter)

/-- Call the loader of a namespace. -/
def load (uri : String) : SessionM Loaded := do
  match host.registry.get? uri with
  | none => throw (.unknown uri)
  | some v => do
      let serial := (← getThe HostState).calls uri + 1
      HostM.note (.called uri serial)
      return ⟨serial, ← v.load reenter serial host.document.root⟩

/-- Fail once the session has been torn down. -/
def ensureOpen : SessionM Unit := do
  if (← getThe HostState).closed then throw .closed

/-- The module of a namespace, loaded if it is not there yet; none without a vocabulary. -/
def module? (uri : String) : SessionM (Option Loaded) := do
  ensureOpen
  match (← getThe HostState).modules.find? uri with
  | some l => return some l
  | none =>
      if host.registry.contains uri then do
        -- The loader may have loaded the namespace itself by executing an element of it.
        let l ← host.load reenter uri
        modify (·.receive uri l)
        return (← getThe HostState).modules.find? uri
      else return none

/-- Load the modules of some namespaces in turn, up to the first failure. -/
def loadAll : List String → SessionM Unit
  | [] => pure ()
  | uri :: rest => do
      let _ ← host.module? reenter uri
      loadAll rest

/-- Keep a list ascending and free of repetitions. -/
def insertSorted (s : String) : List String → List String
  | [] => [s]
  | t :: rest =>
      if s < t then s :: t :: rest else if s = t then t :: rest else t :: insertSorted s rest

/-- The registered namespaces that the document uses, ascending. -/
def usedUris : List String :=
  (host.document.root.descendants.filterMap (·.namespaceUri)).filter host.registry.contains
    |>.foldr insertSorted []

/-- Load every namespace that the document uses. -/
def preload : SessionM Unit := host.loadAll reenter host.usedUris

/-! ### Asking modules -/

/-- Ask a module to handle an element, or no element, and note that it was asked. -/
def ask (uri : String) (l : Loaded) (el : Option Element) : HostM Reaction := do
  HostM.note (.handled uri l.serial)
  l.mod.react reenter uri el

/-- What the module of an element's namespace does with it. Without a module the element is
declined. -/
def route (uri : String) (el : Element) : SessionM Reaction := do
  match ← host.module? reenter uri with
  | none => return .declined
  | some l =>
      match ← ask reenter uri l (some el) with
      | .failed e => throw (.action e)
      | reaction => return reaction

/-- Offer an element to the modules of a list of namespaces until one does not decline it. -/
def offerTo (el : Element) : List String → SessionM Reaction
  | [] => return .declined
  | uri :: rest => do
      match (← getThe HostState).modules.find? uri with
      | none => offerTo el rest
      | some l =>
          match ← ask reenter uri l (some el) with
          | .failed e => throw (.action e)
          | .declined => offerTo el rest
          | reaction => return reaction

/-- The namespaces of the loaded modules that accept elements outside any namespace, ascending. -/
def accepting (s : HostState) : List String :=
  (s.modules.entries.filter fun entry => entry.2.mod.acceptsUnqualified).map Prod.fst

/-- Offer an element to the modules that accept elements outside any namespace. -/
def offerAround (el : Element) : SessionM Reaction := do
  ensureOpen
  offerTo reenter el (accepting (← getThe HostState))

/-- What the session does with an element: its own namespace decides, or else the modules that
accept elements outside any. -/
def reaction (el : Element) : SessionM Reaction :=
  match el.namespaceUri with
  | some uri => host.route reenter uri el
  | none => offerAround reenter el

/-! ### Teardown -/

/-- Unload modules in turn; the first failure is the result, and none keeps the others from being
unloaded. -/
def unloadAll : List (String × Loaded) → HostM (Except ActionError Unit)
  | [] => pure (.ok ())
  | (uri, l) :: rest => do
      HostM.note (.unloaded uri l.serial)
      let result ← (l.mod.unload reenter).outcome
      let others ← unloadAll rest
      match result with
      | .ok _ => pure others
      | .error e => pure (.error e)

/-- Close the session and unload its modules. Only the first call does anything. -/
def unload : ActionM Unit := .mk do
  let s ← get
  if s.closed then pure (.ok ())
  else do
    -- Closed before anything is unloaded: what a module asks for on its way out is refused.
    set { s with closed := true, modules := .empty }
    unloadAll reenter s.modules.entries

end Host

end MarkupActions
