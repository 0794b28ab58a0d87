import MarkupActions.Proofs.Host.Lifecycle

/-!
# MarkupActions.Proofs.Host.Alone

**Scripts that execute no element.** Whatever a script asks for by itself goes to the log and to the
variables. It touches a session only by having elements executed, so one that has none executed
(`Script.Alone`) leaves the session as it found it. A loader of this kind is called and returns, and
nothing happens in between.
-/

namespace MarkupActions

variable {α : Type} {host : Host} {reenter : Reenter} {v : Vocabulary} {s t u : HostState}
  {uri : String} {l : Loaded}

/-- No element is executed, whatever the script is answered. -/
def Script.Alone : Script α → Prop
  | .done _ => True
  | .log _ _ next => next.Alone
  | .evaluate _ next => ∀ answer, (next answer).Alone
  | .assign _ _ next => ∀ answer, (next answer).Alone
  | .execute _ _ => False

/-- One state is another but for the log and the variables. -/
structure HostState.Beside (s t : HostState) : Prop where
  modules : t.modules = s.modules
  closed : t.closed = s.closed
  holdings : t.holdings = s.holdings
  events : t.events = s.events

namespace HostState.Beside

theorem refl (s : HostState) : s.Beside s := ⟨rfl, rfl, rfl, rfl⟩

theorem trans (h : s.Beside t) (h' : t.Beside u) : s.Beside u :=
  ⟨h'.modules.trans h.modules, h'.closed.trans h.closed, h'.holdings.trans h.holdings,
    h'.events.trans h.events⟩

/-- A line in the log is a difference that does not count. -/
theorem log (s : HostState) (label message : String) : s.Beside (s.addLog label message) :=
  ⟨rfl, rfl, rfl, rfl⟩

/-- What a variable holds is a difference that does not count. -/
theorem assign (location : String) (value : Value) (s : HostState) :
    s.Beside ((HostM.assign location value).runFrom s).2 := by
  simp only [HostM.assign, HostM.runFrom_bind, HostM.runFrom_get]
  split
  · exact .refl s
  · exact ⟨rfl, rfl, rfl, rfl⟩

end HostState.Beside

/-- What such a script does shows in the log and in the variables only. -/
theorem Script.Alone.beside {x : Script α} (hx : x.Alone) (reenter : Reenter) (s : HostState) :
    s.Beside ((x.run reenter).runFrom s).2 := by
  induction x generalizing s with
  | done a => exact .refl s
  | log label message next ih => exact (HostState.Beside.log s label message).trans (ih hx _)
  | evaluate expression next ih => exact ih _ (hx _) s
  | assign location value next ih =>
    exact (HostState.Beside.assign location value s).trans (ih _ (hx _) _)
  | execute el next => exact hx.elim

/-! ### Loaders -/

/-- The loader of a vocabulary executes no element. Those that come with the library never do. -/
def Vocabulary.LoadsAlone : Vocabulary → Prop
  | .agent | .env _ | .stdin _ _ => True
  | .scripted script => ∀ serial root, (script.load serial root).Alone

/-- A loader that has no element executed leaves the session as it found it. -/
theorem Vocabulary.LoadsAlone.beside (hv : v.LoadsAlone) (reenter : Reenter) (serial : Nat)
    (root : Element) (s : HostState) :
    s.Beside ((v.load reenter serial root).run.runFrom s).2 := by
  cases v with
  | agent | env | stdin => exact .refl s
  | scripted script => exact (hv serial root).beside reenter s

namespace Host

/-- Calling a loader is noted first. What it returns is given the number of the call. -/
theorem runFrom_load (hreg : host.registry.get? uri = some v) :
    (host.load reenter uri).run.runFrom s =
      match (v.load reenter (s.calls uri + 1) host.document.root).run.runFrom
        (s.note (.called uri (s.calls uri + 1))) with
      | (.ok mod, t) => (.ok ⟨s.calls uri + 1, mod⟩, t)
      | (.error e, t) => (.error e, t) := by
  simp only [load, hreg, HostM.runFrom_run_bind, HostM.runFrom_run_getThe,
    HostM.runFrom_run_liftM, HostM.runFrom_note]
  rcases (v.load reenter (s.calls uri + 1) host.document.root).run.runFrom
    (s.note (.called uri (s.calls uri + 1))) with ⟨_ | mod, t⟩ <;> rfl

/-- For a namespace without a module the loader is called, and what it returns reaches the session;
if it fails, that is the failure. -/
theorem module?_of_load (hopen : s.closed = false) (hnone : s.modules.find? uri = none)
    (hreg : host.registry.get? uri = some v) :
    (host.module? reenter uri).run.runFrom s =
      match (host.load reenter uri).run.runFrom s with
      | (.ok l, t) => (.ok ((t.receive uri l).modules.find? uri), t.receive uri l)
      | (.error e, t) => (.error e, t) := by
  rw [module?_of_get? hopen hnone hreg, runFrom_load hreg]
  rcases (v.load reenter (s.calls uri + 1) host.document.root).run.runFrom
    (s.note (.called uri (s.calls uri + 1))) with ⟨_ | mod, t⟩
  · rfl
  · simp [HostState.find?_receive_self]

/-- All that the session has of a call of such a loader is the call. -/
theorem load_beside (hreg : host.registry.get? uri = some v) (hv : v.LoadsAlone)
    (reenter : Reenter) (s : HostState) : (s.note (.called uri (s.calls uri + 1))).Beside
      ((host.load reenter uri).run.runFrom s).2 := by
  have hbeside := hv.beside reenter (s.calls uri + 1) host.document.root
    (s.note (.called uri (s.calls uri + 1)))
  rw [runFrom_load hreg]
  rcases hload : (v.load reenter (s.calls uri + 1) host.document.root).run.runFrom
    (s.note (.called uri (s.calls uri + 1))) with ⟨_ | mod, t⟩ <;> rwa [hload] at hbeside

/-- A module has the number of the call that made it. -/
theorem serial_of_load (hreg : host.registry.get? uri = some v)
    (hload : (host.load reenter uri).run.runFrom s = (.ok l, t)) : l.serial = s.calls uri + 1 := by
  rw [runFrom_load hreg] at hload
  split at hload
  · cases hload
    rfl
  · cases hload

end Host

end MarkupActions
