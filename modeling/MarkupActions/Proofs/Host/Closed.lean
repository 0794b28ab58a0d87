import MarkupActions.Proofs.Host.Teardown

/-!
# MarkupActions.Proofs.Host.Closed

**After teardown nothing happens.** Every way into a session comes to the question whether it is
still open, and comes to it before anything is done: the module of a namespace, an offer, and through
them the execution of an element are refused. Where nothing is asked for there is no question, as
with an element that has nowhere to go or a document that uses no namespace, but then nothing is done
either. So each errand leaves the state of a host that has been torn down as it is, the journal
included (`Errand.perform_of_closed`), and so does any row of them.

Whatever was done with the host before its teardown, it is empty afterwards: a session is emptied
when it is closed, and what a module asks for on its way out is refused already.
-/

namespace MarkupActions

variable {host : Host} {s t : HostState}

/-! ### What is refused -/

namespace Host

/-- The failure of an element that is executed after teardown. -/
def tooLate (el : Element) : ActionError :=
  HostError.closed.forElement el.tag el.localName (el.namespaceUri.getD "")

section

variable (h : s.closed = true)
include h

/-- An element that comes too late fails, and nothing changes. -/
theorem runFrom_execute_of_closed (el : Element) :
    (host.execute el).run.runFrom s = (.error (tooLate el), s) := by
  rw [execute, runFrom_executeWith, runFrom_reaction_of_closed h]
  rfl

theorem runFrom_offer_of_closed (el : Element) :
    (host.offer el).run.runFrom s = (.error .closed, s) := by
  rw [offer, HostM.runFrom_run_bind, runFrom_offerAround_of_closed h]

/-- An element outside any namespace is declined without a question. -/
theorem runFrom_dispatch_of_closed (el : Element) : (host.dispatch el).run.runFrom s =
    (if el.namespaceUri.isSome then .error .closed else .ok .declined, s) := by
  unfold dispatch
  split
  · next hns => rw [hns]; rfl
  · next uri hns =>
    rw [HostM.runFrom_run_bind, runFrom_route_of_closed h, hns]
    rfl

theorem runFrom_handle_of_closed (uri : String) (el : Option Element) :
    (host.handle uri el).run.runFrom s = (.error .closed, s) := by
  rw [handle, HostM.runFrom_run_bind, module?_of_closed h]

/-- A document that uses no namespace has nothing to load. -/
theorem runFrom_preload_of_closed : (host.preload host.onBehalf).run.runFrom s =
    (if host.usedUris = [] then .ok () else .error .closed, s) := by
  rw [preload]
  cases host.usedUris with
  | nil => rfl
  | cons uri rest =>
    rw [loadAll, HostM.runFrom_run_bind, module?_of_closed h]
    rfl

/-- A document that comes too late fails where it would load a module, or else at its root. -/
theorem runFrom_run_of_closed : host.run.run.runFrom s =
    (.error (if host.usedUris = [] then .action (tooLate host.document.root) else .closed), s) := by
  rw [run, HostM.runFrom_run_bind, runFrom_preload_of_closed h]
  by_cases hused : host.usedUris = []
  · rw [if_pos hused, if_pos hused]
    dsimp only
    rw [HostM.runFrom_run_adapt, runFrom_execute_of_closed h]
    rfl
  · rw [if_neg hused, if_neg hused]

end

end Host

/-! ### Errands -/

/-- What can be asked of a host that its session has a part in. -/
inductive Errand where
  | operation (op : Operation)
  /-- Running the document. -/
  | run

namespace Errand

/-- Do what is asked. What comes of it is seen in the state. -/
def perform (host : Host) : Errand → HostM Unit
  | .operation op => op.perform host
  | .run => do let _ ← host.run.run

/-- Go on some errands in turn, whatever becomes of each. -/
def performAll (host : Host) : List Errand → HostM Unit
  | [] => pure ()
  | e :: rest => do
      e.perform host
      performAll host rest

/-- A host that has been torn down does nothing. -/
theorem perform_of_closed (h : s.closed = true) (e : Errand) :
    ((e.perform host).runFrom s).2 = s := by
  cases e with
  | run => exact congrArg Prod.snd (Host.runFrom_run_of_closed h)
  | operation op =>
    cases op with
    | unload => exact congrArg Prod.snd (Host.runFrom_unload_of_closed host.onBehalf h)
    | call c =>
      cases c with
      | module uri => exact congrArg Prod.snd (Host.module?_of_closed h)
      | preload => exact congrArg Prod.snd (Host.runFrom_preload_of_closed h)
      | dispatch el => exact congrArg Prod.snd (Host.runFrom_dispatch_of_closed h el)
      | offer el => exact congrArg Prod.snd (Host.runFrom_offer_of_closed h el)
      | handle uri el => exact congrArg Prod.snd (Host.runFrom_handle_of_closed h uri el)
      | execute el => exact congrArg Prod.snd (Host.runFrom_execute_of_closed h el)

/-- Any number of errands come too late. -/
theorem performAll_of_closed (h : s.closed = true) (errands : List Errand) :
    ((performAll host errands).runFrom s).2 = s := by
  induction errands with
  | nil => rfl
  | cons e rest ih =>
    rw [performAll, HostM.runFrom_bind, perform_of_closed h]
    exact ih

end Errand

/-! ### Up to teardown -/

/-- Anything that can be done with a host from outside. -/
inductive Deed where
  | errand (e : Errand)
  /-- Loading a module beside the session, and releasing it again. -/
  | tryLoad (uri : String)
  | log (label message : String)
  /-- Storing a value in the data model. -/
  | assign (location : String) (v : Value)

/-- What has been torn down holds no modules. -/
def HostState.Emptied (s : HostState) : Prop := s.closed = true → s.modules = .empty

/-- What has been torn down stays so along every run. -/
theorem Run.emptied (h : Run host s t) (hs : s.Emptied) : t.Emptied := by
  intro hclosed
  have hbefore : s.closed = true := h.closed_eq ▸ hclosed
  exact h.modules_empty hbefore (hs hbefore)

/-- What modules ask for while they are unloaded is refused, so that none is loaded anew. -/
theorem Host.unloadAll_emptied (host : Host) (entries : Entries Loaded) (hclosed : s.closed = true)
    (hempty : s.modules = .empty) :
    ((unloadAll host.onBehalf entries).runFrom s).2.closed = true ∧
      ((unloadAll host.onBehalf entries).runFrom s).2.modules = .empty := by
  induction entries generalizing s with
  | nil => exact ⟨hclosed, hempty⟩
  | cons entry rest ih =>
    obtain ⟨uri, l⟩ := entry
    have hrun : Run host (s.note (.unloaded uri l.serial)) _ := l.mod.unload_runs _ trivial
    have hrest := ih (hrun.closed_eq.trans hclosed) (hrun.modules_empty hclosed hempty)
    simp only [unloadAll, HostM.runFrom_bind, HostM.runFrom_note, HostM.runFrom_outcome]
    split <;> exact hrest

/-- Tearing down again leaves nothing open and nothing loaded. -/
theorem Host.unload_emptied (host : Host) (hs : s.Emptied) :
    ((unload host.onBehalf).run.runFrom s).2.closed = true ∧
      ((unload host.onBehalf).run.runFrom s).2.modules = .empty := by
  cases h : s.closed with
  | true =>
    rw [runFrom_unload_of_closed _ h]
    exact ⟨h, hs h⟩
  | false =>
    rw [runFrom_unload_of_open _ h]
    exact unloadAll_emptied host s.modules.entries rfl rfl

/-- A loader that is called beside the session does what it does along a run. -/
theorem Host.load_emptied (host : Host) (uri : String) (hs : s.Emptied) :
    ((host.load host.onBehalf uri).run.runFrom s).2.Emptied := by
  unfold load
  cases host.registry.get? uri with
  | none => exact hs
  | some v =>
    have hrun : Run host (s.note (.called uri (s.calls uri + 1))) _ :=
      Vocabulary.load_runs onBehalf_runs (s.calls uri + 1) host.document.root v _ trivial
    have hloaded := hrun.emptied hs
    simp only [HostM.runFrom_run_bind, HostM.runFrom_run_getThe, HostM.runFrom_run_liftM,
      HostM.runFrom_note]
    split
    · next heq => rw [heq] at hloaded; exact hloaded
    · next heq => rw [heq] at hloaded; exact hloaded

/-- A loader that is called too late cannot add a module. -/
theorem Host.tryLoad_emptied (host : Host) (uri : String) (hs : s.Emptied) :
    ((host.tryLoad uri).run.runFrom s).2.Emptied := by
  have hloaded := host.load_emptied uri hs
  rw [tryLoad, HostM.runFrom_run_bind]
  rcases h : (host.load host.onBehalf uri).run.runFrom s with ⟨e | l, t⟩
  · rw [h] at hloaded
    exact hloaded
  · rw [h] at hloaded
    have hunload : Run host t _ := l.mod.unload_runs t trivial
    exact hunload.emptied hloaded

theorem Operation.perform_emptied (host : Host) (op : Operation) (hs : s.Emptied) :
    ((op.perform host).runFrom s).2.Emptied := by
  cases op with
  | call c =>
    have hrun : Run host s _ := c.perform_runs s trivial
    exact hrun.emptied hs
  | unload => exact fun _ => (host.unload_emptied hs).2

namespace Deed

/-- Do what is asked. What comes of it is seen in the state. -/
def perform (host : Host) : Deed → HostM Unit
  | .errand e => e.perform host
  | .tryLoad uri => do let _ ← (host.tryLoad uri).run
  | .log label message => HostM.log label message
  | .assign location v => do let _ ← HostM.assign location v

/-- Do some deeds in turn, whatever becomes of each. -/
def performAll (host : Host) : List Deed → HostM Unit
  | [] => pure ()
  | d :: rest => do
      d.perform host
      performAll host rest

/-- The state that deeds on a new host lead to. -/
def reached (host : Host) (model : Option DataModel) (holdings : Holdings)
    (deeds : List Deed) : HostState :=
  ((performAll host deeds).runFrom (.fresh model holdings)).2

theorem perform_emptied (host : Host) (d : Deed) (hs : s.Emptied) :
    ((d.perform host).runFrom s).2.Emptied := by
  cases d with
  | errand e =>
    cases e with
    | operation op => exact op.perform_emptied host hs
    | run =>
      have hrun : Run host s _ := Host.run_runs s trivial
      exact hrun.emptied hs
  | tryLoad uri => exact host.tryLoad_emptied uri hs
  | log label message => exact hs
  | assign location v =>
    have hrun : Run host s _ := HostM.Runs.assign (P := fun _ => True) location v s trivial
    exact hrun.emptied hs

/-- After the teardown no sequence of deeds brings anything back, by induction along it. -/
theorem performAll_emptied (host : Host) (deeds : List Deed) (hs : s.Emptied) :
    ((performAll host deeds).runFrom s).2.Emptied := by
  induction deeds generalizing s with
  | nil => exact hs
  | cons d rest ih => exact ih (d.perform_emptied host hs)

end Deed

/-- **After teardown nothing happens.** Whatever was done with a host before, once it has been torn
down, successfully or not, its session is closed and without modules and schemas. Executing an element
fails with a load error, running the document fails, offers and requests for a module are refused as
those of a closed session; and no errand, and no row of errands, changes anything about the host: the
variables, the log, what the stores hold, the modules with the input they have before them, and the
journal with every call of a loader, every element handled, every module unloaded, every prompt and
every line stay what they are. -/
theorem Host.teardown_is_final (host : Host) (model : Option DataModel) (holdings : Holdings)
    (before : List Deed) :
    let s := (host.teardown.run.runFrom (Deed.reached host model holdings before)).2
    (s.closed = true ∧ s.loadedUris = [] ∧ s.schemas = .empty) ∧
    (∀ el, (tooLate el).kind = .load ∧ (host.execute el).run.runFrom s = (.error (tooLate el), s)) ∧
    (∃ e, host.run.run.runFrom s = (.error e, s)) ∧
    (∀ el, (offerAround host.onBehalf el).run.runFrom s = (.error .closed, s) ∧
      (host.offer el).run.runFrom s = (.error .closed, s)) ∧
    (∀ uri, (host.module? host.onBehalf uri).run.runFrom s = (.error .closed, s)) ∧
    ∀ later : List Errand, ((Errand.performAll host later).runFrom s).2 = s := by
  intro s
  have hbefore : (Deed.reached host model holdings before).Emptied :=
    Deed.performAll_emptied host before nofun
  obtain ⟨hclosed, hempty⟩ : s.closed = true ∧ s.modules = .empty := host.unload_emptied hbefore
  refine ⟨⟨hclosed, ?_, ?_⟩, fun el => ⟨rfl, runFrom_execute_of_closed hclosed el⟩,
    ⟨_, runFrom_run_of_closed hclosed⟩,
    fun el => ⟨runFrom_offerAround_of_closed hclosed el, runFrom_offer_of_closed hclosed el⟩,
    fun uri => module?_of_closed hclosed, Errand.performAll_of_closed hclosed⟩
  · rw [HostState.loadedUris, hempty]
    rfl
  · rw [HostState.schemas, hempty]
    rfl

end MarkupActions
