import MarkupActions.Proofs.Host.Announcing
import MarkupActions.Proofs.Host.Run
import MarkupActions.Proofs.Host.Traversal

/-!
# MarkupActions.Proofs.Host.Execution

**Every execution is a run.** Whatever a host does with elements — executing, dispatching, offering,
loading ahead — takes its state along a `Run`. Scripts are followed by their requests here, and the
actions of modules one by one; what is put together from these is left to
`MarkupActions.Proofs.Host.Traversal`.

Some computations are runs only where a certain module is loaded. Runs keep modules in place, so such
a condition has to hold at the start only (`Lasting`).
-/

namespace MarkupActions

variable {host : Host} {reenter : Reenter} {P : HostState → Prop} {α β ε : Type}

/-- What holds of a state holds of every state that a run leads to. -/
structure Lasting (host : Host) (P : HostState → Prop) : Prop where
  keep : ∀ {s t : HostState}, P s → Run host s t → P t

/-- A module of a vocabulary is loaded for a URI. -/
def HostState.Holds (uri : String) (mod : Module) (s : HostState) : Prop :=
  ∃ l, s.modules.find? uri = some l ∧ mod.Alike l.mod

/-- Once a module is loaded, it stays one of its kind. -/
theorem Lasting.holds (uri : String) (mod : Module) : Lasting host (HostState.Holds uri mod) where
  keep := by
    rintro s t ⟨l, hl, halike⟩ hrun
    obtain ⟨m, hm, halike'⟩ := hrun.keeps hl
    exact ⟨_, hm, halike.trans halike'⟩

theorem Lasting.true : Lasting host fun _ => True := ⟨fun _ _ => trivial⟩

/-- From a state with the property, the computation takes the state along a run. -/
def HostM.Runs (host : Host) (P : HostState → Prop) (x : HostM α) : Prop :=
  ∀ s, P s → Run host s (x.runFrom s).2

/-- What leads along a run keeps everything that lasts. -/
theorem HostM.Leads.runs {x : HostM α} (h : x.Leads (Run host)) : x.Runs host P := fun s _ => h s

namespace HostM.Runs

/-- If nothing is asked to last, what runs leads along a run. -/
theorem leads {x : HostM α} (h : x.Runs host fun _ => True) : x.Leads (Run host) :=
  fun s => h s trivial

theorem pure (a : α) : (Pure.pure a : HostM α).Runs host P := by
  intro s _
  exact .refl s

/-- What lasts through the first part is there for the second. -/
theorem bind (hP : Lasting host P) {x : HostM α} {f : α → HostM β} (hx : x.Runs host P)
    (hf : ∀ a, (f a).Runs host P) : (x >>= f).Runs host P := by
  intro s hs
  exact (hx s hs).trans (hf _ _ (hP.keep hs (hx s hs)))

/-- A computation that may fail goes on only where it has not. -/
theorem bindExcept (hP : Lasting host P) {x : ExceptT ε HostM α} {f : α → ExceptT ε HostM β}
    (hx : x.run.Runs host P) (hf : ∀ a, (f a).run.Runs host P) : (x >>= f).run.Runs host P := by
  intro s hs
  have hrun := hx s hs
  rw [runFrom_run_bind]
  rcases h : x.run.runFrom s with ⟨e | a, t⟩
  · rw [h] at hrun
    exact hrun
  · rw [h] at hrun
    exact hrun.trans (hf a t (hP.keep hs hrun))

theorem log (label message : String) : (HostM.log label message).Runs host P :=
  fun s _ => (Step.log s label message).run

theorem evaluate (expression : String) : (HostM.evaluate expression).Runs host P :=
  fun s _ => .refl s

/-- A write is a step of its own, or none without a data model. -/
theorem assign (location : String) (v : Value) : (HostM.assign location v).Runs host P := by
  intro s _
  simp only [HostM.assign, runFrom_bind, runFrom_get]
  split
  · exact .refl s
  · next m h => exact (Step.write h location v).run

theorem get : (getThe HostState : ExceptT ε HostM HostState).run.Runs host P :=
  fun s _ => .refl s

/-- A computation that cannot fail runs the same way among those that can. -/
theorem lift {x : HostM α} (h : x.Runs host P) : (liftM x : ExceptT ε HostM α).run.Runs host P := h

theorem ofExcept (x : Except ActionError α) : (ActionM.ofExcept x).run.Runs host P := by
  cases x <;> exact pure _

theorem assignOrFail (location : String) (v : Value) (failure : ActionError) :
    (ActionM.assign location v failure).run.Runs host P := by
  intro s _
  cases h : s.dataModel with
  | none => rw [ActionM.runFrom_assign_of_none s h]; exact .refl s
  | some m => rw [ActionM.runFrom_assign s h]; exact (Step.write h location v).run

end HostM.Runs

/-! ### Scripts -/

/-- A script runs as its reentries do, by induction over the script. -/
theorem Script.runs (hr : ∀ el, (reenter el).run.Runs host fun _ => True) (x : Script α) :
    (x.run reenter).Runs host fun _ => True := by
  induction x with
  | done a => exact .pure a
  | log label message next ih => exact (HostM.Runs.log label message).bind .true fun _ => ih
  | evaluate expression next ih => exact (HostM.Runs.evaluate expression).bind .true ih
  | assign location v next ih => exact (HostM.Runs.assign location v).bind .true ih
  | execute el next ih => exact (hr el).bind .true ih

/-! ### Modules at work -/

namespace Agent

variable {uri : String} {schemas : Dict String}

/-- What `agent` writes down is a run, one step for each pair. -/
theorem Writes.runs {pairs : List (String × String)} {x : HostM Unit} (h : Writes uri pairs x) :
    x.Runs host (HostState.Holds uri (.agent schemas)) := by
  induction h with
  | nothing => exact .pure ()
  | line label message => exact .log label message
  | schema event schema =>
    rintro s ⟨⟨serial, mod⟩, hl, halike⟩
    cases halike
    exact (Step.record hl event schema).run
  | andThen _ _ ihx ihy => exact ihx.bind (.holds ..) fun _ => ihy

/-- A module of `agent` goes along a run, whatever it is given. -/
theorem react_runs (el : Option Element) :
    (react uri el).Runs host (HostState.Holds uri (.agent schemas)) := by
  cases el with
  | none => exact .pure _
  | some el =>
    unfold react
    dsimp only
    split
    · exact (announce_writes uri el).runs.bind (.holds ..) fun _ => .pure _
    · split
      · exact (noteTransition_writes uri el).runs.bind (.holds ..) fun _ => .pure _
      · exact .pure _

end Agent

namespace Env

variable {s : HostState} {uri : String} {serial : Nat} {store : Store}

theorem lookup_runs (store : Store) (q : GetRequest) : (lookup store q).Runs host P := by
  intro s _
  simp only [lookup, HostM.runFrom_bind, HostM.runFrom_get]
  split
  · exact .refl s
  · exact (Step.log s _ _).run
  · exact .refl s

/-- Handling `get` goes along a run. -/
theorem getEntry_runs (store : Store) (el : Element) :
    (getEntry store el).run.Runs host fun _ => True := by
  refine HostM.Runs.bindExcept .true .get ?_
  intro s
  refine HostM.Runs.bindExcept .true (.ofExcept _) ?_
  intro q
  refine HostM.Runs.bindExcept .true (.lift (lookup_runs store q)) ?_
  intro value
  exact .assignOrFail _ _ _

/-- Setting an entry is a run where the module of the store is loaded. -/
theorem setEntry_run (h : s.modules.find? uri = some ⟨serial, .env store⟩) (el : Element) :
    Run host s ((setEntry uri store el).run.runFrom s).2 := by
  simp only [setEntry, HostM.runFrom_run_bind, HostM.runFrom_run_getThe, ActionM.runFrom_ofExcept]
  cases setRequest el s.dataModel with
  | error e => exact .refl s
  | ok q =>
    dsimp only
    split
    · next holdings hset => exact (Step.store h hset).run
    · exact .refl s

theorem react_run (h : s.modules.find? uri = some ⟨serial, .env store⟩) (el : Option Element) :
    Run host s ((react uri store el).runFrom s).2 := by
  cases el with
  | none => exact .refl s
  | some el =>
    unfold react
    dsimp only
    split
    · exact getEntry_runs store el s trivial
    · split
      · exact setEntry_run h el
      · exact .refl s

end Env

namespace Stdin

variable {s : HostState} {uri : String} {serial : Nat} {input : InputStream} {sink : PromptSink}

/-- A prompt is noted if there is something to show and the sink takes it. -/
theorem runFrom_showPrompt (uri : String) (sink : PromptSink) (text : String) (s : HostState) :
    (showPrompt uri sink text).runFrom s = (refusal? sink text,
      if text ≠ "" ∧ sink.writeFailure = none then s.note (.prompted uri text) else s) := by
  unfold showPrompt
  split <;> rfl

/-- One state is another but for a prompt that was shown, if any was. -/
def Prompted (uri : String) (s t : HostState) : Prop :=
  t = s ∨ ∃ text, t = s.note (.prompted uri text)

theorem Prompted.run {t : HostState} (h : Prompted uri s t) : Run host s t := by
  rcases h with rfl | ⟨text, rfl⟩
  · exact .refl t
  · exact (Step.prompt s uri text).run

theorem Prompted.modules_eq {t : HostState} (h : Prompted uri s t) : t.modules = s.modules := by
  rcases h with rfl | ⟨text, rfl⟩ <;> rfl

/-- Showing a prompt touches neither the variables nor the stores nor the log. -/
theorem Prompted.untouched {t : HostState} (h : Prompted uri s t) :
    t.dataModel = s.dataModel ∧ t.holdings = s.holdings ∧ t.log = s.log := by
  rcases h with rfl | ⟨text, rfl⟩ <;> exact ⟨rfl, rfl, rfl⟩

/-- Showing the prompt of a request fails where the prompt is refused. -/
theorem runFrom_prompt (uri : String) (sink : PromptSink) (q : Request) (s : HostState) :
    ∃ t, Prompted uri s t ∧ (prompt uri sink q).run.runFrom s =
      (match q.prompt.bind fun text => (refusal? sink text).map (promptFailure q text) with
        | some e => .error e
        | none => .ok (), t) := by
  unfold prompt
  cases q.prompt with
  | none => exact ⟨s, .inl rfl, rfl⟩
  | some text =>
    refine ⟨((showPrompt uri sink text).runFrom s).2, ?_, ?_⟩
    · rw [runFrom_showPrompt]
      dsimp only
      split
      · exact .inr ⟨text, rfl⟩
      · exact .inl rfl
    · simp only [HostM.runFrom_run_bind, HostM.runFrom_run_liftM, runFrom_showPrompt,
        Option.bind_some]
      cases refusal? sink text <;> rfl

/-- Handling `read` goes along a run, failing or not. -/
theorem read_run (h : s.modules.find? uri = some ⟨serial, .stdin input sink⟩) (el : Element) :
    Run host s ((read uri input sink el).run.runFrom s).2 := by
  simp only [read, HostM.runFrom_run_bind, HostM.runFrom_run_getThe, ActionM.runFrom_ofExcept]
  cases request el s.dataModel with
  | error e => exact .refl s
  | ok q =>
    obtain ⟨t, ht, hprompt⟩ := runFrom_prompt uri sink q s
    dsimp only
    rw [hprompt]
    cases q.prompt.bind fun text => (refusal? sink text).map (promptFailure q text) with
    | some e => exact ht.run
    | none =>
      -- The prompt has left the module where it was, so that the line is taken off its input.
      have htake : Run host s ((takeLine uri input sink).runFrom t).2 :=
        ht.run.step (.take (ht.modules_eq ▸ h))
      simp only [HostM.runFrom_run_liftM]
      split
      · exact htake
      · exact htake.trans (HostM.Runs.assignOrFail (P := fun _ => True) _ _ _ _ trivial)

theorem react_run (h : s.modules.find? uri = some ⟨serial, .stdin input sink⟩)
    (el : Option Element) : Run host s ((react uri input sink el).runFrom s).2 := by
  cases el with
  | none => exact .refl s
  | some el =>
    unfold react
    dsimp only
    split
    · exact read_run h el
    · exact .refl s

end Stdin

/-! ### Loading -/

section

variable (hr : ∀ el, (reenter el).run.Runs host fun _ => True)
include hr

/-- Every module goes along a run, whatever it is given. -/
theorem Module.react_run {s : HostState} {uri : String} {l : Loaded}
    (h : s.modules.find? uri = some l) (el : Option Element) :
    Run host s ((l.mod.react reenter uri el).runFrom s).2 := by
  obtain ⟨serial, mod⟩ := l
  cases mod with
  | agent schemas => exact Agent.react_runs el s ⟨_, h, .refl _⟩
  | env store => exact Env.react_run h el
  | stdin input sink => exact Stdin.react_run h el
  | scripted script memory =>
    simp only [Module.react, HostM.runFrom_bind]
    have hscript := Script.runs hr (script.handle memory el) s trivial
    generalize ((script.handle memory el).run reenter).runFrom s = r at hscript ⊢
    -- Whatever the script did, the module under the URI is still one of this script.
    obtain ⟨m, hm, halike⟩ := hscript.keeps h
    cases halike
    have hstep := hscript.step (.remember hm r.1.2)
    obtain ⟨⟨answer, next⟩, t⟩ := r
    cases answer with
    | error e => exact hstep
    | ok d => cases d <;> exact hstep

/-- Every loader goes along a run. -/
theorem Vocabulary.load_runs (serial : Nat) (root : Element) (v : Vocabulary) :
    (v.load reenter serial root).run.Runs host fun _ => True := by
  cases v with
  | agent | env store | stdin input sink => exact .pure _
  | scripted script =>
    exact (Script.runs hr _).bind .true fun _ => .pure _

end

/-- What a loader returns is a module that its vocabulary makes. -/
theorem Vocabulary.makes_of_load {v : Vocabulary} {serial : Nat} {root : Element} {mod : Module}
    {s t : HostState} (h : (v.load reenter serial root).run.runFrom s = (.ok mod, t)) :
    v.Makes mod := by
  cases v with
  | agent | env | stdin =>
    cases h
    constructor
  | scripted script =>
    rw [load, HostM.runFrom_run_mk, HostM.runFrom_bind] at h
    obtain ⟨hmod, -⟩ := Prod.ext_iff.1 h
    cases hscript : (((script.load serial root).run reenter).runFrom s).1 with
    | ok memory =>
      rw [hscript] at hmod
      cases hmod
      exact .scripted script memory
    | error e =>
      rw [hscript] at hmod
      cases hmod

/-! ### Default processing -/

theorem assignElement_runs (el : Element) : (assignElement el).run.Runs host fun _ => True := by
  refine HostM.Runs.bindExcept .true .get ?_
  intro s
  exact HostM.Runs.bindExcept .true (.ofExcept _) fun q => .assignOrFail _ _ _

theorem logElement_runs (el : Element) : (logElement el).run.Runs host fun _ => True := by
  refine HostM.Runs.bindExcept .true .get ?_
  intro s
  exact HostM.Runs.bindExcept .true (.ofExcept _) fun q => .lift (.log _ _)

/-! ### Everything that a host does -/

/-- The host does nothing that is not part of a run. -/
theorem Run.admits (host : Host) : host.Admits fun _ => Run host where
  refl _ := .refl
  trans := .trans
  closed_eq := Run.closed_eq
  ofChild _ := id
  module? := by
    intro reenter hr uri _ s
    cases hclosed : s.closed with
    | true => rw [Host.module?_of_closed hclosed]; exact .refl s
    | false =>
      cases hfind : s.modules.find? uri with
      | some l => rw [Host.module?_of_find? hclosed hfind]; exact .refl s
      | none =>
        cases hreg : host.registry.get? uri with
        | none => rw [Host.module?_of_get?_none hclosed hfind hreg]; exact .refl s
        | some v =>
          have hinside := Vocabulary.load_runs (fun el => (hr el).runs) (s.calls uri + 1)
            host.document.root v (s.note (.called uri (s.calls uri + 1))) trivial
          rw [Host.module?_of_get? hclosed hfind hreg]
          rcases hload : (v.load reenter (s.calls uri + 1) host.document.root).run.runFrom
            (s.note (.called uri (s.calls uri + 1))) with ⟨e | mod, t⟩
          · rw [hload] at hinside
            exact (Step.call hclosed hfind hreg).run.trans hinside
          · rw [hload] at hinside
            exact (Run.refl s).load hclosed hfind hreg hinside (Vocabulary.makes_of_load hload)
  ask := by
    intro reenter hr s uri l hopen h el _
    exact (Step.ask hopen h).run.trans
      (Module.react_run (fun el => (hr el).runs) (s := s.note _) h el)
  assign el _ := (assignElement_runs el).leads
  log el := (logElement_runs el).leads

section

variable (hr : ∀ el, (reenter el).run.Runs host fun _ => True)
include hr

/-- What a session makes of an element goes along a run. -/
theorem Host.reaction_runs (el : Element) : (host.reaction reenter el).run.Runs host fun _ => True :=
  ((Run.admits host).reaction (fun el => (hr el).leads) el).runs

/-- Executing an element goes along a run. -/
theorem Host.executeWith_runs (el : Element) :
    (host.executeWith reenter el).run.Runs host fun _ => True :=
  ((Run.admits host).executeWith (fun el => (hr el).leads) el).runs

end

namespace Host

theorem onBehalf_runs (el : Element) : (host.onBehalf el).run.Runs host fun _ => True :=
  ((Run.admits host).onBehalf el).runs

/-- Executing an element takes the state along a run. -/
theorem execute_runs (el : Element) : (host.execute el).run.Runs host fun _ => True :=
  ((Run.admits host).execute el).runs

theorem loadAll_runs (uris : List String) :
    (host.loadAll host.onBehalf uris).run.Runs host fun _ => True :=
  ((Run.admits host).loadAll default uris).runs

/-- Running the document goes along a run. -/
theorem run_runs : host.run.run.Runs host fun _ => True :=
  (Run.admits host).run.runs

end Host

namespace Call

/-- Every call to a host goes along a run. -/
theorem perform_runs (c : Call) : (c.perform host).Runs host fun _ => True :=
  ((Run.admits host).perform c).runs

/-- Any sequence of calls takes the state along a run. -/
theorem performAll_runs (calls : List Call) :
    (performAll host calls).Runs host fun _ => True :=
  ((Run.admits host).performAll calls).runs

end Call

end MarkupActions
