import MarkupActions.Proofs.Host.Steady

/-!
# MarkupActions.Proofs.Host.Alike

**The record of which modules were asked.** No action looks at it, and asking a module changes
nothing else: from states that agree in everything but that record (`HostState.Like`), every single
action answers the same and leaves such states again (`HostM.Discreet`).
-/

namespace MarkupActions

/-! ### States that are alike -/

/-- Whether an event is more than the record that a module was asked. -/
def Event.isEffect : Event → Bool
  | .handled _ _ => false
  | _ => true

/-- The prompt that an event shows. -/
def Event.prompt? : Event → Option String
  | .prompted _ text => some text
  | _ => none

/-- Two states that differ at most in the record of which modules were asked. -/
structure HostState.Like (s t : HostState) : Prop where
  dataModel : s.dataModel = t.dataModel
  log : s.log = t.log
  modules : s.modules = t.modules
  closed : s.closed = t.closed
  holdings : s.holdings = t.holdings
  effects : s.events.filter Event.isEffect = t.events.filter Event.isEffect

variable {s t : HostState}

namespace HostState.Like

theorem refl (s : HostState) : s.Like s := ⟨rfl, rfl, rfl, rfl, rfl, rfl⟩

/-- That a module is asked makes no difference. -/
theorem asked (h : s.Like t) (uri : String) (serial : Nat) :
    (s.note (.handled uri serial)).Like t := by
  refine ⟨h.dataModel, h.log, h.modules, h.closed, h.holdings, ?_⟩
  rw [events_note, List.filter_append, h.effects]
  exact List.append_nil _

theorem note (h : s.Like t) (e : Event) : (s.note e).Like (t.note e) := by
  refine ⟨h.dataModel, h.log, h.modules, h.closed, h.holdings, ?_⟩
  rw [events_note, events_note, List.filter_append, List.filter_append, h.effects]

theorem addLog (h : s.Like t) (label message : String) :
    (s.addLog label message).Like (t.addLog label message) :=
  ⟨h.dataModel, congrArg (·.push ⟨label, message⟩) h.log, h.modules, h.closed, h.holdings, h.effects⟩

theorem updateModule (h : s.Like t) (uri : String) (f : Module → Module) :
    (s.updateModule uri f).Like (t.updateModule uri f) :=
  ⟨h.dataModel, h.log, congrArg (·.modify uri fun l => { l with mod := f l.mod }) h.modules, h.closed,
    h.holdings, h.effects⟩

theorem setDataModel (h : s.Like t) (m : Option DataModel) :
    { s with dataModel := m }.Like { t with dataModel := m } :=
  ⟨rfl, h.log, h.modules, h.closed, h.holdings, h.effects⟩

theorem setHoldings (h : s.Like t) (holdings : Holdings) :
    { s with holdings := holdings }.Like { t with holdings := holdings } :=
  ⟨h.dataModel, h.log, h.modules, h.closed, rfl, h.effects⟩

/-- States that are alike agree in all that actions read. -/
theorem carries (changed : Option String) : Carries changed Like where
  dataModel h := h.dataModel
  holdings h := h.holdings
  addLog h := h.addLog
  note h := h.note
  updateModule h uri _ := h.updateModule uri
  setDataModel h := h.setDataModel
  setHoldings h := h.setHoldings

/-- The prompts are among the effects. -/
theorem prompts (h : s.Like t) : s.prompts = t.prompts := by
  have hfilter : ∀ s : HostState,
      s.prompts = (s.events.filter Event.isEffect).filterMap Event.prompt? := by
    intro s
    rw [List.filterMap_filter]
    exact congrArg (List.filterMap · s.events) (funext fun e => by cases e <;> rfl)
  rw [hfilter, hfilter, h.effects]

end HostState.Like

/-- One and the same state, where a namespace has no module. -/
theorem HostState.unloaded_carries (changed : Option String) (other : String) :
    Carries changed fun s t => s = t ∧ s.modules.find? other = none where
  dataModel h := congrArg HostState.dataModel h.1
  holdings h := congrArg HostState.holdings h.1
  addLog h _ _ := ⟨h.1 ▸ rfl, h.2⟩
  note h _ := ⟨h.1 ▸ rfl, h.2⟩
  updateModule h uri _ f := ⟨h.1 ▸ rfl, find?_updateModule_of_none _ uri f h.2⟩
  setDataModel h _ := ⟨h.1 ▸ rfl, h.2⟩
  setHoldings h _ := ⟨h.1 ▸ rfl, h.2⟩

/-! ### What does the same from states that are alike -/

/-- From states that are alike a computation answers the same and leaves states that are alike, and
it loads nothing. -/
def HostM.Discreet {α : Type} (x : HostM α) : Prop :=
  ∀ s t, s.Like t → (x.runFrom s).1 = (x.runFrom t).1 ∧ (x.runFrom s).2.Like (x.runFrom t).2 ∧
    ∀ uri, s.modules.find? uri = none → (x.runFrom s).2.modules.find? uri = none

namespace HostM.Discreet

variable {α β ε : Type}

theorem pure (a : α) : (Pure.pure a : HostM α).Discreet := by
  intro s t h
  exact ⟨rfl, h, fun _ => id⟩

theorem bind {x : HostM α} {f : α → HostM β} (hx : x.Discreet) (hf : ∀ a, (f a).Discreet) :
    (x >>= f).Discreet := by
  intro s t h
  obtain ⟨hanswer, hlike, hnone⟩ := hx s t h
  obtain ⟨hanswer', hlike', hnone'⟩ := hf (x.runFrom s).1 _ _ hlike
  rw [runFrom_bind, runFrom_bind, ← hanswer]
  exact ⟨hanswer', hlike', fun uri hs => hnone' uri (hnone uri hs)⟩

/-- A computation that may fail is discreet if both of its parts are. -/
theorem bindExcept {x : ExceptT ε HostM α} {f : α → ExceptT ε HostM β} (hx : x.run.Discreet)
    (hf : ∀ a, (f a).run.Discreet) : (x >>= f).run.Discreet := by
  change (x.run >>= ExceptT.bindCont f).Discreet
  refine bind hx ?_
  intro answer
  cases answer with
  | ok a => exact hf a
  | error e => exact pure _

/-- What is read of the state has to be the same in states that are alike. -/
theorem readExcept {f : HostState → ExceptT ε HostM β} (hsame : ∀ s t, s.Like t → f s = f t)
    (hf : ∀ s, (f s).run.Discreet) :
    ((getThe HostState : ExceptT ε HostM HostState) >>= f).run.Discreet := by
  intro s t h
  rw [runFrom_run_bind, runFrom_run_bind, runFrom_run_getThe, runFrom_run_getThe]
  dsimp only
  rw [← hsame s t h]
  exact hf s s t h

theorem lift {x : HostM α} (hx : x.Discreet) : (liftM x : ExceptT ε HostM α).run.Discreet := by
  intro s t h
  obtain ⟨hanswer, hlike, hnone⟩ := hx s t h
  rw [runFrom_run_liftM, runFrom_run_liftM]
  exact ⟨congrArg Except.ok hanswer, hlike, hnone⟩

/-- What is steady is discreet: it does not look at the record, nor at what is not loaded. -/
theorem of_steady {changed : Option String} {x : HostM α} (hx : x.Steady changed) : x.Discreet := by
  intro s t h
  obtain ⟨hanswer, hlike⟩ := hx _ (HostState.Like.carries changed) s t h
  refine ⟨hanswer, hlike, fun other hnone => ?_⟩
  obtain ⟨-, hnone⟩ := hx _ (HostState.unloaded_carries changed other) s s ⟨rfl, hnone⟩
  exact hnone.2

end HostM.Discreet

end MarkupActions
