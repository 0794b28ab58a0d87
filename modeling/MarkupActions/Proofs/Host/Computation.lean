import MarkupActions.Host

/-!
# MarkupActions.Proofs.Host.Computation

**Running a computation from a state.** A computation of a host gives an answer and leaves a state.
The equations below say what each way of putting computations together does to the two, so that the
theory of the library never looks inside the monads.
-/

namespace MarkupActions

variable {ε α β : Type}

/-- What a computation answers from a state, and the state it leaves. -/
def HostM.runFrom (x : HostM α) (s : HostState) : α × HostState := x.run s

namespace HostM

variable (s : HostState)

@[simp] theorem runFrom_pure (a : α) : (pure a : HostM α).runFrom s = (a, s) := rfl

@[simp] theorem runFrom_bind (x : HostM α) (f : α → HostM β) :
    (x >>= f).runFrom s = (f (x.runFrom s).1).runFrom (x.runFrom s).2 := rfl

@[simp] theorem runFrom_map (f : α → β) (x : HostM α) :
    (f <$> x).runFrom s = (f (x.runFrom s).1, (x.runFrom s).2) := rfl

@[simp] theorem runFrom_get : (get : HostM HostState).runFrom s = (s, s) := rfl

@[simp] theorem runFrom_set (t : HostState) : (set t : HostM PUnit).runFrom s = ((), t) := rfl

@[simp] theorem runFrom_modify (f : HostState → HostState) :
    (modify f : HostM PUnit).runFrom s = ((), f s) := rfl

@[simp] theorem runFrom_log (label message : String) :
    (HostM.log label message).runFrom s = ((), s.addLog label message) := rfl

@[simp] theorem runFrom_note (e : Event) : (HostM.note e).runFrom s = ((), s.note e) := rfl

end HostM

/-! ### Computations that may fail -/

namespace HostM

variable (s : HostState)

@[simp] theorem runFrom_run_pure (a : α) :
    (pure a : ExceptT ε HostM α).run.runFrom s = (.ok a, s) := rfl

@[simp] theorem runFrom_run_throw (e : ε) :
    (throw e : ExceptT ε HostM α).run.runFrom s = (.error e, s) := rfl

@[simp] theorem runFrom_run_getThe :
    (getThe HostState : ExceptT ε HostM HostState).run.runFrom s = (.ok s, s) := rfl

@[simp] theorem runFrom_run_get : (get : ExceptT ε HostM HostState).run.runFrom s = (.ok s, s) := rfl

@[simp] theorem runFrom_run_liftM (x : HostM α) :
    (liftM x : ExceptT ε HostM α).run.runFrom s = (.ok (x.runFrom s).1, (x.runFrom s).2) := rfl

@[simp] theorem runFrom_run_modify (f : HostState → HostState) :
    (modify f : ExceptT ε HostM PUnit).run.runFrom s = (.ok (), f s) := rfl

/-- A failure ends the computation, and the state stays as the failing part left it. -/
theorem runFrom_run_bind (x : ExceptT ε HostM α) (f : α → ExceptT ε HostM β) :
    (x >>= f).run.runFrom s =
      match x.run.runFrom s with
      | (.ok a, t) => (f a).run.runFrom t
      | (.error e, t) => (.error e, t) := by
  change (ExceptT.bindCont f (x.run.runFrom s).1).runFrom (x.run.runFrom s).2 = _
  rcases x.run.runFrom s with ⟨_ | _, t⟩ <;> rfl

/-- A computation may begin by looking at the state that it starts from. -/
theorem runFrom_getThe_bind (f : HostState → ExceptT ε HostM β) :
    ((getThe HostState : ExceptT ε HostM HostState) >>= f).run.runFrom s = (f s).run.runFrom s := rfl

@[simp] theorem runFrom_run_map (f : α → β) (x : ExceptT ε HostM α) :
    (f <$> x).run.runFrom s = ((x.run.runFrom s).1.map f, (x.run.runFrom s).2) := by
  rw [map_eq_pure_bind, runFrom_run_bind]
  rcases x.run.runFrom s with ⟨_ | _, t⟩ <;> rfl

@[simp] theorem runFrom_run_adapt (f : ε → β) (x : ExceptT ε HostM α) :
    (x.adapt f).run.runFrom s = ((x.run.runFrom s).1.mapError f, (x.run.runFrom s).2) := rfl

@[simp] theorem runFrom_run_mk (x : HostM (Except ε α)) :
    (ExceptT.mk x).run.runFrom s = x.runFrom s := rfl

@[simp] theorem runFrom_outcome (x : ActionM α) :
    (ActionM.outcome x).runFrom s = x.run.runFrom s := rfl

end HostM

/-! ### The wording of failures -/

namespace ActionM

/-- Two actions are the same when they do the same from every state. -/
theorem ext {x y : ActionM α} (h : ∀ s, x.run.runFrom s = y.run.runFrom s) : x = y := funext h

/-- Reporting a failure as it is changes nothing. -/
theorem adapt_same (x : ActionM α) : x.adapt (fun e => e) = x := by
  refine ext fun s => ?_
  rw [HostM.runFrom_run_adapt]
  rcases x.run.runFrom s with ⟨_ | _, t⟩ <;> rfl

/-- A failure that is reworded twice is reworded once, by both. -/
theorem adapt_adapt (x : ActionM α) (f g : ActionError → ActionError) :
    (x.adapt f).adapt g = x.adapt fun e => g (f e) := by
  refine ext fun s => ?_
  rw [HostM.runFrom_run_adapt, HostM.runFrom_run_adapt, HostM.runFrom_run_adapt]
  rcases x.run.runFrom s with ⟨_ | _, t⟩ <;> rfl

/-- Rewording the failure of a sequence rewords that of the part that fails. -/
theorem adapt_bind (x : ActionM α) (f : α → ActionM β) (g : ActionError → ActionError) :
    (x >>= f).adapt g = x.adapt g >>= fun a => (f a).adapt g := by
  refine ext fun s => ?_
  rw [HostM.runFrom_run_adapt, HostM.runFrom_run_bind, HostM.runFrom_run_bind,
    HostM.runFrom_run_adapt]
  rcases x.run.runFrom s with ⟨_ | _, t⟩ <;> rfl

end ActionM

/-! ### Requests and writes -/

namespace ActionM

variable (s : HostState)

@[simp] theorem runFrom_ofExcept (x : Except ActionError α) :
    (ActionM.ofExcept x).run.runFrom s = (x, s) := by
  cases x <;> rfl

/-- A write changes the data model, if there is one, and nothing else. -/
theorem runFrom_assign {m : DataModel} (h : s.dataModel = some m) (location : String) (v : Value)
    (failure : ActionError) :
    (ActionM.assign location v failure).run.runFrom s =
      ((m.write location v).2.mapError fun e => failure.becauseText e.message,
        { s with dataModel := some (m.write location v).1 }) := by
  simp only [ActionM.assign, HostM.runFrom_run_bind, HostM.runFrom_run_liftM, HostM.assign,
    HostM.runFrom_bind, HostM.runFrom_get, h, HostM.runFrom_set, HostM.runFrom_pure]
  cases (m.write location v).2 <;> rfl

/-- Without a data model a write does nothing, and is no failure. -/
theorem runFrom_assign_of_none (h : s.dataModel = none) (location : String) (v : Value)
    (failure : ActionError) :
    (ActionM.assign location v failure).run.runFrom s = (.ok (), s) := by
  simp only [ActionM.assign, HostM.runFrom_run_bind, HostM.runFrom_run_liftM, HostM.assign,
    HostM.runFrom_bind, HostM.runFrom_get, h]
  rfl

end ActionM

end MarkupActions
