import MarkupActions.Proofs.Host.Following

/-!
# MarkupActions.Proofs.Host.Steady

**What an action looks at.** An action of a module, or of default processing, reads the variables and
what the stores hold, and nothing else of the state; what it changes it changes whatever the rest may
be. So it does the same from any two states between which these agree, in whatever sense the two agree
in the rest (`HostState.Carries`): it gives the same answer, and leaves states that agree in that same
sense (`HostM.Steady`). The actions are gone through here once, for all such senses.
-/

namespace MarkupActions

variable {α β ε : Type}

/-- States that are related agree in what actions read, and single changes leave them related; of the
modules, that under the given URI may be changed, if there is one. -/
structure HostState.Carries (changed : Option String) (R : HostState → HostState → Prop) : Prop where
  dataModel : ∀ {s t}, R s t → s.dataModel = t.dataModel
  holdings : ∀ {s t}, R s t → s.holdings = t.holdings
  addLog : ∀ {s t}, R s t → ∀ label message, R (s.addLog label message) (t.addLog label message)
  note : ∀ {s t}, R s t → ∀ e, R (s.note e) (t.note e)
  updateModule : ∀ {s t}, R s t → ∀ uri, changed = some uri → ∀ f,
    R (s.updateModule uri f) (t.updateModule uri f)
  setDataModel : ∀ {s t}, R s t → ∀ m, R { s with dataModel := m } { t with dataModel := m }
  setHoldings : ∀ {s t}, R s t → ∀ holdings,
    R { s with holdings := holdings } { t with holdings := holdings }

/-- From states that are related in any such way the computation gives the same answer, and leaves
states that are related in that way. -/
def HostM.Steady (changed : Option String) (x : HostM α) : Prop :=
  ∀ R, HostState.Carries changed R → x.Follows R (· = ·) x

namespace HostM.Steady

variable {changed : Option String}

theorem pure (a : α) : (Pure.pure a : HostM α).Steady changed :=
  fun _ _ => .pure rfl

theorem bind {x : HostM α} {f : α → HostM β} (hx : x.Steady changed) (hf : ∀ a, (f a).Steady changed) :
    (x >>= f).Steady changed := by
  intro R h
  refine (hx R h).bind ?_
  rintro a _ rfl
  exact hf a R h

/-- A computation that may fail is steady if both of its parts are. -/
theorem bindExcept {x : ExceptT ε HostM α} {f : α → ExceptT ε HostM β} (hx : x.run.Steady changed)
    (hf : ∀ a, (f a).run.Steady changed) : (x >>= f).run.Steady changed := by
  change (x.run >>= ExceptT.bindCont f).Steady changed
  refine bind hx ?_
  intro answer
  cases answer with
  | ok a => exact hf a
  | error e => exact pure _

/-- The results of an action agree by any relation between failures that holds of each and itself. -/
theorem follows {R : HostState → HostState → Prop} {E : ε → ε → Prop} {x : ExceptT ε HostM α}
    (hx : x.run.Steady changed) (h : HostState.Carries changed R) (hE : ∀ e, E e e) :
    x.run.Follows R (Results E (· = ·)) x.run := by
  intro s t hst
  obtain ⟨hanswer, hleft⟩ := hx R h s t hst
  exact ⟨hanswer ▸ .refl hE _, hleft⟩

/-- Of the state only the variables and what the stores hold may be read. -/
theorem readExcept {f : HostState → ExceptT ε HostM β}
    (hsame : ∀ s t : HostState, s.dataModel = t.dataModel → s.holdings = t.holdings → f s = f t)
    (hf : ∀ s, (f s).run.Steady changed) :
    ((getThe HostState : ExceptT ε HostM HostState) >>= f).run.Steady changed := by
  intro R h s t hst
  rw [runFrom_getThe_bind, runFrom_getThe_bind, ← hsame s t (h.dataModel hst) (h.holdings hst)]
  exact hf s R h s t hst

theorem lift {x : HostM α} (hx : x.Steady changed) :
    (liftM x : ExceptT ε HostM α).run.Steady changed := by
  intro R h s t hst
  obtain ⟨hanswer, hleft⟩ := hx R h s t hst
  rw [runFrom_run_liftM, runFrom_run_liftM]
  exact ⟨congrArg Except.ok hanswer, hleft⟩

/-- A change of the state is steady if it leaves related states related. -/
theorem modified {f : HostState → HostState}
    (hf : ∀ R, HostState.Carries changed R → ∀ s t, R s t → R (f s) (f t)) :
    (modify f : HostM PUnit).Steady changed := by
  intro R h s t hst
  exact ⟨rfl, hf R h s t hst⟩

theorem log (label message : String) : (HostM.log label message).Steady changed :=
  modified fun _ h _ _ hst => h.addLog hst label message

theorem note (e : Event) : (HostM.note e).Steady changed :=
  modified fun _ h _ _ hst => h.note hst e

theorem ofExcept (x : Except ActionError α) : (ActionM.ofExcept x).run.Steady changed := by
  cases x <;> exact pure _

/-- A write is steady: it goes by the data model alone. -/
theorem assign (location : String) (v : Value) (failure : ActionError) :
    (ActionM.assign location v failure).run.Steady changed := by
  intro R h s t hst
  cases hmodel : s.dataModel with
  | none =>
    rw [ActionM.runFrom_assign_of_none s hmodel,
      ActionM.runFrom_assign_of_none t (h.dataModel hst ▸ hmodel)]
    exact ⟨rfl, hst⟩
  | some m =>
    rw [ActionM.runFrom_assign s hmodel, ActionM.runFrom_assign t (h.dataModel hst ▸ hmodel)]
    exact ⟨rfl, h.setDataModel hst _⟩

end HostM.Steady

/-! ### Every action is steady -/

open HostM (Steady)

variable (changed : Option String)

/-- What `agent` writes is steady, up to its own module. -/
theorem Agent.Writes.steady {uri : String} {pairs : List (String × String)} {x : HostM Unit}
    (h : Writes uri pairs x) : x.Steady (some uri) := by
  induction h with
  | nothing => exact .pure ()
  | line label message => exact .log label message
  | schema event schema => exact .modified fun _ h _ _ hst => h.updateModule hst uri rfl _
  | andThen _ _ ihx ihy => exact ihx.bind fun _ => ihy

theorem Env.lookup_steady (store : Store) (q : GetRequest) : (lookup store q).Steady changed := by
  intro R h s t hst
  simp only [lookup, HostM.runFrom_bind, HostM.runFrom_get, h.holdings hst]
  split
  · exact ⟨rfl, hst⟩
  · exact ⟨rfl, h.addLog hst _ _⟩
  · exact ⟨rfl, hst⟩

/-- Handling `get` is steady: it reads the stores, and writes to the variables and the log. -/
theorem Env.getEntry_steady (store : Store) (el : Element) : (getEntry store el).run.Steady changed := by
  refine Steady.readExcept (fun s t hmodel _ => by rw [hmodel]) ?_
  intro s
  refine Steady.bindExcept (.ofExcept _) ?_
  intro q
  exact Steady.bindExcept (.lift (lookup_steady changed store q)) fun value => .assign _ _ _

theorem Env.setEntry_steady (uri : String) (store : Store) (el : Element) :
    (setEntry uri store el).run.Steady changed := by
  refine Steady.readExcept (fun s t hmodel hholdings => by rw [hmodel, hholdings]) ?_
  intro s
  refine Steady.bindExcept (.ofExcept _) ?_
  intro q
  split
  · next holdings _ =>
    exact Steady.lift (.modified fun _ h _ _ hst => h.note (h.setHoldings hst holdings) _)
  · exact .pure _

theorem Stdin.prompt_steady (uri : String) (sink : PromptSink) (q : Request) :
    (prompt uri sink q).run.Steady changed := by
  unfold prompt
  split
  · exact .pure _
  · next text _ =>
    have hshow : (showPrompt uri sink text).Steady changed := by
      unfold showPrompt
      split
      · exact (Steady.note _).bind fun _ => .pure _
      · exact .pure _
    refine Steady.bindExcept (.lift hshow) ?_
    intro refused
    split <;> exact .pure _

/-- Taking a line is steady, up to the module that takes it. -/
theorem Stdin.takeLine_steady (uri : String) (input : InputStream) (sink : PromptSink) :
    (takeLine uri input sink).Steady (some uri) :=
  HostM.Steady.bind (.modified fun _ h _ _ hst => h.note (h.updateModule hst uri rfl _) _) fun _ => .pure _

/-- Handling `read` is steady, up to the module that takes the line. -/
theorem Stdin.read_steady (uri : String) (input : InputStream) (sink : PromptSink) (el : Element) :
    (read uri input sink el).run.Steady (some uri) := by
  refine Steady.readExcept (fun s t hmodel _ => by rw [hmodel]) ?_
  intro s
  refine Steady.bindExcept (.ofExcept _) ?_
  intro q
  refine Steady.bindExcept (prompt_steady _ uri sink q) ?_
  intro _
  refine Steady.bindExcept (.lift (takeLine_steady uri input sink)) ?_
  intro reading
  split
  · exact .pure _
  · exact .assign _ _ _

theorem assignElement_steady (el : Element) : (assignElement el).run.Steady changed := by
  refine Steady.readExcept (fun s t hmodel _ => by rw [hmodel]) ?_
  intro s
  exact Steady.bindExcept (.ofExcept _) fun q => .assign _ _ _

theorem logElement_steady (el : Element) : (logElement el).run.Steady changed := by
  refine Steady.readExcept (fun s t hmodel _ => by rw [hmodel]) ?_
  intro s
  exact Steady.bindExcept (.ofExcept _) fun q => .lift (.log _ _)

end MarkupActions
