import MarkupActions.Proofs.Host.Failure
import MarkupActions.Proofs.Host.Schemas

/-!
# MarkupActions.Proofs.Host.Preloading

**When a module is loaded plays no part.** Running a document loads what it uses first; executing its
root loads a module when the first element of its namespace is met. The built-in vocabularies are
loaded into the same modules whenever that is, so the two differ in nothing that shows outside
(`Host.run_execute`) — but for elements outside any namespace. These are offered to the modules that
are loaded by then, and `agent` takes two of them: a document in which `agent` or `transition` stands
outside any namespace may do one thing after preloading and another without it.

Two states are compared by the modules that elements would go to (`Host.moduleFor`), be they loaded
yet or not.
-/

namespace MarkupActions

/-! ### States up to loading -/

/-- Whether an event is one between a module and the world outside. -/
def Event.isOutward : Event → Bool
  | .prompted _ _ | .consumed _ _ | .stored _ _ _ => true
  | _ => false

/-- Two states that differ at most in which modules have been loaded and asked. -/
structure HostState.UpToLoading (host : Host) (s t : HostState) : Prop where
  dataModel : s.dataModel = t.dataModel
  log : s.log = t.log
  holdings : s.holdings = t.holdings
  moduleFor : ∀ uri, host.moduleFor s uri = host.moduleFor t uri
  outward : s.events.filter Event.isOutward = t.events.filter Event.isOutward

variable {host : Host} {store : Store} {input : InputStream} {sink : PromptSink}
  {reenter : Reenter} {s t u : HostState} {uri : String} {el : Element}

/-- The prompts are among what shows outside. -/
theorem HostState.prompts_eq_outward (s : HostState) :
    s.prompts = (s.events.filter Event.isOutward).filterMap Event.prompt? := by
  rw [List.filterMap_filter]
  exact congrArg (List.filterMap · s.events) (funext fun e => by cases e <;> rfl)

namespace HostState.UpToLoading

theorem symm (h : s.UpToLoading host t) : t.UpToLoading host s :=
  ⟨h.dataModel.symm, h.log.symm, h.holdings.symm, fun uri => (h.moduleFor uri).symm, h.outward.symm⟩

theorem trans (h : s.UpToLoading host t) (h' : t.UpToLoading host u) : s.UpToLoading host u :=
  ⟨h.dataModel.trans h'.dataModel, h.log.trans h'.log, h.holdings.trans h'.holdings,
    fun uri => (h.moduleFor uri).trans (h'.moduleFor uri), h.outward.trans h'.outward⟩

/-- A session that has been prepared differs by what has been loaded. -/
theorem of_prepares (h : s.Prepares host t) : t.UpToLoading host s := by
  refine ⟨h.dataModel, h.log, h.holdings, h.moduleFor, ?_⟩
  obtain ⟨new, hnew, hkind⟩ := h.events
  have hinward : new.filter Event.isOutward = [] := by
    refine List.filter_eq_nil_iff.2 fun e he => ?_
    rcases hkind e he with hloading | ⟨uri, serial, rfl⟩
    · cases e <;> simp_all [Event.isLoading, Event.isOutward]
    · simp [Event.isOutward]
  rw [hnew, List.filter_append, hinward, List.append_nil]

/-- States that differ by what has been loaded agree in all that actions read. -/
theorem carries (host : Host) : Carries none (UpToLoading host) where
  dataModel h := h.dataModel
  holdings h := h.holdings
  addLog h label message := ⟨h.dataModel, congrArg (·.push ⟨label, message⟩) h.log, h.holdings,
    h.moduleFor, h.outward⟩
  note h e := by
    refine ⟨h.dataModel, h.log, h.holdings, h.moduleFor, ?_⟩
    rw [events_note, events_note, List.filter_append, List.filter_append, h.outward]
  updateModule := nofun
  setDataModel h _ := ⟨rfl, h.log, h.holdings, h.moduleFor, h.outward⟩
  setHoldings h _ := ⟨h.dataModel, h.log, rfl, h.moduleFor, h.outward⟩

theorem prompts (h : s.UpToLoading host t) : s.prompts = t.prompts := by
  rw [prompts_eq_outward, prompts_eq_outward, h.outward]

end HostState.UpToLoading

/-- A module of `agent` that is yet to be loaded has recorded nothing. -/
theorem HostState.AllBuiltIn.schemas_eq_moduleFor
    (hreg : host.registry = .ofBuiltIn store input sink) (hs : s.AllBuiltIn store sink) :
    s.schemas = (host.moduleFor s agentUri).elim .empty Module.schemas := by
  rw [hs.schemas_eq_find?, Host.moduleFor]
  cases s.modules.find? agentUri with
  | some l => rfl
  | none =>
    rw [hreg, Registry.get?_ofBuiltIn, if_neg (by decide), if_neg (by decide), if_pos rfl]
    rfl

/-- States that differ by what has been loaded have the same schemas: a module that has just been
loaded has none. -/
theorem HostState.UpToLoading.schemas (hreg : host.registry = .ofBuiltIn store input sink)
    (hs : s.AllBuiltIn store sink) (ht : t.AllBuiltIn store sink) (h : s.UpToLoading host t) :
    s.schemas = t.schemas := by
  rw [hs.schemas_eq_moduleFor hreg, ht.schemas_eq_moduleFor hreg, h.moduleFor]

/-! ### Modules at work -/

/-- Two such states in which a namespace has its module. -/
structure HostState.AtWork (host : Host) (uri : String) (s t : HostState) : Prop where
  upToLoading : s.UpToLoading host t
  left : ∃ l, s.modules.find? uri = some l
  right : ∃ l, t.modules.find? uri = some l

namespace HostState.AtWork

theorem updateModule (h : s.AtWork host uri t) (f : Module → Module) :
    (s.updateModule uri f).AtWork host uri (t.updateModule uri f) := by
  obtain ⟨hst, ⟨l, hl⟩, m, hm⟩ := h
  have hsame : l.mod = m.mod := by
    have hmod := hst.moduleFor uri
    rw [Host.moduleFor, Host.moduleFor, hl, hm] at hmod
    exact Option.some.inj hmod
  refine ⟨⟨hst.dataModel, hst.log, hst.holdings, fun other => ?_, hst.outward⟩, ?_, ?_⟩
  · rw [Host.moduleFor_updateModule hl, Host.moduleFor_updateModule hm, hsame, hst.moduleFor other]
  · exact ⟨_, by rw [find?_updateModule_self, hl]; rfl⟩
  · exact ⟨_, by rw [find?_updateModule_self, hm]; rfl⟩

theorem carries (host : Host) (uri : String) : Carries (some uri) (AtWork host uri) where
  dataModel h := h.upToLoading.dataModel
  holdings h := h.upToLoading.holdings
  addLog h label message :=
    ⟨(UpToLoading.carries host).addLog h.upToLoading label message, h.left, h.right⟩
  note h e := ⟨(UpToLoading.carries host).note h.upToLoading e, h.left, h.right⟩
  updateModule := by
    rintro s t h _ ⟨⟩ f
    exact h.updateModule f
  setDataModel h m := ⟨(UpToLoading.carries host).setDataModel h.upToLoading m, h.left, h.right⟩
  setHoldings h holdings :=
    ⟨(UpToLoading.carries host).setHoldings h.upToLoading holdings, h.left, h.right⟩

end HostState.AtWork

/-- What a module does with an element is steady, unless a script decides about it. -/
theorem Module.react_steady {mod : Module} (hplain : mod.isScripted = false) (reenter : Reenter)
    (uri : String) (el : Option Element) : (mod.react reenter uri el).Steady (some uri) := by
  have haction : ∀ {x : ActionM Unit}, x.run.Steady (some uri) →
      (Reaction.ofAction x).Steady (some uri) :=
    fun hx => hx.bind fun _ => .pure _
  cases el with
  | none => cases mod with
    | agent | env | stdin => exact .pure _
    | scripted => cases hplain
  | some el => cases mod with
    | agent schemas =>
      rw [react_agent, Agent.react]
      split
      · exact (Agent.announce_writes uri el).steady.bind fun _ => .pure _
      · split
        · exact (Agent.noteTransition_writes uri el).steady.bind fun _ => .pure _
        · exact .pure _
    | env store =>
      rw [react_env, Env.react]
      split
      · exact haction (Env.getEntry_steady _ store el)
      · split
        · exact haction (Env.setEntry_steady _ uri store el)
        · exact .pure _
    | stdin input sink =>
      rw [react_stdin, Stdin.react]
      split
      · exact haction (Stdin.read_steady uri input sink el)
      · exact .pure _
    | scripted => cases hplain

/-- A module that is not scripted never fails without handling the element. -/
theorem Module.react_ne_failed {mod : Module} (hplain : mod.isScripted = false) (reenter : Reenter)
    (uri : String) (el : Element) (s : HostState) (e : ActionError) :
    ((mod.react reenter uri (some el)).runFrom s).1 ≠ .failed e := by
  intro h
  cases mod with
  | agent schemas =>
    rw [react_agent, Agent.runFrom_react] at h
    repeat' split at h
    all_goals cases h
  | env store =>
    rw [react_env, Env.react] at h
    repeat' split at h
    all_goals cases h
  | stdin input sink =>
    rw [react_stdin, Stdin.react] at h
    split at h <;> cases h
  | scripted => cases hplain

/-! ### Executing elements up to loading -/

/-- No element of a tree that is outside any namespace has a name that `agent` knows. -/
def Element.NeedsNoOffer (el : Element) : Prop :=
  ∀ x ∈ el.preorder, x.namespaceUri = none →
    Text.eqIgnoringAsciiCase x.localName "agent" = false ∧
      Text.eqIgnoringAsciiCase x.localName "transition" = false

theorem Element.NeedsNoOffer.children (h : el.NeedsNoOffer) :
    ∀ c ∈ el.children, c.NeedsNoOffer := by
  intro c hc x hx
  refine h x (el.preorderAll_children_subset ?_)
  exact mem_preorderAll.2 ⟨c, hc, hx⟩

/-- Such an element is declined, whether there is a module to offer it to or not. -/
theorem Element.NeedsNoOffer.actions_ne (h : el.NeedsNoOffer) (hns : el.namespaceUri = none) :
    el.action ≠ "agent" ∧ el.action ≠ "transition" := by
  obtain ⟨hagent, htransition⟩ := h el el.self_mem_preorder hns
  constructor
  · rw [action, ne_eq, Text.lowercase_eq_iff _ rfl, hagent]
    nofun
  · rw [action, ne_eq, Text.lowercase_eq_iff _ rfl, htransition]
    nofun

namespace Host

/-- An element outside any namespace that `agent` does not know is declined. -/
theorem reaction_declined (host : Host) (reenter : Reenter) (hs : s.Plain store sink)
    (hns : el.namespaceUri = none) (hel : el.NeedsNoOffer) :
    ∃ t, (host.reaction reenter el).run.runFrom s = (.ok .declined, t) ∧ s.Prepares host t := by
  obtain ⟨hagent, htransition⟩ := hel.actions_ne hns
  cases hl : s.modules.find? agentUri with
  | none => exact ⟨s, runFrom_reaction_unqualified hs.isOpen hs.builtIn hl hns, .refl host s⟩
  | some l =>
    refine ⟨_, ?_, .asked host s agentUri l.serial⟩
    rw [runFrom_reaction_agent hs.isOpen hs.builtIn hl (.inr hns), Agent.runFrom_react, if_neg hagent,
      if_neg htransition]

/-- The session reacts in the same way, whichever modules are loaded yet. -/
theorem runFrom_reaction_upToLoading (hreg : host.registry = .ofBuiltIn store input sink)
    (reenter : Reenter) (hs : s.Plain store sink) (ht : t.Plain store sink)
    (hst : s.UpToLoading host t) (hel : el.NeedsNoOffer) :
    ∃ r s' t', (host.reaction reenter el).run.runFrom s = (.ok r, s') ∧
      (host.reaction reenter el).run.runFrom t = (.ok r, t') ∧ (∀ e, r ≠ .failed e) ∧
      s'.UpToLoading host t' := by
  cases hns : el.namespaceUri with
  | none =>
    obtain ⟨s', hs', hprepares⟩ := reaction_declined host reenter hs hns hel
    obtain ⟨t', ht', hprepares'⟩ := reaction_declined host reenter ht hns hel
    exact ⟨.declined, s', t', hs', ht', nofun,
      (HostState.UpToLoading.of_prepares hprepares).trans
        (hst.trans (HostState.UpToLoading.of_prepares hprepares').symm)⟩
  | some uri =>
    cases hget : host.registry.get? uri with
    | none => exact ⟨.declined, s, t,
        runFrom_reaction_of_get?_none hreg hs.isOpen hs.builtIn hns hget,
        runFrom_reaction_of_get?_none hreg ht.isOpen ht.builtIn hns hget, nofun, hst⟩
    | some v =>
      have hget' : (Registry.ofBuiltIn store input sink).get? uri = some v := hreg ▸ hget
      obtain ⟨made, hmade⟩ := Registry.module?_ofBuiltIn hget'
      have huri := (Module.BuiltIn.of_makes hget' (Vocabulary.makes_of_module? hmade)).registered
      obtain ⟨mod, hmod, hbuiltIn⟩ := hs.builtIn.moduleFor hreg huri
      have hplain := hbuiltIn.isScripted_eq
      obtain ⟨s', serial, hprepares, -, hl, hroute⟩ :=
        runFrom_route_of_moduleFor reenter hs.isOpen hmod el
      obtain ⟨t', serial', hprepares', -, hl', hroute'⟩ :=
        runFrom_route_of_moduleFor reenter ht.isOpen (hst.moduleFor uri ▸ hmod) el
      have hwork : s'.AtWork host uri t' :=
        ⟨(HostState.UpToLoading.of_prepares hprepares).trans
          (hst.trans (HostState.UpToLoading.of_prepares hprepares').symm), ⟨_, hl⟩, ⟨_, hl'⟩⟩
      obtain ⟨hanswer, hleft⟩ := Module.react_steady hplain reenter uri (some el) _
        (HostState.AtWork.carries host uri) s' t' hwork
      have hnot := Module.react_ne_failed hplain reenter uri el s'
      rw [reaction, hns]
      dsimp only
      rw [hroute, hroute']
      generalize (mod.react reenter uri (some el)).runFrom s' = x at hanswer hleft hnot ⊢
      generalize (mod.react reenter uri (some el)).runFrom t' = y at hanswer hleft ⊢
      obtain ⟨r, u⟩ := x
      obtain ⟨_, u'⟩ := y
      cases hanswer
      refine ⟨r, u, u', ?_, ?_, hnot, hleft.upToLoading⟩
      · cases r with
        | failed e => exact absurd rfl (hnot e)
        | declined | handled | children => rfl
      · cases r with
        | failed e => exact absurd rfl (hnot e)
        | declined | handled | children => rfl

/-- Elements that need no offer are tracked up to loading. -/
theorem tracks_upToLoading (hreg : host.registry = .ofBuiltIn store input sink) :
    Tracks host host host.onBehalf host.onBehalf
      (HostState.PlainPair store sink (HostState.UpToLoading host))
      (fun el el' => el = el' ∧ el.NeedsNoOffer) (· = ·) where
  children := by
    rintro el _ ⟨rfl, hel⟩
    exact List.forall₂_same.2 fun c hc => ⟨rfl, hel.children c hc⟩
  assigns h := by rw [h.1]
  logs h := by rw [h.1]
  transitions h := by rw [h.1]
  reaction := by
    rintro el _ ⟨rfl, hel⟩
    refine .of_runs hreg hreg (reaction_runs onBehalf_runs el) (reaction_runs onBehalf_runs el) ?_
    intro s t hst
    obtain ⟨r, s', t', hs', ht', hnot, hleft⟩ :=
      runFrom_reaction_upToLoading hreg host.onBehalf hst.left hst.right hst.related hel
    rw [hs', ht']
    refine ⟨.ok ?_, hleft⟩
    refine .of_ne_failed (fun _ => rfl) ?_ hnot
    intro wrap c c' e e' hc he
    rw [hc.1, he]
  assign := by
    rintro el _ ⟨rfl, -⟩
    refine .of_runs hreg hreg (assignElement_runs el) (assignElement_runs el) ?_
    intro s t hst
    exact (assignElement_steady none el).follows (HostState.UpToLoading.carries host) (fun _ => rfl) s t
      hst.related
  log := by
    rintro el _ ⟨rfl, -⟩
    refine .of_runs hreg hreg (logElement_runs el) (logElement_runs el) ?_
    intro s t hst
    exact (logElement_steady none el).follows (HostState.UpToLoading.carries host) (fun _ => rfl) s t
      hst.related

/-- **Preloading does not show.** Take an open session of built-in modules, such as a fresh one, and a
document in which no element outside any namespace has the name `agent` or `transition`, in letters of
any case. Running the document, which loads what it uses before it executes the root, and executing
the root at once end alike: with the same success or failure, and in states that differ at most in
which modules have been loaded and asked. So variables, stores and log are the same, and so are the
prompts, the input that was consumed and that is left, and the schemas of events. -/
theorem run_execute (host : Host) (store : Store) (input : InputStream) (sink : PromptSink)
    (hreg : host.registry = .ofBuiltIn store input sink)
    (hroot : ∀ el ∈ host.document.root.preorder, el.namespaceUri = none →
      Text.eqIgnoringAsciiCase el.localName "agent" = false ∧
        Text.eqIgnoringAsciiCase el.localName "transition" = false)
    (s : HostState) (hopen : s.closed = false) (hbuiltIn : s.AllBuiltIn store sink) :
    let ran := host.run.run.runFrom s
    let executed := (host.execute host.document.root).run.runFrom s
    ran.1 = executed.1.mapError .action ∧ ran.2.UpToLoading host executed.2 ∧
      ran.2.prompts = executed.2.prompts ∧ ran.2.schemas = executed.2.schemas := by
  intro ran executed
  have hs : s.Plain store sink := ⟨hopen, hbuiltIn⟩
  obtain ⟨t, hpreload, hloads, -⟩ := host.preload_loads hreg hopen
  have ht : t.Plain store sink := ⟨hloads.closed.trans hopen, hbuiltIn.of_loads hreg hloads⟩
  have hts : t.UpToLoading host s := .of_prepares (.of_loads hloads)
  obtain ⟨hanswer, hleft, hright, hrelated⟩ := (tracks_upToLoading hreg).executeWith_follows
    host.document.root host.document.root ⟨rfl, hroot⟩ t s ⟨ht, hs, hts⟩
  have hran : ran = (((host.execute host.document.root).run.runFrom t).1.mapError .action,
      ((host.execute host.document.root).run.runFrom t).2) := by
    show host.run.run.runFrom s = _
    rw [run, HostM.runFrom_run_bind, hpreload]
    dsimp only
    rw [HostM.runFrom_run_adapt]
  rw [hran]
  exact ⟨congrArg (Except.mapError HostError.action) hanswer.eq_of_eq, hrelated, hrelated.prompts,
    hrelated.schemas hreg hleft.builtIn hright.builtIn⟩

end Host

/-- A document that uses all three namespaces, one after the other. -/
def Element.askingState : Element :=
  ⟨"state", none, [],
    [.settingHome, ⟨"a:transition", some agentUri, [("event", "go"), ("event:schema", "[]")], []⟩,
      .askingName]⟩

/-- A host for it. -/
def Host.lazily : Host :=
  .ofDocument (.ofBuiltIn .memory ⟨[97, 10], none⟩ .working) ⟨.askingState, none⟩

/-- The modules are loaded one by one when they are first needed, or all at the beginning. -/
theorem Host.run_execute_lazily :
    lazily.registry = .ofBuiltIn .memory ⟨[97, 10], none⟩ .working ∧
      (∀ el ∈ lazily.document.root.preorder, el.namespaceUri = none →
        Text.eqIgnoringAsciiCase el.localName "agent" = false ∧
          Text.eqIgnoringAsciiCase el.localName "transition" = false) ∧
      (HostState.fresh (some .empty) default).closed = false ∧
      (HostState.fresh (some .empty) default).AllBuiltIn .memory .working ∧
      (lazily.run.run.runFrom (.fresh (some .empty) default)).1 = .ok () ∧
      (lazily.run.run.runFrom (.fresh (some .empty) default)).2.prompts = ["name? "] := by
  have hroot : ∀ el ∈ lazily.document.root.preorder, el.namespaceUri = none →
      Text.eqIgnoringAsciiCase el.localName "agent" = false ∧
        Text.eqIgnoringAsciiCase el.localName "transition" = false := by
    decide
  have hbuiltIn : (HostState.fresh (some .empty) default).AllBuiltIn .memory .working := nofun
  obtain ⟨hresult, -, hprompts, -⟩ := run_execute lazily .memory ⟨[97, 10], none⟩ .working rfl hroot
    (.fresh (some .empty) default) rfl hbuiltIn
  exact ⟨rfl, hroot, rfl, hbuiltIn, hresult, hprompts⟩

end MarkupActions
