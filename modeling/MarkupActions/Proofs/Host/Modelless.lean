import MarkupActions.Proofs.Host.Invariant

/-!
# MarkupActions.Proofs.Host.Modelless

**Without a data model nothing happens outside.** Each action asks for the data model at a point of
its own: those of `env` and `stdin` at once, `assign` after its location, `log` for the sake of its
expression only. None has touched the world by then. So whatever is done with a host without a data
model, no entry is stored, no input is consumed, and no prompt is shown (`HostState.Untouched`); and
its document runs to the end just if it comes to nothing that needs a data model
(`Host.idle_without_dataModel`).
-/

namespace MarkupActions

variable {host : Host} {store : Store} {input : InputStream} {sink : PromptSink}
  {holdings : Holdings} {s t : HostState} {uri : String}

/-! ### What is asked for without a data model -/

/-- Without a data model `get` asks for nothing; it fails. The same holds of `set` and `read`. -/
theorem Env.getRequest_none (el : Element) : ∃ e, getRequest el none = .error e := ⟨_, rfl⟩

theorem Env.setRequest_none (el : Element) : ∃ e, setRequest el none = .error e := ⟨_, rfl⟩

theorem Stdin.request_none (el : Element) : ∃ e, request el none = .error e := ⟨_, rfl⟩

/-- An expression fails without a data model, but none at all does not. -/
theorem Resolver.exprValue?_none (el : Element) (action : String) :
    (el.attributeD "expr" = "" → (el.resolver none action).exprValue? = .ok none) ∧
      (el.attributeD "expr" ≠ "" → ∃ e, (el.resolver none action).exprValue? = .error e) := by
  rw [exprValue?, Element.literal?_untrimmed, Element.attributeD]
  cases el.attribute? "expr" with
  | none => exact ⟨fun _ => rfl, fun h => absurd rfl h⟩
  | some text =>
    by_cases hempty : text = ""
    · subst hempty
      exact ⟨fun _ => rfl, fun h => absurd rfl h⟩
    · rw [Option.filter_some_pos (by simpa using hempty)]
      exact ⟨fun h => absurd h hempty, fun _ => ⟨_, rfl⟩⟩

/-- Nothing can be assigned, be there an expression or not. -/
theorem assignRequest_none (el : Element) : ∃ e, assignRequest el none = .error e := by
  rw [assignRequest]
  cases (el.resolver none "assign").textD assignLocation with
  | error e => exact ⟨e, rfl⟩
  | ok location =>
    obtain ⟨hempty, hnonempty⟩ := Resolver.exprValue?_none el "assign"
    by_cases hexpr : el.attributeD "expr" = ""
    · exact ⟨_, by rw [hempty hexpr]; rfl⟩
    · obtain ⟨e, he⟩ := hnonempty hexpr
      exact ⟨e, by rw [he]; rfl⟩

/-- A log line needs a data model for its expression only. -/
theorem logRequest_none (el : Element) :
    (el.attributeD "expr" = "" → ∃ q, logRequest el none = .ok q) ∧
      (el.attributeD "expr" ≠ "" → ∃ e, logRequest el none = .error e) := by
  obtain ⟨hempty, hnonempty⟩ := Resolver.exprValue?_none el "log"
  have hlabel : (el.resolver none "log").textD logLabel =
      .ok (((el.attribute? "label").filter (· ≠ "")).getD "") := by
    rw [Resolver.textD, logLabel, Element.text?_optional]
    rfl
  constructor
  · intro hexpr
    exact ⟨_, by rw [logRequest, hlabel, hempty hexpr]; rfl⟩
  · intro hexpr
    obtain ⟨e, he⟩ := hnonempty hexpr
    exact ⟨e, by rw [logRequest, hlabel, he]; rfl⟩

/-! ### The world outside -/

/-- A host without a data model, where the world outside is as it was in the beginning. -/
structure HostState.Untouched (host : Host) (input : InputStream) (sink : PromptSink)
    (holdings : Holdings) (s : HostState) : Prop where
  dataModel : s.dataModel = none
  holdings : s.holdings = holdings
  /-- Nothing has been stored, consumed or shown. -/
  outward : s.events.filter Event.isOutward = []
  /-- Nothing has been taken off the input. -/
  unread : host.moduleFor s stdinUri = some (.stdin input sink)

namespace HostState.Untouched

variable (h : s.Untouched host input sink holdings)
include h

/-- Loading modules touches nothing outside. -/
theorem upToLoading (hst : s.UpToLoading host t) : t.Untouched host input sink holdings :=
  ⟨hst.dataModel ▸ h.dataModel, hst.holdings ▸ h.holdings, hst.outward ▸ h.outward,
    hst.moduleFor stdinUri ▸ h.unread⟩

theorem addLog (label message : String) :
    (s.addLog label message).Untouched host input sink holdings :=
  ⟨h.dataModel, h.holdings, h.outward, h.unread⟩

/-- Events that are no effects leave everything untouched. -/
theorem note {e : Event} (he : e.isOutward = false) :
    (s.note e).Untouched host input sink holdings := by
  refine ⟨h.dataModel, h.holdings, ?_, h.unread⟩
  rw [events_note, List.filter_append, h.outward, List.nil_append, List.filter_singleton, he]
  rfl

theorem updateModule (hne : uri ≠ stdinUri) (f : Module → Module) :
    (s.updateModule uri f).Untouched host input sink holdings := by
  refine ⟨h.dataModel, h.holdings, h.outward, ?_⟩
  rw [← h.unread, Host.moduleFor, Host.moduleFor, find?_updateModule_of_ne s uri f hne.symm]

/-- Announcing an agent, or noting a schema, does not reach outside. -/
theorem writes (hne : uri ≠ stdinUri) {pairs : List (String × String)} {x : HostM Unit}
    (hx : Agent.Writes uri pairs x) : (x.runFrom s).2.Untouched host input sink holdings := by
  induction hx generalizing s with
  | nothing => exact h
  | line label message => exact h.addLog label message
  | schema event schema => exact h.updateModule hne _
  | andThen _ _ ihx ihy => exact ihy (ihx h)

/-- Without a data model `get` touches nothing. -/
theorem getEntry (el : Element) :
    ((Env.getEntry store el).run.runFrom s).2.Untouched host input sink holdings := by
  obtain ⟨e, he⟩ := Env.getRequest_none el
  rw [Env.runFrom_getEntry, h.dataModel, he]
  exact h

theorem setEntry (el : Element) :
    ((Env.setEntry uri store el).run.runFrom s).2.Untouched host input sink holdings := by
  obtain ⟨e, he⟩ := Env.setRequest_none el
  rw [Env.runFrom_setEntry, h.dataModel, he]
  exact h

theorem read (left : InputStream) (el : Element) :
    ((Stdin.read uri left sink el).run.runFrom s).2.Untouched host input sink holdings := by
  obtain ⟨e, he⟩ := Stdin.request_none el
  rw [Stdin.read, HostM.runFrom_getThe_bind, HostM.runFrom_run_bind, ActionM.runFrom_ofExcept,
    h.dataModel, he]
  exact h

theorem assignElement (el : Element) :
    ((MarkupActions.assignElement el).run.runFrom s).2.Untouched host input sink holdings := by
  obtain ⟨e, he⟩ := assignRequest_none el
  rw [runFrom_assignElement, h.dataModel, he]
  exact h

end HostState.Untouched

/-- Nothing that a host does reaches outside. -/
theorem Host.untouched_invariant (hreg : host.registry = .ofBuiltIn store input sink) :
    host.Invariant store sink (fun _ => True)
      (HostState.Untouched host input sink holdings) where
  ofParent _ := id
  loading hst hu := hu.upToLoading hst
  note he hu := hu.note he
  closing hu := by
    refine ⟨hu.dataModel, hu.holdings, hu.outward, ?_⟩
    rw [moduleFor, Dict.find?_empty, hreg, Registry.get?_ofBuiltIn, if_pos rfl]
    rfl
  addLog label message hu := hu.addLog label message
  writes hx hu := hu.writes (by decide) hx
  getEntry el hu := hu.getEntry el
  setEntry el hu := hu.setEntry el
  read left el hu := hu.read left el
  assign _ _ hu := hu.assignElement _

/-! ### Running a document without a data model -/

namespace Action

/-- Whether an action fails for want of a data model. -/
def needsDataModel : Action → Bool
  | .get _ | .set _ | .read _ | .assign _ => true
  | .log el => el.attributeD "expr" ≠ ""
  | .header _ | .noteSchema _ => false

/-- Whether the module that an action is for is loaded. -/
def Served (s : HostState) : Action → Prop
  | .get _ | .set _ => ∃ serial store, s.modules.find? envUri = some ⟨serial, .env store⟩
  | .read _ => ∃ serial input sink, s.modules.find? stdinUri = some ⟨serial, .stdin input sink⟩
  | _ => True

/-- Only the module of `agent` is of no concern to any action. -/
theorem Served.of_find? {a : Action} (h : a.Served s)
    (hsame : ∀ uri, uri ≠ agentUri → t.modules.find? uri = s.modules.find? uri) : a.Served t := by
  cases a with
  | get | set => rwa [Served, hsame envUri (by decide)]
  | read => rwa [Served, hsame stdinUri (by decide)]
  | header | noteSchema | assign | log => trivial

variable {a : Action} (hmodel : s.dataModel = none)
include hmodel

/-- An action that needs a data model fails without one, and does nothing. -/
theorem perform_error (hneeds : a.needsDataModel = true) (hserved : a.Served s) :
    ∃ e, a.perform.run.runFrom s = (.error e, s) := by
  cases a with
  | get el =>
    obtain ⟨serial, store, hl⟩ := hserved
    obtain ⟨e, he⟩ := Env.getRequest_none el
    exact ⟨e, by rw [runFrom_perform_get hl, Env.runFrom_getEntry, hmodel, he]⟩
  | set el =>
    obtain ⟨serial, store, hl⟩ := hserved
    obtain ⟨e, he⟩ := Env.setRequest_none el
    exact ⟨e, by rw [runFrom_perform_set hl, Env.runFrom_setEntry, hmodel, he]⟩
  | read el =>
    obtain ⟨serial, input, sink, hl⟩ := hserved
    obtain ⟨e, he⟩ := Stdin.request_none el
    refine ⟨e, ?_⟩
    rw [runFrom_perform_read hl, Stdin.read, HostM.runFrom_getThe_bind, HostM.runFrom_run_bind,
      ActionM.runFrom_ofExcept, hmodel, he]
  | assign el =>
    obtain ⟨e, he⟩ := assignRequest_none el
    exact ⟨e, by rw [perform, runFrom_assignElement, hmodel, he]⟩
  | log el =>
    obtain ⟨e, he⟩ := (logRequest_none el).2 (of_decide_eq_true hneeds)
    exact ⟨e, by rw [perform, runFrom_logElement, hmodel, he]⟩
  | header | noteSchema => cases hneeds

/-- Any other action succeeds, and leaves the modules of the others alone. -/
theorem perform_ok (hneeds : a.needsDataModel = false) :
    ∃ t, a.perform.run.runFrom s = (.ok (), t) ∧ t.dataModel = none ∧
      ∀ uri, uri ≠ agentUri → t.modules.find? uri = s.modules.find? uri := by
  cases a with
  | get | set | read | assign => cases hneeds
  | header el =>
    obtain ⟨hsame, hfind⟩ := (Agent.announce_writes agentUri el).leaves s
    exact ⟨_, rfl, hsame.trans hmodel, hfind⟩
  | noteSchema el =>
    obtain ⟨hsame, hfind⟩ := (Agent.noteTransition_writes agentUri el).leaves s
    exact ⟨_, rfl, hsame.trans hmodel, hfind⟩
  | log el =>
    obtain ⟨q, hq⟩ := (logRequest_none el).1 (of_not_not (of_decide_eq_false hneeds))
    refine ⟨s.addLog q.1 q.2, ?_, hmodel, fun _ _ => rfl⟩
    rw [perform, runFrom_logElement, hmodel, hq]

/-- Actions in turn succeed if and only if none of them needs a data model. -/
theorem performAll_isOk_iff (as : List Action) (hserved : ∀ a ∈ as, a.Served s) :
    ((performAll as).run.runFrom s).1.isOk = true ↔ ∀ a ∈ as, a.needsDataModel = false := by
  induction as generalizing s with
  | nil => exact iff_of_true rfl nofun
  | cons a as ih =>
    rw [runFrom_performAll_cons, List.forall_mem_cons]
    cases hneeds : a.needsDataModel with
    | true =>
      obtain ⟨e, he⟩ := perform_error hmodel hneeds (hserved a List.mem_cons_self)
      rw [he]
      exact iff_of_false nofun (fun h => nomatch h.1)
    | false =>
      obtain ⟨t, ht, hmodel', hfind⟩ := perform_ok hmodel hneeds
      rw [ht]
      refine (ih hmodel' fun b hb => ?_).trans ⟨fun h => ⟨rfl, h⟩, And.right⟩
      exact (hserved b (List.mem_cons_of_mem _ hb)).of_find? hfind

end Action

/-- The modules for what an element comes to are loaded. -/
theorem Ready.served_of_mem_plan {agentLoaded : Bool} {els : List Element} {el : Element} {a : Action}
    (hs : Ready store sink agentLoaded els s) (hel : el ∈ els)
    (h : a ∈ (el.plan agentLoaded).1) : a.Served s := by
  have henv : el.namespaceUri = some envUri →
      ∃ serial store, s.modules.find? envUri = some ⟨serial, .env store⟩ := by
    intro hns
    obtain ⟨⟨serial, mod⟩, hl⟩ := hs.loaded el hel envUri hns (.inr (.inl rfl))
    obtain rfl : mod = .env store := (hs.builtIn envUri _ hl).eq_env
    exact ⟨serial, store, hl⟩
  unfold Element.plan at h
  split at h
  · next hget =>
    obtain rfl := List.mem_singleton.1 h
    exact henv hget.1
  · split at h
    · next hset =>
      obtain rfl := List.mem_singleton.1 h
      exact henv hset.1
    · split at h
      · next hread =>
        obtain rfl := List.mem_singleton.1 h
        obtain ⟨⟨serial, mod⟩, hl⟩ := hs.loaded el hel stdinUri hread.1 (.inr (.inr rfl))
        obtain ⟨input, hmod⟩ := (hs.builtIn stdinUri _ hl).eq_stdin
        exact ⟨serial, input, sink, hmod ▸ hl⟩
      · unfold Element.defaultPlan at h
        repeat' split at h
        all_goals
          first
          | obtain rfl := List.mem_singleton.1 h; trivial
          | exact absurd h List.not_mem_nil

mutual

/-- The modules for all that a document comes to are loaded. -/
theorem Ready.served {agentLoaded : Bool} : ∀ (el : Element),
    Ready store sink agentLoaded el.preorder s → ∀ a ∈ flat agentLoaded el, a.Served s
  | ⟨tag, ns, attributes, children⟩, hs, a, ha => by
      rw [flat_eq, List.mem_append] at ha
      rcases ha with hown | hbelow
      · exact hs.served_of_mem_plan (Element.self_mem_preorder _) hown
      · split at hbelow
        · exact Ready.servedAll children (hs.mono
            (Element.preorderAll_children_subset ⟨tag, ns, attributes, children⟩)) a hbelow
        · exact absurd hbelow List.not_mem_nil

theorem Ready.servedAll {agentLoaded : Bool} : ∀ (els : List Element),
    Ready store sink agentLoaded (Element.preorderAll els) s → ∀ a ∈ flatAll agentLoaded els, a.Served s
  | [], _, a, ha => by
      rw [flatAll] at ha
      exact absurd ha List.not_mem_nil
  | c :: rest, hs, a, ha => by
      rw [Element.preorderAll] at hs
      rw [flatAll, List.mem_append] at ha
      rcases ha with hfirst | hrest
      · exact Ready.served c (hs.mono (List.subset_append_left _ _)) a hfirst
      · exact Ready.servedAll rest (hs.mono (List.subset_append_right _ _)) a hrest

end

/-- Without a data model a document runs to the end if and only if it comes to nothing that needs
one. -/
theorem Host.run_isOk_iff (hreg : host.registry = .ofBuiltIn store input sink)
    (hopen : s.closed = false) (hs : s.AllBuiltIn store sink) (hmodel : s.dataModel = none) :
    let loaded := ((host.preload host.onBehalf).run.runFrom s).2
    let agentLoaded := (loaded.modules.find? agentUri).isSome
    (host.run.run.runFrom s).1.isOk = true ↔
      ∀ a ∈ flat agentLoaded host.document.root, a.needsDataModel = false := by
  obtain ⟨t, hpreload, hready⟩ := preload_ready hreg hopen hs
  obtain ⟨u, hpreload', hloads, -⟩ := preload_loads hreg hopen
  cases hpreload.symm.trans hpreload'
  rw [hpreload]
  intro loaded agentLoaded
  have hagrees := executeWith_agrees hreg onBehalf_runs host.document.root t t hready (.refl t)
  have hrun : (host.run.run.runFrom s).1.isOk =
      ((host.execute host.document.root).run.runFrom t).1.isOk := by
    rw [run, HostM.runFrom_run_bind, hpreload]
    dsimp only
    rw [HostM.runFrom_run_adapt]
    cases ((host.execute host.document.root).run.runFrom t).1 <;> rfl
  rw [hrun, execute, hagrees.result]
  exact Action.performAll_isOk_iff (hloads.dataModel.trans hmodel) _
    (hready.served host.document.root)

/-- **Without a data model nothing happens outside.** Take a new host of the built-in vocabularies
without a data model, and ask of it what you like, in any order: run the document, execute, dispatch,
offer or handle any elements, and tear it down. No variable is ever bound, no entry is stored, nothing
is shown, and nothing of the input is consumed. As long as the session is open, running the document
succeeds if and only if, in document order, it comes to no `get` or `set` of an entry, no `read` of a
line, no `assign`, and no `log` with an expression that is not empty. -/
theorem Host.idle_without_dataModel (host : Host) (store : Store) (input : InputStream)
    (sink : PromptSink) (hreg : host.registry = .ofBuiltIn store input sink) (holdings : Holdings)
    (errands : List Errand) :
    let s := ((Errand.performAll host errands).runFrom (.fresh none holdings)).2
    let loaded := ((host.preload host.onBehalf).run.runFrom s).2
    let agentLoaded := (loaded.modules.find? agentUri).isSome
    s.snapshot = .empty ∧ s.Untouched host input sink holdings ∧ s.prompts = [] ∧
      (s.closed = false → ((host.run.run.runFrom s).1.isOk = true ↔
        ∀ a ∈ flat agentLoaded host.document.root, a.needsDataModel = false)) := by
  intro s loaded agentLoaded
  have hfresh : (HostState.fresh none holdings).Untouched host input sink holdings := by
    refine ⟨rfl, rfl, rfl, ?_⟩
    rw [moduleFor, hreg, Registry.get?_ofBuiltIn, if_pos rfl]
    rfl
  have hnone : (HostState.fresh none holdings).AllBuiltIn store sink :=
    fun _ _ hfind => by cases hfind
  obtain ⟨hbuiltIn, huntouched⟩ := Errand.performAll_preserves (untouched_invariant hreg) hreg
    errands (fun _ _ => trivial) hnone hfresh
  refine ⟨?_, huntouched, ?_, fun hopen => run_isOk_iff hreg hopen hbuiltIn huntouched.dataModel⟩
  · rw [HostState.snapshot, huntouched.dataModel]
  · rw [HostState.prompts_eq_outward, huntouched.outward]
    rfl

/-- Asked to run and to read a line beside, a host without a data model does neither. -/
theorem Host.idle_without_dataModel_lazily :
    let errands := [.run, .operation (.call (.execute .askingName)), .operation .unload]
    let s := ((Errand.performAll lazily errands).runFrom (.fresh none default)).2
    lazily.registry = .ofBuiltIn .memory ⟨[97, 10], none⟩ .working ∧
      s.snapshot = .empty ∧ s.prompts = [] ∧
      lazily.moduleFor s stdinUri = some (.stdin ⟨[97, 10], none⟩ .working) := by
  intro errands s
  obtain ⟨hsnapshot, huntouched, hprompts, -⟩ := idle_without_dataModel lazily .memory
    ⟨[97, 10], none⟩ .working rfl default errands
  exact ⟨rfl, hsnapshot, hprompts, huntouched.unread⟩

end MarkupActions
