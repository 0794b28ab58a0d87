import MarkupActions.Proofs.Host.Flat

/-!
# MarkupActions.Proofs.Host.Wrapping

**How a failure reads from outside.** When running a document fails at an element, the failure is
that of the element, wrapped once by every agent around it: the outermost wrapping is that of the
outermost agent, and each names the child on the way down. Elements that are processed by default
pass a failure on as it is, wherever they stand among the agents.

Running a document has been shown to be doing its located actions in turn
(`MarkupActions.Proofs.Host.Flat`). So it fails where the first of them fails
(`runFrom_performLocated_error_iff`), and how that failure reads depends on its path alone
(`wrapped_wrapAlong`).
-/

namespace MarkupActions

variable {host : Host} {store : Store} {input : InputStream} {sink : PromptSink}
  {agentLoaded : Bool} {s t : HostState} {el x : Element} {p : Located}
  {path : List (Element × Element)} {a : Action}

/-! ### Where actions come from -/

/-- The element that an action is of. -/
def Action.element : Action → Element
  | .get el | .set el | .read el | .header el | .noteSchema el | .assign el | .log el => el

/-- Down a path, from element to child, to an element. -/
inductive Element.Descent : Element → List (Element × Element) → Element → Prop where
  | here (el : Element) : Descent el [] el
  | down {el child x : Element} {path : List (Element × Element)} (h : child ∈ el.children)
      (rest : Descent child path x) : Descent el ((el, child) :: path) x

/-- The plan of an element has actions for that element only. -/
theorem Element.element_of_mem_plan (h : a ∈ (el.plan agentLoaded).1) : a.element = el := by
  unfold plan defaultPlan at h
  repeat' split at h
  all_goals
    first
    | obtain rfl := List.mem_singleton.1 h; rfl
    | exact absurd h List.not_mem_nil

mutual

/-- The path of a located action leads to its element. -/
theorem located_descent : ∀ (el : Element) (p : Located), p ∈ located agentLoaded el →
    el.Descent p.path p.action.element
  | ⟨tag, ns, attributes, children⟩, p, h => by
      rw [located, List.mem_append] at h
      rcases h with hown | hbelow
      · obtain ⟨a, ha, rfl⟩ := List.mem_map.1 hown
        have hel := Element.element_of_mem_plan ha
        dsimp only
        rw [hel]
        exact .here _
      · split at hbelow
        · exact locatedAll_descent _ children p (fun _ => id) hbelow
        · exact absurd hbelow List.not_mem_nil

theorem locatedAll_descent (el : Element) : ∀ (els : List Element) (p : Located),
    els ⊆ el.children → p ∈ locatedAll agentLoaded el els → el.Descent p.path p.action.element
  | [], p, _, h => by
      rw [locatedAll] at h
      exact absurd h List.not_mem_nil
  | c :: rest, p, hsub, h => by
      rw [locatedAll, List.mem_append] at h
      rcases h with hfirst | hrest
      · obtain ⟨q, hq, rfl⟩ := List.mem_map.1 hfirst
        exact .down (hsub List.mem_cons_self) (located_descent c q hq)
      · exact locatedAll_descent el rest p (List.subset_of_cons_subset hsub) hrest

end

/-! ### Where doing them stops -/

/-- Done in turn, actions succeed up to one, which fails. -/
inductive FailsAt : List Located → HostState → Located → ActionError → HostState → Prop where
  | here {p : Located} {rest : List Located} {e : ActionError} {s t : HostState}
      (h : p.action.perform.run.runFrom s = (.error e, t)) : FailsAt (p :: rest) s p e t
  | later {first p : Located} {rest : List Located} {e : ActionError} {s t u : HostState}
      (h : first.action.perform.run.runFrom s = (.ok (), t)) (later : FailsAt rest t p e u) :
      FailsAt (first :: rest) s p e u

namespace FailsAt

variable {ps : List Located} {e : ActionError}

/-- An action that fails is in the list. -/
theorem mem (h : FailsAt ps s p e t) : p ∈ ps := by
  induction h with
  | here => exact List.mem_cons_self
  | later _ _ ih => exact List.mem_cons_of_mem _ ih

/-- An action that fails does so from the state in which it is performed. -/
theorem fails (h : FailsAt ps s p e t) : ∃ u, p.action.perform.run.runFrom u = (.error e, t) := by
  induction h with
  | here h => exact ⟨_, h⟩
  | later _ _ ih => exact ih

end FailsAt

/-- Doing located actions fails where one of them fails, in the words that its path adds. -/
theorem runFrom_performLocated_error_iff {ps : List Located} {failure : ActionError} :
    (performLocated agentLoaded ps).run.runFrom s = (.error failure, t) ↔
      ∃ p e, FailsAt ps s p e t ∧ failure = wrapAlong agentLoaded p.path e := by
  induction ps generalizing s with
  | nil =>
    constructor
    · intro h
      rw [performLocated] at h
      cases h
    · rintro ⟨p, e, h, -⟩
      cases h
  | cons first rest ih =>
    rw [runFrom_performLocated_cons]
    rcases hfirst : first.action.perform.run.runFrom s with ⟨e | _, u⟩
    · constructor
      · intro h
        cases h
        exact ⟨first, e, .here hfirst, rfl⟩
      · rintro ⟨p, e', hfails, rfl⟩
        cases hfails with
        | here h =>
          cases hfirst.symm.trans h
          rfl
        | later h => cases hfirst.symm.trans h
    · refine ih.trans ?_
      constructor
      · rintro ⟨p, e, hfails, hfailure⟩
        exact ⟨p, e, .later hfirst hfails, hfailure⟩
      · rintro ⟨p, e, hfails, hfailure⟩
        cases hfails with
        | here h => cases hfirst.symm.trans h
        | later h hfails =>
          cases hfirst.symm.trans h
          exact ⟨p, e, hfails, hfailure⟩

/-- What announces an agent or notes a schema does not fail. -/
theorem Action.eq_of_fails {e : ActionError} (h : a.perform.run.runFrom s = (.error e, t)) :
    a ∈ [.assign a.element, .log a.element, .get a.element, .set a.element, .read a.element] := by
  cases a with
  | header | noteSchema => cases h
  | get | set | read | assign | log => simp [element]

/-! ### How a failure reads -/

/-- What an agent makes of the failure of a child. -/
structure ActionError.Delegated (agent child : Element) (inner outer : ActionError) : Prop where
  kind : outer.kind = .delegatedChild
  event : outer.event = executionErrorEvent
  message : outer.message = "Failed to execute agent child element: " ++ inner.message
  element : outer.dataString? "element" = some "agent"
  child : outer.dataString? "child" = some child.tag
  datamodel : outer.dataString? "datamodel" = some ((agent.attribute? "datamodel").getD "")
  cause : outer.inner? = some inner

/-- One failure is another, wrapped once for every agent of a list, outermost first, each with the
child that the failure came from. -/
inductive ActionError.Wrapped : List (Element × Element) → ActionError → ActionError → Prop where
  | own (e : ActionError) : Wrapped [] e e
  | byAgent {agent child : Element} {path : List (Element × Element)}
      {e inner outer : ActionError} (h : Delegated agent child inner outer)
      (rest : Wrapped path e inner) : Wrapped ((agent, child) :: path) e outer

/-- An agent reports the failure of a child with the child, itself and the data model. -/
theorem Agent.delegated_childFailure (agent child : Element) (e : ActionError) :
    ActionError.Delegated agent child e (childFailure agent child e) where
  kind := rfl
  event := rfl
  message := rfl
  element := by
    simp [childFailure, ActionError.dataString?, ActionError.because, ActionError.withData,
      ActionError.of, Dict.find?_insert, Value.asString?]
  child := by
    simp [childFailure, ActionError.dataString?, ActionError.because, ActionError.withData,
      ActionError.of, Dict.find?_insert, Value.asString?]
  datamodel := by
    simp [childFailure, ActionError.dataString?, ActionError.because, ActionError.withData,
      Value.asString?, Element.attributeD]
  cause := ActionError.inner?_because _ _

/-- On the way out of a tree the agents wrap a failure, and no other element does. -/
theorem wrapped_wrapAlong (agentLoaded : Bool) (path : List (Element × Element))
    (e : ActionError) :
    ActionError.Wrapped (path.filter (·.1.delegates agentLoaded)) e
      (wrapAlong agentLoaded path e) := by
  induction path with
  | nil => exact .own e
  | cons step path ih =>
    obtain ⟨around, child⟩ := step
    rw [List.filter_cons, wrapAlong, Element.wrap]
    cases around.delegates agentLoaded with
    | true => exact .byAgent (Agent.delegated_childFailure around child _) ih
    | false => exact ih

/-! ### Running a document -/

/-- What a document uses is loaded without a failure. -/
theorem Host.preload_loads (hreg : host.registry = .ofBuiltIn store input sink)
    (hopen : s.closed = false) :
    ∃ t, (host.preload host.onBehalf).run.runFrom s = (.ok (), t) ∧ s.Loads host t ∧
      ∀ uri ∈ host.usedUris, ∃ l, t.modules.find? uri = some l := by
  refine loadAll_loads host.onBehalf hopen ?_
  intro uri huri
  obtain ⟨v, hv⟩ := Option.isSome_iff_exists.1 (mem_usedUris.1 huri).2
  obtain ⟨mod, hmod⟩ := Registry.module?_ofBuiltIn (hreg ▸ hv)
  exact ⟨v, mod, hv, hmod⟩

/-- Once it is loaded, everything is ready for it. -/
theorem Host.preload_ready (hreg : host.registry = .ofBuiltIn store input sink)
    (hopen : s.closed = false) (hbuiltIn : s.AllBuiltIn store sink) :
    ∃ t, (host.preload host.onBehalf).run.runFrom s = (.ok (), t) ∧
      Ready store sink (t.modules.find? agentUri).isSome host.document.root.preorder t := by
  obtain ⟨t, hpreload, hloads, hloaded⟩ := host.preload_loads hreg hopen
  refine ⟨t, hpreload, hloads.closed.trans hopen, hbuiltIn.of_loads hreg hloads, rfl, ?_⟩
  intro el hel uri hns huri
  refine hloaded uri (mem_usedUris.2 ⟨⟨el, hel, hns⟩, ?_⟩)
  rwa [hreg, Registry.contains_ofBuiltIn]

/-- Running a document fails as its located actions do, done in turn once what it uses is loaded. -/
theorem Host.run_eq (hreg : host.registry = .ofBuiltIn store input sink)
    (hopen : s.closed = false) (hbuiltIn : s.AllBuiltIn store sink) :
    let loaded := ((host.preload host.onBehalf).run.runFrom s).2
    let agentLoaded := (loaded.modules.find? agentUri).isSome
    (host.run.run.runFrom s).1 = ((performLocated agentLoaded
      (located agentLoaded host.document.root)).run.runFrom loaded).1.mapError .action := by
  obtain ⟨t, hpreload, hready⟩ := preload_ready hreg hopen hbuiltIn
  rw [hpreload, run, HostM.runFrom_run_bind, hpreload]
  dsimp only
  rw [HostM.runFrom_run_adapt, execute]
  have hmatches := executeWith_matches hreg onBehalf_runs host.document.root t t hready (.refl t)
  rw [hmatches.answer]

/-- **Every agent around a failing element wraps its failure.** In an open session of built-in
modules, running a document loads what it uses and then does its actions in turn; it fails if and
only if one of these fails. The failure is then that of the action, wrapped once for each agent
around its element and outermost first, while what is processed by default leaves no trace. -/
theorem Host.run_wraps_failure (host : Host) (store : Store) (input : InputStream)
    (sink : PromptSink) (hreg : host.registry = .ofBuiltIn store input sink) (s : HostState)
    (hopen : s.closed = false) (hbuiltIn : s.AllBuiltIn store sink) :
    let loaded := ((host.preload host.onBehalf).run.runFrom s).2
    let agentLoaded := (loaded.modules.find? agentUri).isSome
    let root := host.document.root
    let result := (host.run.run.runFrom s).1
    (∀ p e t, FailsAt (located agentLoaded root) loaded p e t →
      ∃ x outer, result = .error (.action outer) ∧ root.Descent p.path x ∧
        p.action ∈ [.assign x, .log x, .get x, .set x, .read x] ∧
        ActionError.Wrapped (p.path.filter (·.1.delegates agentLoaded)) e outer) ∧
    ∀ failure, result = .error failure → ∃ p e t, FailsAt (located agentLoaded root) loaded p e t := by
  intro loaded agentLoaded root result
  have hresult : result = _ := run_eq hreg hopen hbuiltIn
  constructor
  · intro p e t hfails
    obtain ⟨u, haction⟩ := hfails.fails
    refine ⟨p.action.element, wrapAlong agentLoaded p.path e, ?_, located_descent root p hfails.mem,
      Action.eq_of_fails haction, wrapped_wrapAlong agentLoaded p.path e⟩
    rw [hresult, runFrom_performLocated_error_iff.2 ⟨p, e, hfails, rfl⟩]
    rfl
  · intro failure hfailure
    rw [hresult] at hfailure
    rcases hdone : (performLocated agentLoaded (located agentLoaded root)).run.runFrom loaded with
      ⟨e | _, t⟩
    · obtain ⟨p, e, hfails, -⟩ := runFrom_performLocated_error_iff.1 hdone
      exact ⟨p, e, t, hfails⟩
    · rw [hdone] at hfailure
      cases hfailure

/-- An assignment that does not say where to. -/
def Element.placeless : Element := ⟨"assign", none, [("expr", "1")], []⟩

/-- An agent without a data model, around it. -/
def Element.plainAgent : Element := ⟨"agent", none, [], [.placeless]⟩

/-- A state around it. -/
def Element.plainState : Element := ⟨"state", none, [], [.plainAgent]⟩

/-- An agent in its namespace, around both. -/
def Element.declaringAgent : Element :=
  ⟨"a:agent", some agentUri, [("datamodel", "ecmascript")], [.plainState]⟩

/-- A host for it. -/
def Host.declaring : Host :=
  .ofDocument (.ofBuiltIn .memory ⟨[], none⟩ .working) ⟨.declaringAgent, none⟩

/-- The failure of the assignment is wrapped by the agents, and not by the state between them. -/
theorem Host.run_wraps_failure_twice :
    declaring.registry = .ofBuiltIn .memory ⟨[], none⟩ .working ∧
      (HostState.fresh (some .empty) default).closed = false ∧
      (HostState.fresh (some .empty) default).AllBuiltIn .memory .working ∧
      ∃ e outer,
        (declaring.run.run.runFrom (.fresh (some .empty) default)).1 = .error (.action outer) ∧
        e.kind = .missingParameter ∧
        ActionError.Wrapped [(.declaringAgent, .plainState), (.plainAgent, .placeless)] e outer := by
  have hbuiltIn : (HostState.fresh (some .empty) default).AllBuiltIn .memory .working := nofun
  have hpreload : declaring.preload declaring.onBehalf =
      declaring.loadAll declaring.onBehalf [agentUri] := by
    rw [preload, usedUris, Element.descendants_eq]
    rfl
  have hagent : (((declaring.loadAll declaring.onBehalf [agentUri]).run.runFrom
      (.fresh (some .empty) default)).2.modules.find? agentUri).isSome = true := rfl
  have hlocated : located true .declaringAgent =
      [⟨[], .header .declaringAgent⟩,
        ⟨[(.declaringAgent, .plainState), (.plainState, .plainAgent)], .header .plainAgent⟩,
        ⟨[(.declaringAgent, .plainState), (.plainState, .plainAgent), (.plainAgent, .placeless)],
          .assign .placeless⟩] := rfl
  obtain ⟨hwraps, -⟩ := run_wraps_failure declaring .memory ⟨[], none⟩ .working rfl
    (.fresh (some .empty) default) rfl hbuiltIn
  rw [hpreload, hagent, show declaring.document.root = .declaringAgent from rfl, hlocated] at hwraps
  obtain ⟨x, outer, hresult, -, -, hwrapped⟩ :=
    hwraps _ _ _ (.later rfl (.later rfl (.here rfl)))
  exact ⟨rfl, rfl, hbuiltIn, _, outer, hresult, rfl, hwrapped⟩

end MarkupActions
