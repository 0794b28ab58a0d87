import MarkupActions.Proofs.Host.Alike

/-!
# MarkupActions.Proofs.Host.Flat

**A document is a list of actions.** With the built-in vocabularies, what executing an element does
can be read off the tree: some actions of its own, and then, for most elements, those of its
children (`Element.plan`). Executing the element ends as doing these actions in turn does, up to the
first that fails (`execute_flat`): the nesting, the modules that decline and the offers leave no
trace but the record of which module was asked about what.

A failure shows where in the tree its action is, for `agent` words the failures of its children. So
each action is kept with the elements around it (`Located`), and the list of them is followed along
with the tree, from states that agree in everything but that record (`executeWith_matches`).
-/

namespace MarkupActions

/-! ### Actions -/

/-- A single thing that an element of a document does. -/
inductive Action where
  | get (el : Element)
  | set (el : Element)
  | read (el : Element)
  /-- Log what an agent declares, and note the schemas inside it. -/
  | header (el : Element)
  | noteSchema (el : Element)
  | assign (el : Element)
  | log (el : Element)

namespace Action

/-- Do an action. Store and input are those of the loaded modules. -/
def perform : Action → ActionM Unit
  | .get el => do
      match (← getThe HostState).modules.find? envUri with
      | some ⟨_, .env store⟩ => Env.getEntry store el
      | _ => pure ()
  | .set el => do
      match (← getThe HostState).modules.find? envUri with
      | some ⟨_, .env store⟩ => Env.setEntry envUri store el
      | _ => pure ()
  | .read el => do
      match (← getThe HostState).modules.find? stdinUri with
      | some ⟨_, .stdin input sink⟩ => Stdin.read stdinUri input sink el
      | _ => pure ()
  | .header el => liftM (Agent.announce agentUri el)
  | .noteSchema el => liftM (Agent.noteTransition agentUri el)
  | .assign el => assignElement el
  | .log el => logElement el

/-- Do actions in turn up to the first that fails. -/
def performAll : List Action → ActionM Unit
  | [] => pure ()
  | a :: rest => do
      a.perform
      performAll rest

end Action

/-- Whether an element is one for `agent`: it is in that namespace, or in none while the module is
loaded. -/
def Element.isAgents (agentLoaded : Bool) (el : Element) : Bool :=
  el.namespaceUri = some agentUri || (el.namespaceUri.isNone && agentLoaded)

/-- What an element comes to that no module takes, with what its children come to. -/
def defaultActions (el : Element) (below : List Action) : List Action :=
  if el.action = "assign" then [.assign el]
  else if el.action = "log" then [.log el]
  else if el.action = "transition" then []
  else below

mutual

/-- The actions of an element and of everything below it. -/
def flat (agentLoaded : Bool) : Element → List Action
  | ⟨tag, ns, attributes, children⟩ =>
      let el : Element := ⟨tag, ns, attributes, children⟩
      if ns = some envUri ∧ el.action = "get" then [.get el]
      else if ns = some envUri ∧ el.action = "set" then [.set el]
      else if ns = some stdinUri ∧ el.action = "read" then [.read el]
      else if el.isAgents agentLoaded ∧ el.action = "agent" then
        .header el :: flatAll agentLoaded children
      else
        (if el.isAgents agentLoaded ∧ el.action = "transition" then [.noteSchema el] else []) ++
          defaultActions el (flatAll agentLoaded children)

/-- The actions of a list of elements. -/
def flatAll (agentLoaded : Bool) : List Element → List Action
  | [] => []
  | c :: rest => flat agentLoaded c ++ flatAll agentLoaded rest

end

/-! ### Where actions are -/

/-- What an element comes to that no module takes: its own actions, and whether those of its children
follow. -/
def Element.defaultPlan (el : Element) : List Action × Bool :=
  if el.action = "assign" then ([.assign el], false)
  else if el.action = "log" then ([.log el], false)
  else if el.action = "transition" then ([], false)
  else ([], true)

/-- What an element comes to: its own actions, and whether those of its children follow. -/
def Element.plan (agentLoaded : Bool) (el : Element) : List Action × Bool :=
  if el.namespaceUri = some envUri ∧ el.action = "get" then ([.get el], false)
  else if el.namespaceUri = some envUri ∧ el.action = "set" then ([.set el], false)
  else if el.namespaceUri = some stdinUri ∧ el.action = "read" then ([.read el], false)
  else if el.isAgents agentLoaded ∧ el.action = "agent" then ([.header el], true)
  else if el.isAgents agentLoaded ∧ el.action = "transition" then ([.noteSchema el], false)
  else el.defaultPlan

/-- Whether the module of `agent` has an element's children executed. -/
def Element.delegates (agentLoaded : Bool) (el : Element) : Bool :=
  el.isAgents agentLoaded && el.action = "agent"

/-- How the failure of a child reads when an element's children are executed. -/
def Element.wrap (agentLoaded : Bool) (el : Element) : Element → ActionError → ActionError :=
  if el.delegates agentLoaded then Agent.childFailure el else Host.passOn

/-- An action in a tree. -/
structure Located where
  /-- The elements around it, outermost first, each with the child that it is in. -/
  path : List (Element × Element)
  action : Action

/-- An action in a child of an element. -/
def Located.below (el child : Element) (p : Located) : Located :=
  { p with path := (el, child) :: p.path }

mutual

/-- The actions of an element and of everything below it, with the place of each. -/
def located (agentLoaded : Bool) : Element → List Located
  | ⟨tag, ns, attributes, children⟩ =>
      let el : Element := ⟨tag, ns, attributes, children⟩
      (el.plan agentLoaded).1.map (⟨[], ·⟩) ++
        if (el.plan agentLoaded).2 then locatedAll agentLoaded el children else []

/-- The actions of some children of an element, with the place of each. -/
def locatedAll (agentLoaded : Bool) (el : Element) : List Element → List Located
  | [] => []
  | c :: rest => (located agentLoaded c).map (.below el c) ++ locatedAll agentLoaded el rest

end

/-- How a failure reads outside all the elements around it. -/
def wrapAlong (agentLoaded : Bool) : List (Element × Element) → ActionError → ActionError
  | [], e => e
  | (el, child) :: path, e => el.wrap agentLoaded child (wrapAlong agentLoaded path e)

/-- Do actions in turn up to the first that fails, whose failure reads as it does outside the tree. -/
def performLocated (agentLoaded : Bool) : List Located → ActionM Unit
  | [] => pure ()
  | p :: rest => do
      p.action.perform.adapt (wrapAlong agentLoaded p.path)
      performLocated agentLoaded rest

variable {s t : HostState}

open HostM (Discreet)

/-! ### Executing and doing the actions -/

namespace Action

variable (a : Action) (as : List Action)

/-- The first action decides whether the others are performed. -/
theorem runFrom_performAll_cons (s : HostState) :
    (performAll (a :: as)).run.runFrom s =
      match a.perform.run.runFrom s with
      | (.ok _, t) => (performAll as).run.runFrom t
      | (.error e, t) => (.error e, t) := by
  rw [performAll, HostM.runFrom_run_bind]
  rcases a.perform.run.runFrom s with ⟨_ | _, t⟩ <;> rfl

theorem runFrom_performAll_singleton (s : HostState) :
    (performAll [a]).run.runFrom s = a.perform.run.runFrom s := by
  rw [runFrom_performAll_cons]
  rcases a.perform.run.runFrom s with ⟨_ | _, t⟩ <;> rfl

theorem runFrom_perform_get {serial : Nat} {store : Store}
    (h : s.modules.find? envUri = some ⟨serial, .env store⟩) (el : Element) :
    (perform (.get el)).run.runFrom s = (Env.getEntry store el).run.runFrom s := by
  rw [perform, HostM.runFrom_getThe_bind, h]

theorem runFrom_perform_set {serial : Nat} {store : Store}
    (h : s.modules.find? envUri = some ⟨serial, .env store⟩) (el : Element) :
    (perform (.set el)).run.runFrom s = (Env.setEntry envUri store el).run.runFrom s := by
  rw [perform, HostM.runFrom_getThe_bind, h]

theorem runFrom_perform_read {serial : Nat} {input : InputStream} {sink : PromptSink}
    (h : s.modules.find? stdinUri = some ⟨serial, .stdin input sink⟩) (el : Element) :
    (perform (.read el)).run.runFrom s = (Stdin.read stdinUri input sink el).run.runFrom s := by
  rw [perform, HostM.runFrom_getThe_bind, h]

end Action

/-! ### Doing located actions -/

section

variable {agentLoaded : Bool} (p : Located) (ps qs : List Located)

/-- The failure of an action is wrapped along the way that leads to it. -/
theorem runFrom_performLocated_cons (s : HostState) :
    (performLocated agentLoaded (p :: ps)).run.runFrom s =
      match p.action.perform.run.runFrom s with
      | (.ok _, t) => (performLocated agentLoaded ps).run.runFrom t
      | (.error e, t) => (.error (wrapAlong agentLoaded p.path e), t) := by
  rw [performLocated, HostM.runFrom_run_bind, HostM.runFrom_run_adapt]
  rcases p.action.perform.run.runFrom s with ⟨_ | _, t⟩ <;> rfl

/-- The parts of a list are performed one after the other. -/
theorem performLocated_append : performLocated agentLoaded (ps ++ qs) = (do
    performLocated agentLoaded ps
    performLocated agentLoaded qs) := by
  induction ps with
  | nil => rw [List.nil_append, performLocated, pure_bind]
  | cons p ps ih => rw [List.cons_append, performLocated, performLocated, ih, bind_assoc]

/-- Actions of the outermost element fail as they are. -/
theorem performLocated_own (as : List Action) :
    performLocated agentLoaded (as.map (⟨[], ·⟩)) = Action.performAll as := by
  induction as with
  | nil => rfl
  | cons a as ih =>
    rw [List.map_cons, performLocated, Action.performAll, ih]
    exact congrArg (· >>= fun _ => _) (ActionM.adapt_same _)

/-- Actions in a child fail as they do in the child, and then as the child does. -/
theorem performLocated_below (el child : Element) :
    performLocated agentLoaded (ps.map (.below el child)) =
      (performLocated agentLoaded ps).adapt (el.wrap agentLoaded child) := by
  induction ps with
  | nil => rfl
  | cons p ps ih =>
    rw [List.map_cons, performLocated, performLocated, ActionM.adapt_bind, ActionM.adapt_adapt, ih]
    rfl

/-- Where actions are plays no part in what they do. -/
theorem runFrom_performAll_map_action (agentLoaded : Bool) (ps : List Located) (s : HostState) :
    ((Action.performAll (ps.map (·.action))).run.runFrom s).1.isOk =
        ((performLocated agentLoaded ps).run.runFrom s).1.isOk ∧
      ((Action.performAll (ps.map (·.action))).run.runFrom s).2 =
        ((performLocated agentLoaded ps).run.runFrom s).2 := by
  induction ps generalizing s with
  | nil => exact ⟨rfl, rfl⟩
  | cons p ps ih =>
    rw [List.map_cons, runFrom_performLocated_cons, Action.runFrom_performAll_cons]
    rcases p.action.perform.run.runFrom s with ⟨_ | _, t⟩
    · exact ⟨rfl, rfl⟩
    · exact ih t

end

/-- Default processing performs what is planned, and then what is below where that is planned. -/
theorem defaultActions_eq (el : Element) (below : List Action) :
    defaultActions el below = el.defaultPlan.1 ++ if el.defaultPlan.2 then below else [] := by
  unfold defaultActions Element.defaultPlan
  split
  · rfl
  · split
    · rfl
    · split <;> rfl

/-- The flat list of a tree is the plan of its root, and the lists of its children where the plan
asks for them. -/
theorem flat_eq (agentLoaded : Bool) (el : Element) :
    flat agentLoaded el = (el.plan agentLoaded).1 ++
      if (el.plan agentLoaded).2 then flatAll agentLoaded el.children else [] := by
  obtain ⟨tag, ns, attributes, children⟩ := el
  rw [flat, Element.plan]
  split
  · rfl
  · split
    · rfl
    · split
      · rfl
      · split
        · rfl
        · rw [defaultActions_eq]
          split
          · next htransition => simp [Element.defaultPlan, htransition.2]
          · rw [List.nil_append]

theorem located_eq (agentLoaded : Bool) (el : Element) :
    located agentLoaded el = (el.plan agentLoaded).1.map (⟨[], ·⟩) ++
      if (el.plan agentLoaded).2 then locatedAll agentLoaded el el.children else [] := by
  cases el
  rw [located]

mutual

/-- The located actions of a tree are its actions. -/
theorem map_action_located (agentLoaded : Bool) : ∀ el : Element,
    (located agentLoaded el).map (·.action) = flat agentLoaded el
  | ⟨tag, ns, attributes, children⟩ => by
      have hbelow := map_action_locatedAll agentLoaded ⟨tag, ns, attributes, children⟩ children
      rw [located_eq, flat_eq, List.map_append, List.map_map, apply_ite (List.map _), hbelow]
      exact congrArg (· ++ _) (List.map_id _)

theorem map_action_locatedAll (agentLoaded : Bool) (el : Element) : ∀ els : List Element,
    (locatedAll agentLoaded el els).map (·.action) = flatAll agentLoaded els
  | [] => by rw [locatedAll, flatAll, List.map_nil]
  | c :: rest => by
      rw [locatedAll, flatAll, List.map_append, List.map_map, ← map_action_located agentLoaded c,
        ← map_action_locatedAll agentLoaded el rest]
      rfl

end

/-! ### Sessions that are ready -/

/-- An open session of built-in modules, among them those of all registered namespaces that some
elements are in. -/
structure Ready (store : Store) (sink : PromptSink) (agentLoaded : Bool) (els : List Element)
    (s : HostState) : Prop where
  isOpen : s.closed = false
  builtIn : s.AllBuiltIn store sink
  agent : (s.modules.find? agentUri).isSome = agentLoaded
  loaded : ∀ el ∈ els, ∀ uri, el.namespaceUri = some uri →
    uri = agentUri ∨ uri = envUri ∨ uri = stdinUri → ∃ l, s.modules.find? uri = some l

variable {host : Host} {reenter : Reenter} {store : Store} {input : InputStream} {sink : PromptSink}
  {agentLoaded : Bool} {els els' : List Element} {el : Element}

namespace Ready

/-- What is ready for some elements is ready for fewer. -/
theorem mono (hs : Ready store sink agentLoaded els s) (h : els' ⊆ els) :
    Ready store sink agentLoaded els' s :=
  ⟨hs.isOpen, hs.builtIn, hs.agent, fun el hel => hs.loaded el (h hel)⟩

/-- A run that loads nothing leaves everything ready. -/
theorem keep (hs : Ready store sink agentLoaded els s) (hrun : Run host s t)
    (hnone : ∀ uri, s.modules.find? uri = none → t.modules.find? uri = none) :
    Ready store sink agentLoaded els t where
  isOpen := hrun.closed_eq.trans hs.isOpen
  builtIn := hs.builtIn.of_keeps (fun _ _ => hrun.keeps) hnone
  agent := by
    rw [← hs.agent]
    cases hfind : s.modules.find? agentUri with
    | none => rw [hnone agentUri hfind]
    | some l =>
      obtain ⟨m, hm, -⟩ := hrun.keeps hfind
      rw [hm]
      rfl
  loaded el hel uri hns huri := by
    obtain ⟨l, hl⟩ := hs.loaded el hel uri hns huri
    obtain ⟨m, hm, -⟩ := hrun.keeps hl
    exact ⟨_, hm⟩

/-- Asking a module leaves a session ready. -/
theorem asked (hs : Ready store sink agentLoaded els s) (uri : String) (serial : Nat) :
    Ready store sink agentLoaded els (s.note (.handled uri serial)) :=
  ⟨hs.isOpen, hs.builtIn, hs.agent, hs.loaded⟩

/-- The module of `agent` is there for its elements. -/
theorem find?_agent (hs : Ready store sink agentLoaded els s) (hel : el ∈ els)
    (h : el.isAgents agentLoaded = true) :
    (el.namespaceUri = some agentUri ∨ el.namespaceUri = none) ∧
      ∃ l, s.modules.find? agentUri = some l := by
  rw [Element.isAgents, Bool.or_eq_true, decide_eq_true_iff, Bool.and_eq_true,
    Option.isNone_iff_eq_none] at h
  rcases h with hns | ⟨hns, hagent⟩
  · exact ⟨.inl hns, hs.loaded el hel agentUri hns (.inl rfl)⟩
  · exact ⟨.inr hns, Option.isSome_iff_exists.1 (hs.agent.trans hagent)⟩

end Ready

theorem Element.self_mem_preorder (el : Element) : el ∈ el.preorder := by
  rw [preorder_eq]
  exact List.mem_cons_self

theorem Element.preorderAll_children_subset (el : Element) :
    preorderAll el.children ⊆ el.preorder := by
  rw [preorder_eq]
  exact List.subset_cons_self _ _

/-! ### An element at a time -/

/-- One state is another but for the record that a module was asked, if any was. -/
def HostState.Asked (s t : HostState) : Prop :=
  t = s ∨ ∃ uri serial, t = s.note (.handled uri serial)

/-- Having asked modules is no difference that counts. -/
theorem HostState.Asked.like {s' : HostState} (h : s.Asked s') (hlike : s.Like t) : s'.Like t := by
  rcases h with rfl | ⟨uri, serial, rfl⟩
  · exact hlike
  · exact hlike.asked uri serial

theorem HostState.Asked.modules_eq {s' : HostState} (h : s.Asked s') : s'.modules = s.modules := by
  rcases h with rfl | ⟨uri, serial, rfl⟩ <;> rfl

/-- Asking modules leaves a session ready. -/
theorem Ready.of_asked {s' : HostState} (hs : Ready store sink agentLoaded els s) (h : s.Asked s') :
    Ready store sink agentLoaded els s' := by
  rcases h with rfl | ⟨uri, serial, rfl⟩
  · exact hs
  · exact hs.asked uri serial

/-- Do what an element comes to: its own actions, and then its children. -/
def Host.byPlan (host : Host) (reenter : Reenter) (agentLoaded : Bool) (el : Element) :
    ActionM Unit := do
  Action.performAll (el.plan agentLoaded).1
  if (el.plan agentLoaded).2 then host.executeEach reenter (el.wrap agentLoaded) el.children

namespace Host

/-- An empty plan does nothing. -/
theorem runFrom_byPlan_of_none {el : Element} (hplan : el.plan agentLoaded = ([], false)) :
    (host.byPlan reenter agentLoaded el).run.runFrom s = (.ok (), s) := by
  rw [byPlan, hplan]
  rfl

theorem runFrom_byPlan_of_action {el : Element} {a : Action}
    (hplan : el.plan agentLoaded = ([a], false)) :
    (host.byPlan reenter agentLoaded el).run.runFrom s = a.perform.run.runFrom s := by
  rw [byPlan, hplan, HostM.runFrom_run_bind, Action.runFrom_performAll_singleton]
  rcases a.perform.run.runFrom s with ⟨_ | _, t⟩ <;> rfl

theorem runFrom_byPlan_of_children {el : Element} (hplan : el.plan agentLoaded = ([], true)) :
    (host.byPlan reenter agentLoaded el).run.runFrom s =
      (host.executeEach reenter (el.wrap agentLoaded) el.children).run.runFrom s := by
  rw [byPlan, hplan]
  rfl

/-- What no module takes is left to default processing. -/
theorem runFrom_byDefault (hplan : el.plan agentLoaded = el.defaultPlan)
    (hwrap : el.wrap agentLoaded = passOn) :
    (host.byDefault reenter el).run.runFrom s =
      (host.byPlan reenter agentLoaded el).run.runFrom s := by
  unfold byDefault
  unfold Element.defaultPlan at hplan
  split
  · next hassign =>
    rw [if_pos hassign] at hplan
    rw [runFrom_byPlan_of_action hplan, Action.perform]
  · next hassign =>
    rw [if_neg hassign] at hplan
    split
    · next hlog =>
      rw [if_pos hlog] at hplan
      rw [runFrom_byPlan_of_action hplan, Action.perform]
    · next hlog =>
      rw [if_neg hlog] at hplan
      split
      · next htransition =>
        rw [if_pos htransition] at hplan
        rw [runFrom_byPlan_of_none hplan, HostM.runFrom_run_pure]
      · next htransition =>
        rw [if_neg htransition] at hplan
        rw [runFrom_byPlan_of_children hplan, hwrap]

/-- What the session declines is executed by its plan, if that is the one of default processing. -/
theorem executeWith_of_declined {s' : HostState} (hplan : el.plan agentLoaded = el.defaultPlan)
    (hwrap : el.wrap agentLoaded = passOn)
    (hreaction : (host.reaction reenter el).run.runFrom s = (.ok .declined, s')) :
    (host.executeWith reenter el).run.runFrom s =
      (host.byPlan reenter agentLoaded el).run.runFrom s' := by
  rw [runFrom_executeWith, hreaction]
  exact runFrom_byDefault hplan hwrap

/-- What a module handles by one action is executed by its plan, if that is the action. -/
theorem executeWith_of_action (hopen : s.closed = false) {uri : String} {l : Loaded}
    (hns : el.namespaceUri = some uri) (hl : s.modules.find? uri = some l) {x : ActionM Unit}
    {a : Action} (hplan : el.plan agentLoaded = ([a], false))
    (hreact : l.mod.react reenter uri (some el) = Reaction.ofAction x)
    (ha : a.perform.run.runFrom (s.note (.handled uri l.serial)) =
      x.run.runFrom (s.note (.handled uri l.serial))) :
    (host.executeWith reenter el).run.runFrom s =
      (host.byPlan reenter agentLoaded el).run.runFrom (s.note (.handled uri l.serial)) := by
  rw [runFrom_executeWith_of_action hopen hns hl hreact, runFrom_byPlan_of_action hplan, ha]

end Host

/-! ### Plans -/

theorem Element.isAgents_of_uri (agentLoaded : Bool) {uri : String} (hns : el.namespaceUri = some uri)
    (h : uri ≠ agentUri) : el.isAgents agentLoaded = false := by
  simp [isAgents, hns, h]

theorem Element.wrap_of_not_agents (h : el.isAgents agentLoaded = false) :
    el.wrap agentLoaded = Host.passOn := by
  rw [wrap, if_neg (by simp [delegates, h])]

theorem Element.plan_of_env (agentLoaded : Bool) (hns : el.namespaceUri = some envUri) :
    el.plan agentLoaded =
      if el.action = "get" then ([.get el], false)
      else if el.action = "set" then ([.set el], false)
      else el.defaultPlan := by
  have hstdin : ¬ envUri = stdinUri := by decide
  simp [plan, hns, isAgents_of_uri agentLoaded hns (show envUri ≠ agentUri by decide), hstdin]

theorem Element.plan_of_stdin (agentLoaded : Bool) (hns : el.namespaceUri = some stdinUri) :
    el.plan agentLoaded =
      if el.action = "read" then ([.read el], false) else el.defaultPlan := by
  have henv : ¬ stdinUri = envUri := by decide
  simp [plan, hns, isAgents_of_uri agentLoaded hns (show stdinUri ≠ agentUri by decide), henv]

/-- Any other element comes to what default processing makes of it. -/
theorem Element.plan_of_other (hagents : el.isAgents agentLoaded = false)
    (henv : el.namespaceUri ≠ some envUri) (hstdin : el.namespaceUri ≠ some stdinUri) :
    el.plan agentLoaded = el.defaultPlan := by
  simp [plan, hagents, henv, hstdin]

/-- The plan of an element that goes to `agent`. -/
theorem Element.plan_of_agents (hagents : el.isAgents agentLoaded = true)
    (hns : el.namespaceUri = some agentUri ∨ el.namespaceUri = none) : el.plan agentLoaded =
    if el.action = "agent" then ([.header el], true)
    else if el.action = "transition" then ([.noteSchema el], false)
    else el.defaultPlan := by
  have henv : el.namespaceUri ≠ some envUri := by
    rcases hns with h | h <;> rw [h] <;> decide
  have hstdin : el.namespaceUri ≠ some stdinUri := by
    rcases hns with h | h <;> rw [h] <;> decide
  simp [plan, hagents, henv, hstdin]

/-! ### Where the plan is carried out -/

namespace Ready

/-- Elements of the store are executed by plan. -/
theorem executeWith_env (hs : Ready store sink agentLoaded els s) (hel : el ∈ els)
    (hns : el.namespaceUri = some envUri) :
    ∃ s', s.Asked s' ∧ (host.executeWith reenter el).run.runFrom s =
      (host.byPlan reenter agentLoaded el).run.runFrom s' := by
  obtain ⟨⟨serial, mod⟩, hl⟩ := hs.loaded el hel envUri hns (.inr (.inl rfl))
  obtain rfl : mod = .env store := (hs.builtIn envUri _ hl).eq_env
  have hplan := Element.plan_of_env agentLoaded hns
  refine ⟨s.note (.handled envUri serial), .inr ⟨_, _, rfl⟩, ?_⟩
  by_cases hget : el.action = "get"
  · rw [if_pos hget] at hplan
    exact Host.executeWith_of_action hs.isOpen hns hl hplan (Module.react_get _ _ hget store)
      (Action.runFrom_perform_get (s := s.note _) hl el)
  · rw [if_neg hget] at hplan
    by_cases hset : el.action = "set"
    · rw [if_pos hset] at hplan
      exact Host.executeWith_of_action hs.isOpen hns hl hplan (Module.react_set _ _ hset store)
        (Action.runFrom_perform_set (s := s.note _) hl el)
    · rw [if_neg hset] at hplan
      have hwrap := Element.wrap_of_not_agents
        (Element.isAgents_of_uri agentLoaded hns (by decide))
      refine Host.executeWith_of_declined hplan hwrap ?_
      rw [Host.reaction, hns]
      dsimp only
      rw [Host.runFrom_route hs.isOpen hl, Host.runFrom_ask, Module.react_env, Env.react,
        if_neg hget, if_neg hset, HostM.runFrom_pure]

theorem executeWith_stdin (hs : Ready store sink agentLoaded els s) (hel : el ∈ els)
    (hns : el.namespaceUri = some stdinUri) :
    ∃ s', s.Asked s' ∧ (host.executeWith reenter el).run.runFrom s =
      (host.byPlan reenter agentLoaded el).run.runFrom s' := by
  obtain ⟨⟨serial, mod⟩, hl⟩ := hs.loaded el hel stdinUri hns (.inr (.inr rfl))
  obtain ⟨input, rfl⟩ := (hs.builtIn stdinUri _ hl).eq_stdin
  have hplan := Element.plan_of_stdin agentLoaded hns
  refine ⟨s.note (.handled stdinUri serial), .inr ⟨_, _, rfl⟩, ?_⟩
  by_cases hread : el.action = "read"
  · rw [if_pos hread] at hplan
    exact Host.executeWith_of_action hs.isOpen hns hl hplan (Module.react_read _ _ hread input sink)
      (Action.runFrom_perform_read (s := s.note _) hl el)
  · rw [if_neg hread] at hplan
    have hwrap := Element.wrap_of_not_agents
      (Element.isAgents_of_uri agentLoaded hns (by decide))
    refine Host.executeWith_of_declined hplan hwrap ?_
    rw [Host.reaction, hns]
    dsimp only
    rw [Host.runFrom_route hs.isOpen hl, Host.runFrom_ask, Module.react_stdin, Stdin.react,
      if_neg hread, HostM.runFrom_pure]

/-- An element of no built-in namespace and not for `agent` goes nowhere. -/
theorem executeWith_other (hreg : host.registry = .ofBuiltIn store input sink)
    (hs : Ready store sink agentLoaded els s) (hagents : el.isAgents agentLoaded = false)
    (henv : el.namespaceUri ≠ some envUri) (hstdin : el.namespaceUri ≠ some stdinUri) :
    ∃ s', s.Asked s' ∧ (host.executeWith reenter el).run.runFrom s =
      (host.byPlan reenter agentLoaded el).run.runFrom s' := by
  refine ⟨s, .inl rfl, Host.executeWith_of_declined (Element.plan_of_other hagents henv hstdin)
    (Element.wrap_of_not_agents hagents) ?_⟩
  cases hns : el.namespaceUri with
  | none =>
    refine Host.runFrom_reaction_unqualified hs.isOpen hs.builtIn ?_ hns
    have hloaded : agentLoaded = false := by simpa [Element.isAgents, hns] using hagents
    exact Option.isSome_eq_false_iff.1 (hs.agent.trans hloaded) |> Option.isNone_iff_eq_none.1
  | some uri =>
    rw [hns] at henv hstdin
    refine Host.runFrom_reaction_unregistered hreg hs.isOpen hs.builtIn hns ?_
      (fun h => henv (congrArg some h)) fun h => hstdin (congrArg some h)
    simpa [Element.isAgents, hns] using hagents

/-- An element of `agent` is announced before its children, or noted if it is a transition. -/
theorem executeWith_agents (hs : Ready store sink agentLoaded els s) (hel : el ∈ els)
    (hagents : el.isAgents agentLoaded = true) :
    ∃ s', s.Asked s' ∧ (host.executeWith reenter el).run.runFrom s =
      (host.byPlan reenter agentLoaded el).run.runFrom s' := by
  obtain ⟨hns, l, hl⟩ := hs.find?_agent hel hagents
  have hplan := Element.plan_of_agents hagents hns
  have hreaction : (host.reaction reenter el).run.runFrom s = _ :=
    Host.runFrom_reaction_agent hs.isOpen hs.builtIn hl hns
  refine ⟨s.note (.handled agentUri l.serial), .inr ⟨_, _, rfl⟩, ?_⟩
  rw [Agent.runFrom_react] at hreaction
  by_cases hagent : el.action = "agent"
  · rw [if_pos hagent] at hreaction hplan
    have hwrap : el.wrap agentLoaded = Agent.childFailure el :=
      if_pos (by simp [Element.delegates, hagents, hagent])
    rw [Host.runFrom_executeWith, hreaction, Host.byPlan, hplan, hwrap, HostM.runFrom_run_bind,
      Action.runFrom_performAll_singleton, Action.perform, HostM.runFrom_run_liftM]
    rfl
  · rw [if_neg hagent] at hreaction hplan
    have hwrap : el.wrap agentLoaded = Host.passOn := if_neg (by simp [Element.delegates, hagent])
    by_cases htransition : el.action = "transition"
    · rw [if_pos htransition] at hreaction hplan
      rw [Host.runFrom_executeWith, hreaction, Host.runFrom_byPlan_of_action hplan, Action.perform,
        HostM.runFrom_run_liftM]
      simp [Host.byDefault, htransition]
    · rw [if_neg htransition] at hreaction hplan
      exact Host.executeWith_of_declined hplan hwrap hreaction

/-- In a session that is ready, executing an element is doing what it comes to. -/
theorem executeWith_eq (reenter : Reenter) (hreg : host.registry = .ofBuiltIn store input sink)
    (hs : Ready store sink agentLoaded els s) (hel : el ∈ els) :
    ∃ s', s.Asked s' ∧ (host.executeWith reenter el).run.runFrom s =
      (host.byPlan reenter agentLoaded el).run.runFrom s' := by
  by_cases hagents : el.isAgents agentLoaded = true
  · exact hs.executeWith_agents hel hagents
  · by_cases henv : el.namespaceUri = some envUri
    · exact hs.executeWith_env hel henv
    · by_cases hstdin : el.namespaceUri = some stdinUri
      · exact hs.executeWith_stdin hel hstdin
      · exact hs.executeWith_other hreg (Bool.eq_false_iff.2 hagents) henv hstdin

end Ready

/-! ### Trees -/

/-- What executing elements comes to from a state, and what doing located actions comes to. -/
structure Matches (s : HostState) (x y : Except ActionError Unit × HostState) : Prop where
  answer : x.1 = y.1
  like : x.2.Like y.2
  loadsNothing : ∀ uri, s.modules.find? uri = none → x.2.modules.find? uri = none

namespace Matches

variable {x y : Except ActionError Unit × HostState}

theorem after {s' : HostState} (h : Matches s' x y) (hsame : s'.modules = s.modules) :
    Matches s x y :=
  ⟨h.answer, h.like, fun uri huri => h.loadsNothing uri (hsame ▸ huri)⟩

/-- A discreet computation matches itself. -/
theorem of_discreet {x : ActionM Unit} (hx : x.run.Discreet) (h : s.Like t) :
    Matches s (x.run.runFrom s) (x.run.runFrom t) := by
  obtain ⟨hanswer, hlike, hnone⟩ := hx s t h
  exact ⟨hanswer, hlike, hnone⟩

/-- Computations that match go on to ones that match from where they end. -/
theorem bind {x y f g : ActionM Unit} (h : Matches s (x.run.runFrom s) (y.run.runFrom t))
    (hnext : Matches (x.run.runFrom s).2 (f.run.runFrom (x.run.runFrom s).2)
      (g.run.runFrom (y.run.runFrom t).2)) :
    Matches s ((x >>= fun _ => f).run.runFrom s) ((y >>= fun _ => g).run.runFrom t) := by
  rw [HostM.runFrom_run_bind, HostM.runFrom_run_bind]
  obtain ⟨answer, like, hnone⟩ := h
  generalize x.run.runFrom s = x at answer like hnone hnext ⊢
  generalize y.run.runFrom t = y at answer like hnone hnext ⊢
  obtain ⟨_ | _, x⟩ := x <;> obtain ⟨_ | _, y⟩ := y <;> cases answer
  · exact ⟨rfl, like, hnone⟩
  · exact ⟨hnext.answer, hnext.like, fun uri huri => hnext.loadsNothing uri (hnone uri huri)⟩

theorem adapt {x y : ActionM Unit} (h : Matches s (x.run.runFrom s) (y.run.runFrom t))
    (wrap : ActionError → ActionError) :
    Matches s ((x.adapt wrap).run.runFrom s) ((y.adapt wrap).run.runFrom t) := by
  rw [HostM.runFrom_run_adapt, HostM.runFrom_run_adapt]
  exact ⟨congrArg (·.mapError wrap) h.answer, h.like, h.loadsNothing⟩

end Matches

/-- No action looks at which modules were asked. -/
theorem Action.perform_discreet (a : Action) : a.perform.run.Discreet := by
  cases a with
  | get el =>
    refine Discreet.readExcept (fun s t h => by rw [h.modules]) ?_
    intro s
    split
    · exact .of_steady (Env.getEntry_steady none _ el)
    · exact .pure _
  | set el =>
    refine Discreet.readExcept (fun s t h => by rw [h.modules]) ?_
    intro s
    split
    · exact .of_steady (Env.setEntry_steady none envUri _ el)
    · exact .pure _
  | read el =>
    refine Discreet.readExcept (fun s t h => by rw [h.modules]) ?_
    intro s
    split
    · exact .of_steady (Stdin.read_steady stdinUri _ _ el)
    · exact .pure _
  | header el => exact .lift (.of_steady (Agent.announce_writes agentUri el).steady)
  | noteSchema el => exact .lift (.of_steady (Agent.noteTransition_writes agentUri el).steady)
  | assign el => exact .of_steady (assignElement_steady none el)
  | log el => exact .of_steady (logElement_steady none el)

theorem Action.performAll_discreet (as : List Action) : (performAll as).run.Discreet := by
  induction as with
  | nil => exact .pure _
  | cons a as ih => exact Discreet.bindExcept a.perform_discreet fun _ => ih

/-- An element does one action, or leaves it to its children, before which `agent` announces it. -/
theorem Element.plan_cases (agentLoaded : Bool) (el : Element) :
    (∃ a, el.plan agentLoaded = ([a], false)) ∨ el.plan agentLoaded = ([], false) ∨
      el.plan agentLoaded = ([], true) ∨
      el.plan agentLoaded = ([.header el], true) ∧ el.isAgents agentLoaded = true := by
  unfold plan
  split
  · exact .inl ⟨_, rfl⟩
  · split
    · exact .inl ⟨_, rfl⟩
    · split
      · exact .inl ⟨_, rfl⟩
      · split
        · next h => exact .inr (.inr (.inr ⟨rfl, h.1⟩))
        · split
          · exact .inl ⟨_, rfl⟩
          · unfold defaultPlan
            split
            · exact .inl ⟨_, rfl⟩
            · split
              · exact .inl ⟨_, rfl⟩
              · split
                · exact .inr (.inl rfl)
                · exact .inr (.inr (.inl rfl))

/-- What an element does itself leaves everything ready for its children. -/
theorem Ready.after_own (hs : Ready store sink agentLoaded el.preorder s)
    (h : (el.plan agentLoaded).2 = true) :
    Ready store sink agentLoaded (Element.preorderAll el.children)
      ((Action.performAll (el.plan agentLoaded).1).run.runFrom s).2 := by
  have hbelow := hs.mono el.preorderAll_children_subset
  rcases el.plan_cases agentLoaded with ⟨a, hplan⟩ | hplan | hplan | ⟨hplan, hagents⟩
  · simp [hplan] at h
  · simp [hplan] at h
  · rw [hplan]
    exact hbelow
  · rw [hplan, Action.runFrom_performAll_singleton]
    obtain ⟨-, l, hl⟩ := hs.find?_agent el.self_mem_preorder hagents
    obtain ⟨schemas, hmod⟩ := (hs.builtIn agentUri l hl).eq_agent
    have hrun : Run (.ofDocument .empty default) s ((Action.perform (.header el)).run.runFrom s).2 :=
      (Agent.announce_writes agentUri el).runs s ⟨l, hl, by rw [hmod]; exact .refl (.agent schemas)⟩
    obtain ⟨-, -, hnone⟩ := (Action.header el).perform_discreet s s (.refl s)
    exact hbelow.keep hrun hnone

/-- What is known of some children of an element when the element is looked at. -/
def ChildrenMatch (host : Host) (reenter : Reenter) (store : Store) (sink : PromptSink)
    (agentLoaded : Bool) (el : Element) (children : List Element) : Prop :=
  ∀ s t, Ready store sink agentLoaded (Element.preorderAll children) s → s.Like t →
    Matches s ((host.executeEach reenter (el.wrap agentLoaded) children).run.runFrom s)
      ((performLocated agentLoaded (locatedAll agentLoaded el children)).run.runFrom t)

/-- What an element does itself, and then what its children do. -/
theorem byPlan_matches
    (hchildren : ChildrenMatch host reenter store sink agentLoaded el el.children)
    (hs : Ready store sink agentLoaded el.preorder s) (h : s.Like t) :
    Matches s ((host.byPlan reenter agentLoaded el).run.runFrom s)
      ((performLocated agentLoaded (located agentLoaded el)).run.runFrom t) := by
  have hown : Matches s ((Action.performAll (el.plan agentLoaded).1).run.runFrom s)
      ((Action.performAll (el.plan agentLoaded).1).run.runFrom t) :=
    .of_discreet (Action.performAll_discreet _) h
  rw [Host.byPlan, located_eq, performLocated_append, performLocated_own]
  refine hown.bind ?_
  split
  · next hplan => exact hchildren _ _ (hs.after_own hplan) hown.like
  · exact .of_discreet (.pure _) hown.like

mutual

/-- Executing a tree matches performing its list, by induction over the tree. -/
theorem executeWith_matches (hreg : host.registry = .ofBuiltIn store input sink)
    (hr : ∀ el, (reenter el).run.Runs host fun _ => True) : ∀ (el : Element) (s t : HostState),
    Ready store sink agentLoaded el.preorder s → s.Like t →
      Matches s ((host.executeWith reenter el).run.runFrom s)
        ((performLocated agentLoaded (located agentLoaded el)).run.runFrom t)
  | ⟨tag, ns, attributes, children⟩, s, t, hs, h => by
      obtain ⟨s', hasked, heq⟩ := hs.executeWith_eq reenter hreg (Element.self_mem_preorder _)
      rw [heq]
      exact (byPlan_matches (executeEach_matches hreg hr _ children) (hs.of_asked hasked)
        (hasked.like h)).after hasked.modules_eq

theorem executeEach_matches (hreg : host.registry = .ofBuiltIn store input sink)
    (hr : ∀ el, (reenter el).run.Runs host fun _ => True) (el : Element) : ∀ els : List Element,
    ChildrenMatch host reenter store sink agentLoaded el els
  | [], s, t, _, h => by
      rw [Host.executeEach, locatedAll]
      exact .of_discreet (Discreet.pure (Except.ok ())) h
  | c :: rest, s, t, hs, h => by
      rw [Element.preorderAll] at hs
      rw [Host.executeEach, locatedAll, performLocated_append, performLocated_below]
      have hfirst := executeWith_matches hreg hr c s t (hs.mono (List.subset_append_left _ _)) h
      -- The rest starts where the first child has stopped, with the same modules loaded.
      have hready := (hs.mono (List.subset_append_right _ _)).keep
        (Host.executeWith_runs hr c s trivial) hfirst.loadsNothing
      exact (hfirst.adapt (el.wrap agentLoaded c)).bind
        (executeEach_matches hreg hr el rest _ _ hready hfirst.like)

end

/-- What executing elements comes to from a state, and what doing actions comes to. -/
structure Agrees (s : HostState) (x y : Except ActionError Unit × HostState) : Prop where
  /-- One succeeds where the other does. -/
  result : x.1.isOk = y.1.isOk
  like : x.2.Like y.2
  loadsNothing : ∀ uri, s.modules.find? uri = none → x.2.modules.find? uri = none

/-- Without their places, the actions still fail where they did. -/
theorem executeWith_agrees (hreg : host.registry = .ofBuiltIn store input sink)
    (hr : ∀ el, (reenter el).run.Runs host fun _ => True) (el : Element) (s t : HostState)
    (hs : Ready store sink agentLoaded el.preorder s) (h : s.Like t) :
    Agrees s ((host.executeWith reenter el).run.runFrom s)
      ((Action.performAll (flat agentLoaded el)).run.runFrom t) := by
  obtain ⟨answer, like, hnone⟩ := executeWith_matches hreg hr el s t hs h
  obtain ⟨hresult, hstate⟩ :=
    runFrom_performAll_map_action agentLoaded (located agentLoaded el) t
  rw [map_action_located] at hresult hstate
  exact ⟨by rw [answer, hresult], hstate ▸ like, hnone⟩

/-- **Executing an element is doing its actions in turn.** In an open session of built-in modules in
which the registered namespaces of the tree are loaded, executing the tree succeeds where doing the
actions of the tree one after the other does, and both leave the same variables, log, holdings,
modules with their schemas and their place in the input, and prompts. -/
theorem Host.execute_flat (host : Host) (store : Store) (input : InputStream) (sink : PromptSink)
    (hreg : host.registry = .ofBuiltIn store input sink) (s : HostState) (hopen : s.closed = false)
    (hbuiltIn : s.AllBuiltIn store sink) (root : Element)
    (hloaded : ∀ el ∈ root.preorder, ∀ uri, el.namespaceUri = some uri →
      host.registry.contains uri = true → ∃ l, s.modules.find? uri = some l) :
    let executed := (host.execute root).run.runFrom s
    let done := (Action.performAll (flat (s.modules.find? agentUri).isSome root)).run.runFrom s
    executed.1.isOk = done.1.isOk ∧
      executed.2.dataModel = done.2.dataModel ∧
      executed.2.holdings = done.2.holdings ∧
      executed.2.modules = done.2.modules ∧
      executed.2.prompts = done.2.prompts ∧
      executed.2.log = done.2.log ∧
      executed.2.schemas = done.2.schemas ∧
      executed.2.Like done.2 := by
  intro executed done
  have hready : Ready store sink (s.modules.find? agentUri).isSome root.preorder s := by
    refine ⟨hopen, hbuiltIn, rfl, fun el hel uri hns huri => hloaded el hel uri hns ?_⟩
    rw [hreg, Registry.contains_ofBuiltIn]
    exact huri
  obtain ⟨result, like, -⟩ : Agrees s executed done :=
    executeWith_agrees hreg Host.onBehalf_runs root s s hready (.refl s)
  refine ⟨result, like.dataModel, like.holdings, like.modules, like.prompts, like.log, ?_, like⟩
  rw [HostState.schemas, HostState.schemas, like.modules]

/-- An element that sets an entry. -/
def Element.settingHome : Element :=
  ⟨"env:set", some envUri, [("name", "HOME"), ("value", "here")], []⟩

/-- An element that asks for a line. -/
def Element.askingName : Element :=
  ⟨"stdin:read", some stdinUri, [("location", "line"), ("prompt", "name? ")], []⟩

/-- A transition with a schema. -/
def Element.going : Element := ⟨"transition", none, [("event", "go"), ("event:schema", "[]")], []⟩

/-- An agent with the three, one of them inside an element that means nothing. -/
def Element.askingAgent : Element :=
  ⟨"agent", none, [("datamodel", "ecmascript")],
    [.settingHome, ⟨"state", none, [], [.askingName]⟩, .going]⟩

/-- A host for it. -/
def Host.asking : Host :=
  .ofDocument (.ofBuiltIn .memory ⟨[97, 10], none⟩ .working) ⟨.askingAgent, none⟩

/-- What it is executed in: all the vocabularies are loaded. -/
def Host.askingState : HostState :=
  ((asking.loadAll asking.onBehalf [agentUri, envUri, stdinUri]).run.runFrom
    (.fresh (some .empty) default)).2

/-- Executing the agent does its four actions. -/
theorem Host.execute_flat_asking :
    asking.registry = .ofBuiltIn .memory ⟨[97, 10], none⟩ .working ∧
      askingState.closed = false ∧
      askingState.AllBuiltIn .memory .working ∧
      (∀ el ∈ Element.preorder .askingAgent, ∀ uri, el.namespaceUri = some uri →
        asking.registry.contains uri = true → ∃ l, askingState.modules.find? uri = some l) ∧
      flat true .askingAgent =
        [.header .askingAgent, .set .settingHome, .read .askingName, .noteSchema .going] ∧
      ((asking.execute .askingAgent).run.runFrom askingState).2.Like
        ((Action.performAll (flat true .askingAgent)).run.runFrom askingState).2 := by
  have hopen : askingState.closed = false := rfl
  have hbuiltIn : askingState.AllBuiltIn .memory .working :=
    (loadAll_runs _ _ trivial).allBuiltIn rfl nofun
  have hloaded : ∀ el ∈ Element.preorder .askingAgent, ∀ uri, el.namespaceUri = some uri →
      asking.registry.contains uri = true → ∃ l, askingState.modules.find? uri = some l := by
    have hall : ((Element.preorder .askingAgent).all fun el => el.namespaceUri.all fun uri =>
        (askingState.modules.find? uri).isSome) = true := rfl
    intro el hel uri hns _
    have huri := List.all_eq_true.1 hall el hel
    rw [hns] at huri
    exact Option.isSome_iff_exists.1 huri
  obtain ⟨-, -, -, -, -, -, -, hlike⟩ := execute_flat asking .memory ⟨[97, 10], none⟩ .working rfl
    askingState hopen hbuiltIn .askingAgent hloaded
  exact ⟨rfl, hopen, hbuiltIn, hloaded, rfl, hlike⟩

end MarkupActions
