import MarkupActions.Proofs.Host.Computation

/-!
# MarkupActions.Proofs.Host.Dispatch

**Where an element goes.** Equations for the way of an element through a host: to the module of its
namespace, which may have to be loaded, or to the modules that accept elements outside any
namespace, and from what the module answers to what is done with the element.
-/

namespace MarkupActions

/-! ### The built-in modules -/

namespace Module

variable (reenter : Reenter) (uri : String) (el : Option Element)

/-- A module of `agent` reacts as `Agent.react` says. -/
theorem react_agent (schemas : Dict String) :
    (Module.agent schemas).react reenter uri el = Agent.react uri el := rfl

theorem react_env (store : Store) :
    (Module.env store).react reenter uri el = Env.react uri store el := rfl

theorem react_stdin (input : InputStream) (sink : PromptSink) :
    (Module.stdin input sink).react reenter uri el = Stdin.react uri input sink el := rfl

variable {el : Element}

/-- An element `get` is handled, with what becomes of the action. -/
theorem react_get (h : el.action = "get") (store : Store) :
    (Module.env store).react reenter uri (some el) = Reaction.ofAction (Env.getEntry store el) := by
  rw [react_env, Env.react, if_pos h]

theorem react_set (h : el.action = "set") (store : Store) :
    (Module.env store).react reenter uri (some el) =
      Reaction.ofAction (Env.setEntry uri store el) := by
  have hget : el.action ≠ "get" := by
    rw [h]
    decide
  rw [react_env, Env.react, if_neg hget, if_pos h]

theorem react_read (h : el.action = "read") (input : InputStream) (sink : PromptSink) :
    (Module.stdin input sink).react reenter uri (some el) =
      Reaction.ofAction (Stdin.read uri input sink el) := by
  rw [react_stdin, Stdin.react, if_pos h]

end Module

namespace Host

variable {host : Host} {reenter : Reenter} {s : HostState} {uri : String}

/-! ### Whether the session is open -/

theorem runFrom_ensureOpen (hopen : s.closed = false) : ensureOpen.run.runFrom s = (.ok (), s) := by
  rw [ensureOpen, HostM.runFrom_getThe_bind, hopen]
  rfl

/-- Everything that asks first whether the session is open fails once it is not. -/
theorem runFrom_ensureOpen_of_closed (h : s.closed = true) :
    ensureOpen.run.runFrom s = (.error .closed, s) := by
  rw [ensureOpen, HostM.runFrom_getThe_bind, h]
  rfl

/-! ### The module of a namespace -/

/-- A session that has been torn down has no modules to give. -/
theorem module?_of_closed (h : s.closed = true) :
    (host.module? reenter uri).run.runFrom s = (.error .closed, s) := by
  rw [module?, HostM.runFrom_run_bind, runFrom_ensureOpen_of_closed h]

/-- A module that is there is given, without a call to the loader. -/
theorem module?_of_find? (hopen : s.closed = false) {l : Loaded}
    (h : s.modules.find? uri = some l) :
    (host.module? reenter uri).run.runFrom s = (.ok (some l), s) := by
  rw [module?, HostM.runFrom_run_bind, runFrom_ensureOpen hopen]
  simp only [HostM.runFrom_getThe_bind, h]
  rfl

/-- There is none for a namespace that has no vocabulary. -/
theorem module?_of_get?_none (hopen : s.closed = false) (h : s.modules.find? uri = none)
    (hreg : host.registry.get? uri = none) :
    (host.module? reenter uri).run.runFrom s = (.ok none, s) := by
  have hnot : host.registry.contains uri = false := by
    simpa [Registry.contains, Dict.contains, Registry.get?] using hreg
  rw [module?, HostM.runFrom_run_bind, runFrom_ensureOpen hopen]
  simp only [HostM.runFrom_getThe_bind, h, hnot, Bool.false_eq_true, if_false]
  rfl

/-- The first use of a namespace calls its loader, and keeps what it returns unless the namespace
has got a module in the meantime. -/
theorem module?_of_get? (hopen : s.closed = false) (h : s.modules.find? uri = none)
    {v : Vocabulary} (hreg : host.registry.get? uri = some v) :
    (host.module? reenter uri).run.runFrom s =
      match (v.load reenter (s.calls uri + 1) host.document.root).run.runFrom
        (s.note (.called uri (s.calls uri + 1))) with
      | (.ok mod, t) =>
          (.ok (some ((t.modules.find? uri).getD ⟨s.calls uri + 1, mod⟩)),
            t.receive uri ⟨s.calls uri + 1, mod⟩)
      | (.error e, t) => (.error e, t) := by
  have hcontains : host.registry.contains uri = true := by
    simpa [Registry.contains, Dict.contains, Registry.get?] using congrArg Option.isSome hreg
  simp only [module?, HostM.runFrom_run_bind, runFrom_ensureOpen hopen, HostM.runFrom_run_getThe, h,
    hcontains, if_true, load, hreg, HostM.runFrom_run_liftM, HostM.runFrom_note]
  -- What the loader does is not looked into.
  generalize (v.load reenter (s.calls uri + 1) host.document.root).run.runFrom
    (s.note (.called uri (s.calls uri + 1))) = r
  obtain ⟨e | mod, t⟩ := r
  · rfl
  · simp [HostState.find?_receive_self]

theorem runFrom_ask (uri : String) (l : Loaded) (el : Option Element) :
    (ask reenter uri l el).runFrom s =
      (l.mod.react reenter uri el).runFrom (s.note (.handled uri l.serial)) := rfl

/-- The module that the session gives is asked. -/
theorem runFrom_route_of_module? {l : Loaded} {t : HostState}
    (h : (host.module? reenter uri).run.runFrom s = (.ok (some l), t)) (el : Element) :
    (host.route reenter uri el).run.runFrom s =
      match (ask reenter uri l (some el)).runFrom t with
      | (.failed e, t) => (.error (.action e), t)
      | (reaction, t) => (.ok reaction, t) := by
  rw [route, HostM.runFrom_run_bind, h]
  simp only [HostM.runFrom_run_bind, HostM.runFrom_run_liftM]
  rcases (ask reenter uri l (some el)).runFrom t with ⟨_ | _ | _ | _, t⟩ <;> rfl

/-- A module that is there is asked. -/
theorem runFrom_route (hopen : s.closed = false) {l : Loaded} (h : s.modules.find? uri = some l)
    (el : Element) :
    (host.route reenter uri el).run.runFrom s =
      match (ask reenter uri l (some el)).runFrom s with
      | (.failed e, t) => (.error (.action e), t)
      | (reaction, t) => (.ok reaction, t) :=
  runFrom_route_of_module? (module?_of_find? hopen h) el

/-- An element of such a namespace is declined. -/
theorem runFrom_route_of_get?_none (hopen : s.closed = false) (h : s.modules.find? uri = none)
    (hreg : host.registry.get? uri = none) (el : Element) :
    (host.route reenter uri el).run.runFrom s = (.ok .declined, s) := by
  rw [route, HostM.runFrom_run_bind, module?_of_get?_none hopen h hreg]
  rfl

/-- An open session offers an element to the modules that accept such elements at that moment. -/
theorem runFrom_offerAround (hopen : s.closed = false) (el : Element) :
    (offerAround reenter el).run.runFrom s =
      (offerTo reenter el (accepting s)).run.runFrom s := by
  rw [offerAround, HostM.runFrom_run_bind, runFrom_ensureOpen hopen]
  rfl

/-! ### A session that has been torn down -/

theorem runFrom_route_of_closed (h : s.closed = true) (el : Element) :
    (host.route reenter uri el).run.runFrom s = (.error .closed, s) := by
  rw [route, HostM.runFrom_run_bind, module?_of_closed h]

theorem runFrom_offerAround_of_closed (h : s.closed = true) (el : Element) :
    (offerAround reenter el).run.runFrom s = (.error .closed, s) := by
  rw [offerAround, HostM.runFrom_run_bind, runFrom_ensureOpen_of_closed h]

/-- No element goes anywhere any more. -/
theorem runFrom_reaction_of_closed (h : s.closed = true) (el : Element) :
    (host.reaction reenter el).run.runFrom s = (.error .closed, s) := by
  unfold reaction
  split
  · exact runFrom_route_of_closed h el
  · exact runFrom_offerAround_of_closed h el

/-! ### An element and its children -/

/-- What is done with an element that no module takes. -/
def byDefault (host : Host) (reenter : Reenter) (el : Element) : ActionM Unit :=
  if el.action = "assign" then assignElement el
  else if el.action = "log" then logElement el
  else if el.action = "transition" then pure ()
  else host.executeEach reenter passOn el.children

/-- The answer to an element decides what is done with it. -/
theorem runFrom_executeWith (el : Element) (s : HostState) :
    (host.executeWith reenter el).run.runFrom s =
      match (host.reaction reenter el).run.runFrom s with
      | (.error e, t) => (.error (e.forElement el.tag el.localName (el.namespaceUri.getD "")), t)
      | (.ok (.failed e), t) => (.error e, t)
      | (.ok (.handled result), t) => (result, t)
      | (.ok (.children wrap), t) => (host.executeEach reenter wrap el.children).run.runFrom t
      | (.ok .declined, t) => (host.byDefault reenter el).run.runFrom t := by
  obtain ⟨tag, ns, attributes, children⟩ := el
  rw [executeWith]
  simp only [HostM.runFrom_run_bind, HostM.runFrom_run_liftM]
  rcases (host.reaction reenter ⟨tag, ns, attributes, children⟩).run.runFrom s with
    ⟨e | _ | result | wrap | e, t⟩
  · rfl
  · rfl
  · exact ActionM.runFrom_ofExcept t result
  · rfl
  · rfl

/-- What an action comes to is the result with which its element is handled. -/
theorem runFrom_ofAction (x : ActionM Unit) (s : HostState) :
    (Reaction.ofAction x).runFrom s = (.handled (x.run.runFrom s).1, (x.run.runFrom s).2) := rfl

/-- An element that is an action of its module goes as the action does. -/
theorem runFrom_executeWith_of_action (hopen : s.closed = false) {l : Loaded} {el : Element}
    (hns : el.namespaceUri = some uri) (h : s.modules.find? uri = some l) {x : ActionM Unit}
    (hreact : l.mod.react reenter uri (some el) = Reaction.ofAction x) :
    (host.executeWith reenter el).run.runFrom s =
      x.run.runFrom (s.note (.handled uri l.serial)) := by
  rw [runFrom_executeWith, reaction, hns]
  dsimp only
  rw [runFrom_route hopen h, runFrom_ask, hreact, runFrom_ofAction]

end Host

end MarkupActions
