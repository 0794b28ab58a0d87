import MarkupActions.Proofs.Host.Loading
import MarkupActions.Proofs.Paths

/-!
# MarkupActions.Proofs.Host.Outcomes

**What becomes of a single action.** Every action resolves what it is asked for, then touches the
world outside, and stores its result last. The equations below say so. A write that is refused
changes nothing, so that an action that fails in the last step has only done what comes before it.

On the way to its action an element only has modules loaded and asked (`HostState.Prepares`), unless
a script is among those that are asked.
-/

namespace MarkupActions

variable {s t : HostState}

/-! ### The last step -/

namespace ActionM

variable {location : String} {v : Value} {failure e : ActionError}

/-- A value that is refused leaves everything as it was. -/
theorem assign_error (h : (ActionM.assign location v failure).run.runFrom s = (.error e, t)) :
    t = s ∧ ∃ reason, e = failure.becauseText reason := by
  cases hmodel : s.dataModel with
  | none =>
    rw [runFrom_assign_of_none s hmodel] at h
    cases h
  | some m =>
    rw [runFrom_assign s hmodel] at h
    cases hwrite : (m.write location v).2 with
    | ok =>
      rw [hwrite] at h
      cases h
    | error refusal =>
      have hsame : (m.write location v).1 = m :=
        DataModel.write_refused (by rw [hwrite]; nofun)
      rw [hwrite, hsame, ← hmodel] at h
      cases h
      exact ⟨rfl, refusal.message, rfl⟩

/-- A value that is stored is where it was to go, and nothing but the data model has changed. -/
theorem assign_ok {m : DataModel} (hmodel : s.dataModel = some m)
    (h : (ActionM.assign location v failure).run.runFrom s = (.ok (), t)) :
    (m.write location v).2 = .ok () ∧ t = { s with dataModel := some (m.write location v).1 } := by
  rw [runFrom_assign s hmodel] at h
  cases hwrite : (m.write location v).2 with
  | ok =>
    rw [hwrite] at h
    cases h
    exact ⟨rfl, rfl⟩
  | error refusal =>
    rw [hwrite] at h
    cases h

end ActionM

/-! ### Entries of a store -/

namespace Env

/-- The text that is found for a key: its value, or else the default of the request. -/
def GetRequest.answer (store : Store) (holdings : Holdings) (q : GetRequest) : String :=
  (store.get? holdings q.name).getD (q.default.getD "")

/-- The default that a request falls back on; none if the key is set. -/
def GetRequest.fallback? (store : Store) (holdings : Holdings) (q : GetRequest) : Option String :=
  match store.get? holdings q.name with
  | some _ => none
  | none => q.default

/-- The state behind looking up a key: a default that had to be used is in the log. -/
def lookedUp (store : Store) (q : GetRequest) (s : HostState) : HostState :=
  match q.fallback? store s.holdings with
  | some value => s.addLog "env" (defaultMessage q.name value)
  | none => s

/-- Looking an entry up gives its value or the default, and logs when it is the default. -/
theorem runFrom_lookup (store : Store) (q : GetRequest) (s : HostState) :
    (lookup store q).runFrom s = (q.answer store s.holdings, lookedUp store q s) := by
  rw [lookup, HostM.runFrom_bind, HostM.runFrom_get, GetRequest.answer, lookedUp,
    GetRequest.fallback?]
  cases store.get? s.holdings q.name with
  | some value => rfl
  | none => cases q.default <;> rfl

@[simp] theorem dataModel_lookedUp (store : Store) (q : GetRequest) (s : HostState) :
    (lookedUp store q s).dataModel = s.dataModel := by
  unfold lookedUp
  split <;> rfl

@[simp] theorem holdings_lookedUp (store : Store) (q : GetRequest) (s : HostState) :
    (lookedUp store q s).holdings = s.holdings := by
  unfold lookedUp
  split <;> rfl

@[simp] theorem modules_lookedUp (store : Store) (q : GetRequest) (s : HostState) :
    (lookedUp store q s).modules = s.modules := by
  unfold lookedUp
  split <;> rfl

@[simp] theorem events_lookedUp (store : Store) (q : GetRequest) (s : HostState) :
    (lookedUp store q s).events = s.events := by
  unfold lookedUp
  split <;> rfl

/-- A default that is used gets a line in the log. -/
theorem log_lookedUp (store : Store) (q : GetRequest) (s : HostState) :
    (lookedUp store q s).log = (q.fallback? store s.holdings).elim s.log fun value =>
      s.log.push ⟨"env", defaultMessage q.name value⟩ := by
  unfold lookedUp
  cases q.fallback? store s.holdings <;> rfl

/-- What `get` comes to, in full. -/
theorem runFrom_getEntry (store : Store) (el : Element) (s : HostState) :
    (getEntry store el).run.runFrom s =
      match getRequest el s.dataModel with
      | .error e => (.error e, s)
      | .ok q => (ActionM.assign q.location (.string (q.answer store s.holdings))
          (getFailure q)).run.runFrom (lookedUp store q s) := by
  rw [getEntry, HostM.runFrom_getThe_bind, HostM.runFrom_run_bind, ActionM.runFrom_ofExcept]
  cases getRequest el s.dataModel with
  | error e => rfl
  | ok q =>
    dsimp only
    rw [HostM.runFrom_run_bind, HostM.runFrom_run_liftM, runFrom_lookup]

/-- What `set` comes to: the store may refuse, and then nothing has changed. -/
theorem runFrom_setEntry (uri : String) (store : Store) (el : Element) (s : HostState) :
    (setEntry uri store el).run.runFrom s =
      match setRequest el s.dataModel with
      | .error e => (.error e, s)
      | .ok q => match store.set s.holdings q.name q.value with
        | .ok holdings => (.ok (), { s with holdings := holdings }.note (.stored uri q.name q.value))
        | .error e => (.error ((setFailure q).becauseText e.message), s) := by
  rw [setEntry, HostM.runFrom_getThe_bind, HostM.runFrom_run_bind, ActionM.runFrom_ofExcept]
  cases setRequest el s.dataModel with
  | error e => rfl
  | ok q =>
    dsimp only
    cases store.set s.holdings q.name q.value <;> rfl

end Env

/-! ### Default processing -/

/-- What `assign` comes to. -/
theorem runFrom_assignElement (el : Element) (s : HostState) :
    (assignElement el).run.runFrom s =
      match assignRequest el s.dataModel with
      | .error e => (.error e, s)
      | .ok (location, value) => (ActionM.assign location value
          ((ActionError.of .assignment "assign" ("Failed to assign to " ++ location)).withData
            "location" (.string location))).run.runFrom s := by
  rw [assignElement, HostM.runFrom_getThe_bind, HostM.runFrom_run_bind, ActionM.runFrom_ofExcept]
  cases assignRequest el s.dataModel <;> rfl

/-- What `log` comes to. -/
theorem runFrom_logElement (el : Element) (s : HostState) :
    (logElement el).run.runFrom s =
      match logRequest el s.dataModel with
      | .error e => (.error e, s)
      | .ok (label, message) => (.ok (), s.addLog label message) := by
  rw [logElement, HostM.runFrom_getThe_bind, HostM.runFrom_run_bind, ActionM.runFrom_ofExcept]
  cases logRequest el s.dataModel <;> rfl

/-! ### Up to default processing -/

/-- Whether a script decides what a module does. -/
def Module.isScripted : Module → Bool
  | .scripted _ _ => true
  | _ => false

/-- No script has a say in what becomes of an element. -/
inductive Host.AsksNoScript (host : Host) (s : HostState) (el : Element) : Prop where
  /-- It goes to the module for its namespace. -/
  | routed {uri : String} {mod : Module} (hns : el.namespaceUri = some uri)
      (hmod : host.moduleFor s uri = some mod) (hplain : mod.isScripted = false)
  /-- There is nothing for its namespace. -/
  | unregistered {uri : String} (hns : el.namespaceUri = some uri)
      (hnone : s.modules.find? uri = none) (hreg : host.registry.get? uri = none)
  /-- It is offered to modules that are loaded. -/
  | offered (hns : el.namespaceUri = none)
      (hplain : ∀ uri l, s.modules.find? uri = some l → l.mod.isScripted = false)

/-- Only scripts have elements executed, so to any other module it is all one how that is done. -/
theorem Module.react_reenter {mod : Module} (hplain : mod.isScripted = false)
    (reenter reenter' : Reenter) (uri : String) (el : Option Element) :
    mod.react reenter uri el = mod.react reenter' uri el := by
  cases mod with
  | agent | env | stdin => rfl
  | scripted => cases hplain

/-- `assign` and `log` mean nothing to a module that comes with the library. -/
theorem Module.react_default {mod : Module} {el : Element} (hplain : mod.isScripted = false)
    (h : el.action = "assign" ∨ el.action = "log") (reenter : Reenter) (uri : String)
    (s : HostState) : (mod.react reenter uri (some el)).runFrom s = (.declined, s) := by
  cases mod with
  | agent => rcases h with h | h <;> simp [react_agent, Agent.react, h]
  | env => rcases h with h | h <;> simp [react_env, Env.react, h]
  | stdin => rcases h with h | h <;> simp [react_stdin, Stdin.react, h]
  | scripted => cases hplain

namespace Host

variable {host : Host} {reenter : Reenter} {el : Element}

/-- A session that has been torn down executes nothing. -/
theorem executeWith_of_closed (host : Host) (reenter : Reenter) (h : s.closed = true)
    (el : Element) : ∃ e, e.kind = .load ∧
      (host.executeWith reenter el).run.runFrom s = (.error e, s) := by
  rw [runFrom_executeWith, runFrom_reaction_of_closed h]
  exact ⟨_, rfl, rfl⟩

/-- Built-in modules decline `assign` and `log`, wherever these are offered. -/
theorem runFrom_offerTo_default (host : Host) (reenter : Reenter)
    (h : el.action = "assign" ∨ el.action = "log")
    (hplain : ∀ uri l, s.modules.find? uri = some l → l.mod.isScripted = false)
    (uris : List String) :
    ∃ t, s.Prepares host t ∧ (offerTo reenter el uris).run.runFrom s = (.ok .declined, t) := by
  induction uris generalizing s with
  | nil => exact ⟨s, .refl host s, rfl⟩
  | cons uri rest ih =>
    rw [offerTo, HostM.runFrom_getThe_bind]
    cases hfind : s.modules.find? uri with
    | none => exact ih hplain
    | some l =>
      obtain ⟨t, hprepares, hrest⟩ := ih (s := s.note (.handled uri l.serial)) hplain
      refine ⟨t, (HostState.Prepares.asked host s uri l.serial).trans hprepares, ?_⟩
      rw [← hrest]
      dsimp only
      rw [HostM.runFrom_run_bind, HostM.runFrom_run_liftM, runFrom_ask,
        Module.react_default (hplain uri l hfind) h]

/-- `assign` and `log` come to default processing unless a script is asked. -/
theorem executeWith_default (reenter : Reenter) (hopen : s.closed = false)
    (h : el.action = "assign" ∨ el.action = "log") (hplain : host.AsksNoScript s el) :
    ∃ t, s.Prepares host t ∧ (host.executeWith reenter el).run.runFrom s =
      (host.byDefault reenter el).run.runFrom t := by
  have hreaction : ∃ t, s.Prepares host t ∧
      (host.reaction reenter el).run.runFrom s = (.ok .declined, t) := by
    cases hplain with
    | @routed uri mod hns hmod hplain =>
      obtain ⟨t, serial, hprepares, -, -, hroute⟩ :=
        runFrom_route_of_moduleFor reenter hopen hmod el
      rw [Module.react_default hplain h] at hroute
      rw [reaction, hns]
      exact ⟨t, hprepares, hroute⟩
    | unregistered hns hnone hreg =>
      rw [reaction, hns]
      exact ⟨s, .refl host s, runFrom_route_of_get?_none hopen hnone hreg el⟩
    | offered hns hplain =>
      obtain ⟨t, hprepares, hoffer⟩ := runFrom_offerTo_default host reenter h hplain (accepting s)
      rw [reaction, hns]
      exact ⟨t, hprepares, (runFrom_offerAround hopen el).trans hoffer⟩
  obtain ⟨t, hprepares, hreaction⟩ := hreaction
  refine ⟨t, hprepares, ?_⟩
  rw [runFrom_executeWith, hreaction]

end Host

end MarkupActions
