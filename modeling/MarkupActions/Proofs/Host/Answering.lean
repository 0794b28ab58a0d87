import MarkupActions.Proofs.Host.BuiltIn
import MarkupActions.Proofs.Host.Outcomes
import MarkupActions.Proofs.Text.Lowercase

/-!
# MarkupActions.Proofs.Host.Answering

**What the built-in modules make of an element.** Each module knows elements by a fixed list of
names. An element by one of these names is the module's own, and nothing that goes wrong with it is
a failure of the module: it has handled the element, and the action has failed. Any other element is
declined, and declining leaves no trace, but for a transition that a module of `agent` passes on: its
schema is noted (`Host.handling_spec`).

Modules tell elements apart by their names in lower case, with all the small letters Unicode knows;
the names themselves are written in ASCII, and none of them is met by a text outside it.
-/

namespace MarkupActions

variable {host : Host} {uri : String} {mod : Module} {el : Element} {s t : HostState}

/-! ### The names of actions -/

namespace Module

/-- The names of the elements that are a built-in module's own. -/
def actions : Module → List String
  | .agent _ => ["agent"]
  | .env _ => ["get", "set"]
  | .stdin _ _ => ["read"]
  | .scripted _ _ => []

/-- Whether an element bears one of the module's names, in ASCII letters of any case. -/
def knows (mod : Module) (el : Element) : Bool :=
  mod.actions.any (Text.eqIgnoringAsciiCase el.localName)

/-- The names that modules handle are in lower case and in ASCII already. -/
theorem isPlainName_of_mem_actions {name : String} (h : name ∈ mod.actions) :
    Text.isPlainName name = true := by
  have hall : mod.actions.all Text.isPlainName = true := by cases mod <;> rfl
  exact List.all_eq_true.1 hall name h

/-- A module goes by all of Unicode's small letters, but its names are met in ASCII only. -/
theorem knows_iff : mod.knows el = true ↔ el.action ∈ mod.actions := by
  rw [knows, List.any_eq_true]
  constructor
  · rintro ⟨name, hmem, hsame⟩
    have haction : el.action = name :=
      (Text.lowercase_eq_iff el.localName (isPlainName_of_mem_actions hmem)).2 hsame
    exact haction ▸ hmem
  · intro hmem
    exact ⟨el.action, hmem,
      (Text.lowercase_eq_iff el.localName (isPlainName_of_mem_actions hmem)).1 rfl⟩

end Module

/-- A module of `agent` goes by the same transitions, met on their own or inside an agent. -/
theorem Agent.isTransition_iff : Agent.isTransition el = true ↔ el.action = "transition" :=
  (Text.lowercase_eq_iff el.localName (by decide)).symm

/-! ### The schema of a transition -/

namespace HostState

/-- The state behind a transition with a schema that a module of `agent` has noted: one more line in
the log, and under its event, if it has one, the schema. -/
def noting (s : HostState) (uri event schema : String) : HostState :=
  { s with
    log := s.log.push ⟨"agent", "Transition event schema: " ++ schema⟩
    modules := if event = "" then s.modules
      else s.modules.modify uri fun l => { l with mod := Agent.record event schema l.mod } }

end HostState

namespace Agent

/-- Noting a transition without a schema does nothing. -/
theorem runFrom_noteTransition (uri : String) (el : Element) (s : HostState) :
    ((noteTransition uri el).runFrom s).2 =
      if el.attributeD schemaAttribute = "" then s
      else s.noting uri (el.attributeD "event") (el.attributeD schemaAttribute) := by
  unfold noteTransition HostState.noting
  dsimp only
  by_cases hschema : el.attributeD schemaAttribute = ""
  · rw [if_pos hschema, if_neg (not_not_intro hschema)]
    rfl
  · rw [if_neg hschema, if_pos hschema]
    by_cases hevent : el.attributeD "event" = ""
    · rw [if_pos hevent, if_neg (not_not_intro hevent)]
      rfl
    · rw [if_neg hevent, if_pos hevent]
      rfl

end Agent

/-- The state behind an element that a module has declined. -/
def Module.passingOn (uri : String) (el : Element) (s : HostState) : Module → HostState
  | .agent _ =>
      if Agent.isTransition el ∧ el.attributeD Agent.schemaAttribute ≠ "" then
        s.noting uri (el.attributeD "event") (el.attributeD Agent.schemaAttribute)
      else s
  | _ => s

/-! ### The answer of a module -/

/-- Whether an answer is that the element is the module's own. -/
def Reaction.isOwn : Reaction → Bool
  | .handled _ | .children _ => true
  | .declined | .failed _ => false

namespace Module

variable {reenter : Reenter}

/-- What a module knows is its own. -/
theorem isOwn_react (hplain : mod.isScripted = false) (h : mod.knows el = true) :
    ((mod.react reenter uri (some el)).runFrom s).1.isOwn = true := by
  rw [knows_iff] at h
  cases mod with
  | agent =>
    have haction : el.action = "agent" := List.mem_singleton.1 h
    rw [react_agent, Agent.runFrom_react, if_pos haction]
    rfl
  | env =>
    have haction : el.action = "get" ∨ el.action = "set" := by simpa [actions] using h
    rcases haction with haction | haction <;> simp [react_env, Env.react, haction] <;> rfl
  | stdin =>
    have haction : el.action = "read" := List.mem_singleton.1 h
    rw [react_stdin, Stdin.react, if_pos haction]
    rfl
  | scripted => cases hplain

/-- What it does not know is declined. -/
theorem react_declined (hplain : mod.isScripted = false) (h : mod.knows el = false) :
    (mod.react reenter uri (some el)).runFrom s = (.declined, mod.passingOn uri el s) := by
  rw [Bool.eq_false_iff, ne_eq, knows_iff] at h
  cases mod with
  | agent =>
    have haction : el.action ≠ "agent" := fun haction => h (List.mem_singleton.2 haction)
    rw [react_agent, Agent.runFrom_react, if_neg haction, Agent.runFrom_noteTransition, passingOn]
    by_cases htransition : el.action = "transition"
    · rw [if_pos htransition]
      by_cases hschema : el.attributeD Agent.schemaAttribute = ""
      · rw [if_pos hschema, if_neg fun both => both.2 hschema]
      · rw [if_neg hschema, if_pos ⟨Agent.isTransition_iff.2 htransition, hschema⟩]
    · rw [if_neg htransition, if_neg fun both => htransition (Agent.isTransition_iff.1 both.1)]
  | env =>
    have haction : el.action ≠ "get" ∧ el.action ≠ "set" := by simpa [actions] using h
    rw [react_env, Env.react, if_neg haction.1, if_neg haction.2]
    rfl
  | stdin =>
    have haction : el.action ≠ "read" := fun haction => h (List.mem_singleton.2 haction)
    rw [react_stdin, Stdin.react, if_neg haction]
    rfl
  | scripted => cases hplain

/-- Without an element there is nothing to answer. -/
theorem react_missing (hplain : mod.isScripted = false) (reenter : Reenter) (uri : String)
    (s : HostState) : ∃ e, e.kind = .invalidElement ∧
      (mod.react reenter uri none).runFrom s = (.failed e, s) := by
  cases mod with
  | agent | env | stdin => exact ⟨_, rfl, rfl⟩
  | scripted => cases hplain

end Module

/-! ### Handling -/

namespace Host

/-- What a module registered under a URI does with an element, or with the absence of one: it fails,
or it declines the element, or has handled it with the given result. Children that are left to the
host are executed for it. -/
def handling (host : Host) (uri : String) (mod : Module) (el : Option Element) :
    HostM (Except ActionError Dispatch) := do
  match ← mod.react host.onBehalf uri el with
  | .declined => return .ok .declined
  | .handled result => return .ok (.handled result)
  | .failed e => return .error e
  | .children wrap =>
      return .ok (.handled
        (← (host.executeEach host.onBehalf wrap (el.getD default).children).outcome))

/-- A session that is asked to handle something has its module do it. -/
theorem runFrom_handle (hopen : s.closed = false) {l : Loaded}
    (hl : s.modules.find? uri = some l) (el : Option Element) :
    (host.handle uri el).run.runFrom s =
      (.ok (some ((host.handling uri l.mod el).runFrom (s.note (.handled uri l.serial))).1),
        ((host.handling uri l.mod el).runFrom (s.note (.handled uri l.serial))).2) := by
  rw [handle, HostM.runFrom_run_bind, module?_of_find? hopen hl]
  dsimp only
  rw [HostM.runFrom_run_bind, HostM.runFrom_run_liftM, runFrom_ask, handling, HostM.runFrom_bind]
  generalize (l.mod.react host.onBehalf uri el).runFrom (s.note (.handled uri l.serial)) = r
  obtain ⟨_ | _ | _ | _, t⟩ := r <;> rfl

/-- What a module takes as its own counts as handled when the module is called directly. -/
theorem exists_handled_of_isOwn
    (h : ((mod.react host.onBehalf uri (some el)).runFrom s).1.isOwn = true) :
    ∃ result, ((host.handling uri mod (some el)).runFrom s).1 = .ok (.handled result) := by
  rw [handling, HostM.runFrom_bind]
  generalize (mod.react host.onBehalf uri (some el)).runFrom s = r at h ⊢
  obtain ⟨_ | result | wrap | _, t⟩ := r
  · cases h
  · exact ⟨result, rfl⟩
  · exact ⟨_, rfl⟩
  · cases h

/-- **What built-in modules make of an element.** In every state of its own and of the host, a
module has handled the elements that bear one of its names in ASCII letters of any case, however the
action went, and has declined all others. Declining leaves the state as it was, but for a transition
with a schema that a module of `agent` has noted, and it notes what it would have noted of the same
element inside an agent. Only the absence of an element is a failure, and then nothing is done. What
the session does when it is asked to handle something is what its module does. -/
theorem handling_spec (host : Host) (uri : String) {mod : Module}
    (hplain : mod.isScripted = false) :
    (∀ el s, mod.knows el = true →
      ∃ result, ((host.handling uri mod (some el)).runFrom s).1 = .ok (.handled result)) ∧
    (∀ el s, mod.knows el = false →
      (host.handling uri mod (some el)).runFrom s = (.ok .declined, mod.passingOn uri el s)) ∧
    (∀ s, ∃ e, e.kind = .invalidElement ∧
      (host.handling uri mod none).runFrom s = (.error e, s)) ∧
    (∀ el : Element, el.action = "transition" ↔ Agent.isTransition el = true) ∧
    ∀ el s serial, s.closed = false → s.modules.find? uri = some ⟨serial, mod⟩ →
      (host.handle uri el).run.runFrom s =
        (.ok (some ((host.handling uri mod el).runFrom (s.note (.handled uri serial))).1),
          ((host.handling uri mod el).runFrom (s.note (.handled uri serial))).2) := by
  refine ⟨fun el s h => ?own, fun el s h => ?other, fun s => ?missing,
    fun el => Agent.isTransition_iff.symm, fun el s serial hopen hl => runFrom_handle hopen hl el⟩
  case own => exact exists_handled_of_isOwn (Module.isOwn_react hplain h)
  case other =>
    rw [handling, HostM.runFrom_bind, Module.react_declined hplain h]
    rfl
  case missing =>
    obtain ⟨e, hkind, hreact⟩ := Module.react_missing hplain host.onBehalf uri s
    refine ⟨e, hkind, ?_⟩
    rw [handling, HostM.runFrom_bind, hreact]
    rfl

/-- A session whose only module is that of `agent`. -/
def agentSession : HostState :=
  { HostState.fresh none default with modules := Dict.empty.insert agentUri ⟨1, .agent .empty⟩ }

/-- A transition in capitals, with an event and a schema. -/
def loudTransition : Element :=
  ⟨"a:TRANSITION", none, [("event", "go"), (Agent.schemaAttribute, "{}")], []⟩

/-- A tag in capitals is met like any other. -/
theorem handling_spec_loudTransition :
    Module.isScripted (.agent .empty) = false ∧ Module.knows (.agent .empty) loudTransition = false ∧
      agentSession.closed = false ∧
      agentSession.modules.find? agentUri = some ⟨1, .agent .empty⟩ ∧
      ((ofDocument .empty default).handle agentUri (some loudTransition)).run.runFrom agentSession =
        (.ok (some (.ok .declined)),
          (agentSession.note (.handled agentUri 1)).noting agentUri "go" "{}") := by
  have hplain : Module.isScripted (.agent .empty) = false := rfl
  have hunknown : Module.knows (.agent .empty) loudTransition = false := by decide
  have hloaded : agentSession.modules.find? agentUri = some ⟨1, .agent .empty⟩ := rfl
  refine ⟨hplain, hunknown, rfl, hloaded, ?_⟩
  obtain ⟨-, hdeclined, -, -, hsession⟩ :=
    handling_spec (ofDocument .empty default) agentUri hplain
  rw [hsession _ _ 1 rfl hloaded, hdeclined _ _ hunknown]
  rfl

end Host

end MarkupActions
