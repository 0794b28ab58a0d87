import MarkupActions.Proofs.Host.Agentless
import MarkupActions.Proofs.Host.BesidesAgent
import MarkupActions.Proofs.Host.Closed

/-!
# MarkupActions.Proofs.Host.Unqualified

**Having the empty namespace and having none.** Where a document resets the default namespace, its
elements are outside any namespace again, and so are elements that never had one. A host tells them
apart: only the latter are offered to the modules that accept such elements. So `agent`, where it is
loaded, misses the transitions and agents for which the namespace has been reset.

What comes of that is put together here from what modules overlook, from what can be done without
`agent`, and from what `agent` alone can write.
-/

namespace MarkupActions

variable {host : Host} {store : Store} {input : InputStream} {sink : PromptSink}
  {Kind : Element → Prop} {s t : HostState} {el el' : Element}

/-- After teardown twins are refused with the same failure. -/
theorem Host.execute_twins_closed (hclosed : s.closed = true) (htwins : el.Twins Kind el') :
    (host.execute el).run.runFrom s = (host.execute el').run.runFrom s := by
  rw [runFrom_execute_of_closed hclosed, runFrom_execute_of_closed hclosed, tooLate, tooLate,
    htwins.tag_eq, htwins.localName_eq, htwins.place_eq]

/-! ### Transitions -/

/-- The schema of a transition is logged. -/
theorem Agent.log_noteTransition (hschema : el.attributeD schemaAttribute ≠ "") (s : HostState) :
    ((noteTransition agentUri el).runFrom s).2.log =
      s.log.push ⟨"agent", "Transition event schema: " ++ el.attributeD schemaAttribute⟩ := by
  unfold noteTransition
  dsimp only
  rw [if_pos hschema, HostM.runFrom_bind, HostM.runFrom_log]
  split <;> rfl

namespace Host

variable {l : Loaded} (hreg : host.registry = .ofBuiltIn store input sink) (hs : s.Plain store sink)
  (htransition : el.action = "transition")
include hreg hs htransition

/-- A transition without a namespace is noted where `agent` is loaded. -/
theorem execute_transition_unqualified (hl : s.modules.find? agentUri = some l)
    (hns : el.namespaceUri = none) (hschema : el.attributeD Agent.schemaAttribute ≠ "") :
    ((host.execute el).run.runFrom s).2.log =
        s.log.push ⟨"agent", "Transition event schema: " ++ el.attributeD Agent.schemaAttribute⟩ ∧
      ((host.execute el).run.runFrom s).2.schemas = s.schemas.insertAll el.schemaPair := by
  have hagent : el.action ≠ "agent" := by
    rw [htransition]
    decide
  have hleft : ((host.execute el).run.runFrom s).2 =
      ((Agent.noteTransition agentUri el).runFrom (s.note (.handled agentUri l.serial))).2 := by
    rw [execute, runFrom_executeWith, runFrom_reaction_agent hs.isOpen hs.builtIn hl (.inr hns),
      Agent.runFrom_react, if_neg hagent, if_pos htransition]
    simp [byDefault, htransition]
  constructor
  · rw [hleft, Agent.log_noteTransition hschema, HostState.log_note]
  · obtain ⟨schemas, hmod⟩ := (hs.builtIn agentUri l hl).eq_agent
    have hrecords : s.Records schemas := ⟨l.serial, by rw [hl, ← hmod]⟩
    have hnotes := (Agent.noteTransition_writes agentUri el).notes
      (s.note (.handled agentUri l.serial)) schemas hrecords
    rw [← hleft] at hnotes
    have hrun : Run host s ((host.execute el).run.runFrom s).2 := execute_runs el s trivial
    have hbuiltIn := hrun.allBuiltIn hreg hs.builtIn
    rw [hbuiltIn.schemas_eq hnotes, hs.builtIn.schemas_eq hrecords]

/-- A transition with the empty namespace is not even asked about. -/
theorem execute_transition_reset (hns : el.namespaceUri = some "") :
    (host.execute el).run.runFrom s = (.ok (), s) := by
  rw [execute, runFrom_executeWith, runFrom_reaction_unregistered hreg hs.isOpen hs.builtIn hns
    (by decide) (by decide) (by decide)]
  simp [byDefault, htransition]

end Host

/-! ### The difference -/

/-- Two executions end alike: with one result, and in states that differ at most in the record of which
modules were asked. -/
structure EndAlike (x y : Except ActionError Unit × HostState) : Prop where
  result : x.1 = y.1
  like : x.2.Like y.2
  prompts : x.2.prompts = y.2.prompts
  schemas : x.2.schemas = y.2.schemas

theorem EndAlike.refl (x : Except ActionError Unit × HostState) : EndAlike x x :=
  ⟨rfl, .refl x.2, rfl, rfl⟩

/-- States that are alike end alike. -/
theorem EndAlike.of_like {x y : Except ActionError Unit × HostState}
    (h : x.1 = y.1 ∧ x.2.Like y.2) : EndAlike x y :=
  ⟨h.1, h.2, h.2.prompts, h.2.schemas⟩

/-- Built-in modules overlook all elements but agents, and transitions with a schema. -/
theorem HostState.overlooks_builtIn (hreg : host.registry = .ofBuiltIn store input sink)
    (hs : s.AllBuiltIn store sink) (hkind : ∀ el, Kind el → el.action ≠ "agent" ∧
      (el.action = "transition" → el.attributeD Agent.schemaAttribute = "")) :
    s.Overlooks host Kind := by
  have hoverlooks : ∀ (uri : String) (mod : Module), mod.BuiltIn store sink uri →
      uri ≠ "" ∧ mod.Overlooks Kind := by
    intro uri mod hmod
    by_cases hne : uri = agentUri
    · subst hne
      obtain ⟨schemas, rfl⟩ := hmod.eq_agent
      exact ⟨by decide, hkind⟩
    · exact hmod.overlooks hne
  exact ⟨fun uri v mod hget hmakes => hoverlooks uri mod (.of_makes (hreg ▸ hget) hmakes),
    fun uri l hl => hoverlooks uri l.mod (hs uri l hl)⟩

/-- **The empty namespace and none.** Take two trees that are the same, but that where an element of
one has no namespace, that of the other may have the empty one, and the other way round.

Executing the two ends alike wherever the modules overlook the elements in which the trees differ: with
the same result, variables, log, stores, modules and prompts. In a session of built-in modules this is
so if none of these elements is an agent, or a transition with a schema; and it is so for all trees if
`agent` is neither loaded nor used. In every such session the two succeed or fail together, and differ
at most in what `agent` has logged and kept.

In that they do differ. Where `agent` is loaded, a transition with a schema is logged and kept if it has
no namespace; if it has the empty one, nothing happens at all. -/
theorem Host.execute_twins (host : Host) (s : HostState) (Kind : Element → Prop) (el el' : Element)
    (htwins : el.Twins Kind el') :
    let one := (host.execute el).run.runFrom s
    let other := (host.execute el').run.runFrom s
    (s.Overlooks host Kind → EndAlike one other) ∧
    ∀ store input sink, host.registry = .ofBuiltIn store input sink → s.AllBuiltIn store sink →
      ((∀ x : Element, Kind x → x.action ≠ "agent" ∧
        (x.action = "transition" → x.attributeD Agent.schemaAttribute = "")) → EndAlike one other) ∧
      (s.modules.find? agentUri = none → el.Agentless → EndAlike one other) ∧
      (one.1.isOk = other.1.isOk ∧ one.2.BesidesAgent host other.2 ∧
        one.2.prompts = other.2.prompts) ∧
      ∀ (l : Loaded) (x : Element), s.closed = false → s.modules.find? agentUri = some l →
        x.action = "transition" → x.attributeD Agent.schemaAttribute ≠ "" →
          let noted := (host.execute { x with namespaceUri := none }).run.runFrom s
          noted.2.log =
            s.log.push ⟨"agent", "Transition event schema: " ++ x.attributeD Agent.schemaAttribute⟩ ∧
          noted.2.schemas = s.schemas.insertAll x.schemaPair ∧
          (host.execute (x.inNamespace "")).run.runFrom s = (.ok (), s) := by
  intro one other
  have hoverlooked : s.Overlooks host Kind → EndAlike one other :=
    fun hs => .of_like (execute_overlooked htwins hs)
  have hrefused : s.closed = true → one = other := fun h => execute_twins_closed h htwins
  refine ⟨hoverlooked, fun store input sink hreg hbuiltIn => ⟨?_, ?_, ?_, ?_⟩⟩
  · intro hkind
    exact hoverlooked (HostState.overlooks_builtIn hreg hbuiltIn hkind)
  · intro hnone hel
    cases hclosed : s.closed with
    | true =>
      rw [hrefused hclosed]
      exact .refl other
    | false => exact .of_like (execute_twins_agentless hreg ⟨hclosed, hbuiltIn⟩ hnone htwins hel)
  · cases hclosed : s.closed with
    | true =>
      rw [hrefused hclosed]
      exact ⟨rfl, .refl host other.2, rfl⟩
    | false =>
      obtain ⟨hok, hbesides⟩ := execute_besides hreg ⟨hclosed, hbuiltIn⟩ htwins
      exact ⟨hok, hbesides, hbesides.prompts⟩
  · intro l x hopen hl htransition hschema noted
    have hs : s.Plain store sink := ⟨hopen, hbuiltIn⟩
    have hbare : { x with namespaceUri := none }.action = "transition" := htransition
    have hreset : (x.inNamespace "").action = "transition" := htransition
    obtain ⟨hlog, hschemas⟩ := execute_transition_unqualified hreg hs hbare hl rfl hschema
    exact ⟨hlog, hschemas, execute_transition_reset hreg hs hreset rfl⟩

/-- A transition with a schema, without a namespace. -/
def Element.passing : Element :=
  ⟨"transition", none, [("event", "go"), ("event:schema", "[]")], []⟩

/-- A line of the log, without a namespace. -/
def Element.telling : Element := ⟨"log", none, [("expr", "1")], []⟩

/-- A document with an agent, and then these two elements. -/
def Element.holding (transition line : Element) : Element :=
  ⟨"r", none, [], [⟨"a:agent", some agentUri, [], []⟩, transition, line]⟩

/-- A host for such a document. -/
def Host.holding : Host :=
  .ofDocument (.ofBuiltIn .memory ⟨[], none⟩ .working) ⟨.holding .passing .telling, none⟩

/-- An element without children, and the same with the empty namespace. -/
theorem Element.Twins.leaf {tag : String} {attributes : List (String × String)}
    (hkind : ∀ ns, Kind ⟨tag, ns, attributes, []⟩) :
    Twins Kind ⟨tag, some "", attributes, []⟩ ⟨tag, none, attributes, []⟩ :=
  .of rfl (fun _ => ⟨hkind _, hkind _⟩) .nil

/-- Elements that hold twins are twins. -/
theorem Element.holding_twins {transition transition' line line' : Element}
    (h : transition.Twins Kind transition') (h' : line.Twins Kind line') :
    (holding transition line).Twins Kind (holding transition' line') :=
  .of rfl (fun hne => absurd rfl hne) (.cons (.refl _) (.cons h (.cons h' .nil)))

/-- Resetting the namespace for the line makes no difference; nor does resetting that of the transition
where there is no agent, or to anyone but `agent`. -/
theorem Host.execute_twins_holding :
    let s := HostState.fresh (some .empty) default
    let announced := { s with modules := Dict.empty.insert agentUri ⟨1, .agent .empty⟩ }
    (holding.registry = .ofBuiltIn .memory ⟨[], none⟩ .working ∧ s.AllBuiltIn .memory .working ∧
      announced.AllBuiltIn .memory .working ∧ announced.closed = false) ∧
    (s.Overlooks holding (fun x => x.action = "log") ∧
      EndAlike ((holding.execute (.holding .passing (Element.telling.inNamespace ""))).run.runFrom s)
        ((holding.execute (.holding .passing .telling)).run.runFrom s)) ∧
    ((Element.passing.inNamespace "").Agentless ∧
      EndAlike ((holding.execute (Element.passing.inNamespace "")).run.runFrom s)
        ((holding.execute .passing).run.runFrom s)) ∧
    ((holding.execute (.holding (Element.passing.inNamespace "") .telling)).run.runFrom s).2.BesidesAgent
      holding ((holding.execute (.holding .passing .telling)).run.runFrom s).2 ∧
    ((holding.execute .passing).run.runFrom announced).2.log =
      #[⟨"agent", "Transition event schema: []"⟩] := by
  intro s announced
  have hs : s.AllBuiltIn .memory .working := nofun
  have hannounced : announced.AllBuiltIn .memory .working := by
    intro uri l hl
    rw [Dict.find?_insert] at hl
    split at hl
    · next huri =>
      cases hl
      exact huri
    · cases hl
  have hoverlooked : ∀ x : Element, x.action = "log" → x.action ≠ "agent" ∧
      (x.action = "transition" → x.attributeD Agent.schemaAttribute = "") := by
    intro x hx
    rw [hx]
    exact ⟨by decide, fun h => absurd h (by decide)⟩
  have hoverlooks : s.Overlooks holding fun x => x.action = "log" :=
    HostState.overlooks_builtIn rfl hs hoverlooked
  have hagentless : (Element.passing.inNamespace "").Agentless := by
    unfold Element.Agentless
    decide
  have htelling : (Element.telling.inNamespace "").Twins (fun x => x.action = "log") .telling :=
    .leaf fun _ => show Text.lowercase (localPart "log") = "log" by decide
  have hpassing : (Element.passing.inNamespace "").Twins (fun _ => True) .passing :=
    .leaf fun _ => trivial
  obtain ⟨hline, -⟩ := execute_twins holding s (fun x => x.action = "log")
    (.holding .passing (Element.telling.inNamespace "")) (.holding .passing .telling)
    (Element.holding_twins (.refl .passing) htelling)
  obtain ⟨-, halone⟩ := execute_twins holding s (fun _ => True) (Element.passing.inNamespace "")
    .passing hpassing
  obtain ⟨-, hpassed⟩ := execute_twins holding s (fun _ => True)
    (.holding (Element.passing.inNamespace "") .telling) (.holding .passing .telling)
    (Element.holding_twins hpassing (.refl .telling))
  obtain ⟨-, hnoted⟩ := execute_twins holding announced (fun _ => True) .passing .passing
    (.refl .passing)
  obtain ⟨-, halone, -, -⟩ := halone .memory ⟨[], none⟩ .working rfl hs
  obtain ⟨-, -, ⟨-, hpassed, -⟩, -⟩ := hpassed .memory ⟨[], none⟩ .working rfl hs
  obtain ⟨-, -, -, hnoted⟩ := hnoted .memory ⟨[], none⟩ .working rfl hannounced
  obtain ⟨hlog, -, -⟩ := hnoted ⟨1, .agent .empty⟩ .passing rfl rfl (by decide) (by decide)
  exact ⟨⟨rfl, hs, hannounced, rfl⟩, ⟨hoverlooks, hline hoverlooks⟩,
    ⟨hagentless, halone rfl hagentless⟩, hpassed, hlog⟩

/-- Resetting the namespace of the transition keeps `agent` from noting it. -/
theorem Host.reset_transition_missed :
    let one := (holding.execute (.holding (Element.passing.inNamespace "") .telling)).run.runFrom
      (.fresh (some .empty) default)
    let other := (holding.execute (.holding .passing .telling)).run.runFrom
      (.fresh (some .empty) default)
    (Element.holding (Element.passing.inNamespace "") .telling).Twins (fun _ => True)
        (.holding .passing .telling) ∧
      one.2.log = #[⟨"", "1"⟩] ∧ one.2.schemas.entries = [] ∧
      other.2.log = #[⟨"agent", "Transition event schema: []"⟩, ⟨"", "1"⟩] ∧
      other.2.schemas.entries = [("go", "[]")] := by
  intro one other
  have htwins : (Element.passing.inNamespace "").Twins (fun _ => True) .passing :=
    .leaf fun _ => trivial
  exact ⟨Element.holding_twins htwins (.refl _), rfl, rfl, rfl, rfl⟩

end MarkupActions
