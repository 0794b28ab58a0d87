import Mathlib.Data.List.Nodup
import MarkupActions.Proofs.Host.Outcomes
import MarkupActions.Proofs.Host.Reading
import MarkupActions.Proofs.Host.Wrapping
import MarkupActions.Proofs.Text.Lowercase

/-!
# MarkupActions.Proofs.Host.Schemas

**The event schemas of a document are those of its transitions.** Executing an `agent` notes the
schemas of all transitions inside it before anything else happens; what is noted later, by agents
further inside and by transitions that are met, has been noted then already. So how far execution
gets does not matter for which events have a schema, and each has that of one of its transitions.

Every action notes the same pairs of an event and a schema wherever it is done (`HostM.Notes`), and
in a document these are pairs of its transitions (`declared_subset_of_mem_flat`). Here it counts that
a transition is told by its name in two ways, by the scan and by execution, which agree
(`Text.lowercase_eq_iff`).
-/

namespace MarkupActions

variable {s t : HostState} {pairs more : List (String × String)} {table : Dict String}

/-! ### What transitions declare -/

namespace Element

/-- A transition that has an event and a schema for it. -/
structure Declares (el : Element) (event schema : String) : Prop where
  isTransition : Text.eqIgnoringAsciiCase el.localName "transition" = true
  hasEvent : el.attribute? "event" = some event
  event_ne : event ≠ ""
  hasSchema : el.attribute? "event:schema" = some schema
  schema_ne : schema ≠ ""

theorem attributeD_eq_iff (el : Element) (name : String) {v : String} (hv : v ≠ "") :
    el.attributeD name = v ↔ el.attribute? name = some v := by
  rw [attributeD]
  cases el.attribute? name with
  | none => exact iff_of_false (fun h => hv h.symm) (Option.some_ne_none v).symm
  | some w => exact (Option.some_inj).symm

/-- The schemas that an element declares itself are those of a transition with an event. -/
theorem mem_ownSchemas (el : Element) (event schema : String) :
    (event, schema) ∈ el.ownSchemas ↔ el.Declares event schema := by
  rw [ownSchemas, schemaPair]
  constructor
  · intro h
    split at h
    · next htransition =>
      split at h
      · next hboth =>
        obtain ⟨hschema, hevent⟩ := hboth
        cases List.mem_singleton.1 h
        exact ⟨htransition, (el.attributeD_eq_iff _ hevent).1 rfl, hevent,
          (el.attributeD_eq_iff _ hschema).1 rfl, hschema⟩
      · cases h
    · cases h
  · rintro ⟨htransition, hevent, hevent_ne, hschema, hschema_ne⟩
    have hevent' := (el.attributeD_eq_iff _ hevent_ne).2 hevent
    have hschema' : el.attributeD Agent.schemaAttribute = schema :=
      (el.attributeD_eq_iff _ hschema_ne).2 hschema
    have hagent : Agent.isTransition el = true := htransition
    rw [if_pos hagent, hevent', hschema', if_pos ⟨hschema_ne, hevent_ne⟩]
    exact List.mem_singleton.2 rfl

/-- A tree declares what one of its elements does. -/
theorem mem_declaredSchemas (el : Element) (event schema : String) :
    (event, schema) ∈ el.declaredSchemas ↔ ∃ x ∈ el.preorder, x.Declares event schema := by
  simp only [declaredSchemas, List.mem_flatMap, mem_ownSchemas]

end Element

/-! ### What is noted -/

/-- The module of `agent` is loaded, and this is what it has recorded. -/
def HostState.Records (table : Dict String) (s : HostState) : Prop :=
  ∃ serial, s.modules.find? agentUri = some ⟨serial, .agent table⟩

/-- Where the module of `agent` is loaded, the computation notes these pairs in turn. -/
def HostM.Notes {α : Type} (pairs : List (String × String)) (x : HostM α) : Prop :=
  ∀ s table, s.Records table → (x.runFrom s).2.Records (table.insertAll pairs)

namespace HostM.Notes

variable {α β ε : Type}

theorem pure (a : α) : Notes [] (Pure.pure a : HostM α) := fun _ _ h => h

/-- What is noted by the parts is noted in turn. -/
theorem bind {x : HostM α} {f : α → HostM β} (hx : x.Notes pairs) (hf : ∀ a, (f a).Notes more) :
    (x >>= f).Notes (pairs ++ more) := by
  intro s table h
  rw [runFrom_bind, Dict.insertAll_append]
  exact hf _ _ _ (hx s table h)

/-- What leaves the module of `agent` where it is notes nothing. -/
theorem of_find? {x : HostM α}
    (hx : ∀ s, (x.runFrom s).2.modules.find? agentUri = s.modules.find? agentUri) : x.Notes [] := by
  rintro s table ⟨serial, h⟩
  exact ⟨serial, (hx s).trans h⟩

/-- A computation that leaves all modules as they are notes nothing. -/
theorem of_modules {x : HostM α} (hx : ∀ s, (x.runFrom s).2.modules = s.modules) : x.Notes [] :=
  of_find? fun s => congrArg (·.find? agentUri) (hx s)

theorem readExcept {f : HostState → ExceptT ε HostM β} (hf : ∀ s, (f s).run.Notes pairs) :
    ((getThe HostState : ExceptT ε HostM HostState) >>= f).run.Notes pairs := by
  intro s table h
  rw [runFrom_run_bind, runFrom_run_getThe]
  exact hf s s table h

theorem lift {x : HostM α} (hx : x.Notes pairs) :
    (liftM x : ExceptT ε HostM α).run.Notes pairs := hx

theorem log (label message : String) : (HostM.log label message).Notes [] :=
  of_modules fun _ => rfl

/-- Keeping a schema notes it. -/
theorem record (event schema : String) :
    (modify (·.updateModule agentUri (Agent.record event schema)) : HostM PUnit).Notes
      [(event, schema)] := by
  rintro s table ⟨serial, h⟩
  refine ⟨serial, ?_⟩
  rw [runFrom_modify, HostState.find?_updateModule_self, h]
  rfl

end HostM.Notes

open HostM (Notes)

/-! ### What leaves the modules as they are -/

@[simp] theorem ActionM.modules_assign (location : String) (v : Value) (failure : ActionError)
    (s : HostState) : ((ActionM.assign location v failure).run.runFrom s).2.modules = s.modules := by
  cases hmodel : s.dataModel with
  | none => rw [runFrom_assign_of_none s hmodel]
  | some m => rw [runFrom_assign s hmodel]

theorem Env.modules_getEntry (store : Store) (el : Element) (s : HostState) :
    ((getEntry store el).run.runFrom s).2.modules = s.modules := by
  rw [runFrom_getEntry]
  cases getRequest el s.dataModel with
  | error e => rfl
  | ok q =>
    dsimp only
    rw [ActionM.modules_assign, modules_lookedUp]

theorem Env.modules_setEntry (uri : String) (store : Store) (el : Element) (s : HostState) :
    ((setEntry uri store el).run.runFrom s).2.modules = s.modules := by
  rw [runFrom_setEntry]
  cases setRequest el s.dataModel with
  | error e => rfl
  | ok q =>
    dsimp only
    cases store.set s.holdings q.name q.value <;> rfl

/-- Storing what was read changes no module; the line is taken before. -/
theorem Stdin.modules_storeReading (q : Request) (reading : InputStream.Reading) (s : HostState) :
    ((storeReading q reading).run.runFrom s).2.modules = s.modules := by
  cases reading with
  | failed reason => rfl
  | line line => exact ActionM.modules_assign _ _ _ s

/-- A `read` replaces the input of its own module only. -/
theorem Stdin.find?_read {uri other : String} (hother : other ≠ uri) (input : InputStream)
    (sink : PromptSink) (el : Element) (s : HostState) :
    ((read uri input sink el).run.runFrom s).2.modules.find? other = s.modules.find? other := by
  by_cases hreaches : ∃ q, Reaches sink s.dataModel el q
  · obtain ⟨q, hq⟩ := hreaches
    obtain ⟨shown, hshown, hread⟩ := read_reaches uri hq (rfl : input.readLine = _)
    rw [hread, modules_storeReading, HostState.modules_note,
      HostState.find?_updateModule_of_ne shown uri _ hother, hshown.modules_eq]
  · obtain ⟨e, shown, -, hshown, hread⟩ := read_early uri input (not_exists.1 hreaches)
    rw [hread, hshown.modules_eq]

theorem modules_assignElement (el : Element) (s : HostState) :
    ((assignElement el).run.runFrom s).2.modules = s.modules := by
  rw [runFrom_assignElement]
  cases assignRequest el s.dataModel with
  | error e => rfl
  | ok request => exact ActionM.modules_assign _ _ _ s

theorem modules_logElement (el : Element) (s : HostState) :
    ((logElement el).run.runFrom s).2.modules = s.modules := by
  rw [runFrom_logElement]
  cases logRequest el s.dataModel <;> rfl

/-! ### What each action notes -/

/-- What `agent` writes is noted, pair by pair. -/
theorem Agent.Writes.notes {x : HostM Unit} (h : Writes agentUri pairs x) : x.Notes pairs := by
  induction h with
  | nothing => exact .pure ()
  | line label message => exact .log label message
  | schema event schema => exact .record event schema
  | andThen _ _ ihx ihy => exact ihx.bind fun _ => ihy

/-- What an action notes. -/
def Action.declared : Action → List (String × String)
  | .header el => el.declaredSchemas
  | .noteSchema el => el.schemaPair
  | .get _ | .set _ | .read _ | .assign _ | .log _ => []

/-- Every action notes what its element declares. -/
theorem Action.perform_notes (a : Action) : a.perform.run.Notes a.declared := by
  cases a with
  | get el =>
    refine Notes.readExcept ?_
    intro s
    split
    · exact .of_modules (Env.modules_getEntry _ el)
    · exact .pure _
  | set el =>
    refine Notes.readExcept ?_
    intro s
    split
    · exact .of_modules (Env.modules_setEntry envUri _ el)
    · exact .pure _
  | read el =>
    refine Notes.readExcept ?_
    intro s
    split
    · exact .of_find? (Stdin.find?_read (by decide) _ _ el)
    · exact .pure _
  | header el => exact Notes.lift (Agent.announce_writes agentUri el).notes
  | noteSchema el => exact Notes.lift (Agent.noteTransition_writes agentUri el).notes
  | assign el => exact .of_modules (modules_assignElement el)
  | log el => exact .of_modules (modules_logElement el)

/-- Actions in turn note what they declare, up to the one that fails. -/
theorem Action.performAll_notes (as : List Action) (h : s.Records table) :
    ∃ done, done <+: as ∧ ((performAll as).run.runFrom s).2.Records
      (table.insertAll (done.flatMap Action.declared)) := by
  induction as generalizing s table with
  | nil => exact ⟨[], List.prefix_rfl, h⟩
  | cons a as ih =>
    have hfirst := a.perform_notes s table h
    rw [runFrom_performAll_cons]
    generalize a.perform.run.runFrom s = r at hfirst ⊢
    obtain ⟨e | _, t⟩ := r
    · refine ⟨[a], List.cons_prefix_cons.2 ⟨rfl, List.nil_prefix⟩, ?_⟩
      rw [List.flatMap_singleton]
      exact hfirst
    · obtain ⟨done, hdone, hrest⟩ := ih hfirst
      refine ⟨a :: done, List.cons_prefix_cons.2 ⟨rfl, hdone⟩, ?_⟩
      rw [List.flatMap_cons, Dict.insertAll_append]
      exact hrest

/-! ### Actions of a document -/

theorem Element.isTransition_of_action {el : Element} (h : el.action = "transition") :
    Agent.isTransition el = true :=
  (Text.lowercase_eq_iff el.localName rfl).1 h

theorem Element.ownSchemas_subset (el : Element) : el.ownSchemas ⊆ el.declaredSchemas := by
  intro pair hpair
  exact List.mem_flatMap.2 ⟨el, el.self_mem_preorder, hpair⟩

/-- An element's own actions note nothing but what is declared in it. -/
theorem Element.declared_subset_of_mem_plan {agentLoaded : Bool} {el : Element} {a : Action}
    (h : a ∈ (el.plan agentLoaded).1) : a.declared ⊆ el.declaredSchemas := by
  have hel := element_of_mem_plan h
  cases a with
  | get | set | read | assign | log => exact List.nil_subset _
  | header => exact hel ▸ List.Subset.refl _
  | noteSchema x =>
    obtain rfl : x = el := hel
    have htransition : x.action = "transition" := by
      unfold plan defaultPlan at h
      repeat' split at h
      all_goals
        first
        | exact (‹isAgents agentLoaded x = true ∧ x.action = "transition"›).2
        | cases List.mem_singleton.1 h
        | cases h
    have hown : x.ownSchemas = x.schemaPair := if_pos (isTransition_of_action htransition)
    rw [Action.declared, ← hown]
    exact x.ownSchemas_subset

/-- An element comes before what is below it. -/
theorem Element.declaredSchemas_eq (el : Element) :
    el.declaredSchemas = el.ownSchemas ++ (preorderAll el.children).flatMap ownSchemas := by
  rw [declaredSchemas, preorder_eq, List.flatMap_cons]

mutual

/-- What a document comes to notes nothing but what its transitions declare. -/
theorem declared_subset_of_mem_flat (agentLoaded : Bool) : ∀ (el : Element) (a : Action),
    a ∈ flat agentLoaded el → a.declared ⊆ el.declaredSchemas
  | ⟨tag, ns, attributes, children⟩, a, h => by
      rw [flat_eq, List.mem_append] at h
      rcases h with hown | hbelow
      · exact Element.declared_subset_of_mem_plan hown
      · split at hbelow
        · rw [Element.declaredSchemas_eq]
          exact List.subset_append_of_subset_right _
            (declared_subset_of_mem_flatAll agentLoaded children a hbelow)
        · cases hbelow

theorem declared_subset_of_mem_flatAll (agentLoaded : Bool) : ∀ (els : List Element) (a : Action),
    a ∈ flatAll agentLoaded els →
      a.declared ⊆ (Element.preorderAll els).flatMap Element.ownSchemas
  | [], a, h => by
      rw [flatAll] at h
      cases h
  | c :: rest, a, h => by
      rw [flatAll, List.mem_append] at h
      rw [Element.preorderAll, List.flatMap_append]
      rcases h with hfirst | hrest
      · exact List.subset_append_of_subset_left _ (declared_subset_of_mem_flat agentLoaded c a hfirst)
      · exact List.subset_append_of_subset_right _
          (declared_subset_of_mem_flatAll agentLoaded rest a hrest)

end

/-! ### The table of a session -/

section

variable {store : Store} {input : InputStream} {sink : PromptSink} {host : Host}

/-- The other built-in modules keep no schemas. -/
theorem Module.BuiltIn.schemas_of_ne {mod : Module} {uri : String}
    (h : mod.BuiltIn store sink uri) (hne : uri ≠ agentUri) : mod.schemas = .empty := by
  cases mod with
  | agent => exact absurd h hne
  | env | stdin => rfl
  | scripted => exact h.elim

/-- Among modules of the built-in vocabularies, that of `agent` alone has recorded schemas. -/
theorem Entries.foldl_schemas {entries : Entries Loaded} (hascending : entries.Ascending)
    (hbuiltIn : ∀ uri l, (uri, l) ∈ entries → l.mod.BuiltIn store sink uri) (acc : Dict String) :
    (entries.map Prod.snd).foldl (fun acc l => acc.insertAll l.mod.schemas.entries) acc =
      (entries.find? agentUri).elim acc fun l => acc.insertAll l.mod.schemas.entries := by
  induction entries generalizing acc with
  | nil => rfl
  | cons entry rest ih =>
    obtain ⟨uri, l⟩ := entry
    obtain ⟨hlt, hrest⟩ := List.pairwise_cons.1 hascending
    have hmod := hbuiltIn uri l List.mem_cons_self
    rw [List.map_cons, List.foldl_cons, find?_cons,
      ih hrest fun uri l h => hbuiltIn uri l (List.mem_cons_of_mem _ h)]
    split
    · next huri =>
      subst huri
      have hnone : find? agentUri rest = none := by
        rw [Option.eq_none_iff_forall_ne_some]
        intro other hother
        have hkey : agentUri ∈ keys rest := List.mem_map_of_mem (mem_of_find? hother)
        exact String.lt_irrefl _ (hlt _ hkey)
      rw [hnone]
      rfl
    · next huri =>
      rw [hmod.schemas_of_ne huri]
      rfl

/-- The schemas of a session are those of the module of `agent`, if it is loaded. -/
theorem HostState.AllBuiltIn.schemas_eq_find? (hs : s.AllBuiltIn store sink) :
    s.schemas = (s.modules.find? agentUri).elim .empty fun l => l.mod.schemas := by
  have hbuiltIn : ∀ uri l, (uri, l) ∈ s.modules.entries → l.mod.BuiltIn store sink uri :=
    fun uri l hmem => hs uri l ((s.modules.find?_eq_some_iff_mem uri l).2 hmem)
  have hfind : s.modules.entries.find? agentUri = s.modules.find? agentUri := rfl
  rw [schemas, Dict.values, Entries.foldl_schemas s.modules.ascending hbuiltIn, hfind]
  cases s.modules.find? agentUri with
  | none => rfl
  | some l => exact l.mod.schemas.ofList_entries

/-- The schemas of a session are those that `agent` has recorded. -/
theorem HostState.AllBuiltIn.schemas_eq (hs : s.AllBuiltIn store sink) (h : s.Records table) :
    s.schemas = table := by
  obtain ⟨serial, hl⟩ := h
  rw [hs.schemas_eq_find?, hl]
  rfl

/-- Before a document of `agent` is executed, its module has been loaded and has recorded nothing. -/
theorem Host.preload_records (hreg : host.registry = .ofBuiltIn store input sink)
    (hns : host.document.root.namespaceUri = some agentUri) (model : Option DataModel)
    (holdings : Holdings) :
    ∃ t, (host.preload host.onBehalf).run.runFrom (.fresh model holdings) = (.ok (), t) ∧
      Ready store sink true host.document.root.preorder t ∧ t.Records .empty := by
  have hbuiltIn : (HostState.fresh model holdings).AllBuiltIn store sink := nofun
  have hopen : (HostState.fresh model holdings).closed = false := rfl
  obtain ⟨t, hpreload, hready⟩ := host.preload_ready hreg hopen hbuiltIn
  obtain ⟨u, hpreload', hloads, -⟩ := host.preload_loads hreg hopen
  cases hpreload.symm.trans hpreload'
  obtain ⟨⟨serial, mod⟩, hl⟩ :=
    hready.loaded _ host.document.root.self_mem_preorder agentUri hns (.inl rfl)
  have hagent : (t.modules.find? agentUri).isSome = true := Option.isSome_iff_exists.2 ⟨_, hl⟩
  rw [hagent] at hready
  refine ⟨t, hpreload, hready, serial, ?_⟩
  rcases hloads.modules agentUri with hsame | ⟨-, l', v, hl', hv, hmod⟩
  · cases hl.symm.trans hsame
  · cases hl.symm.trans hl'
    rw [hreg, Registry.get?_ofBuiltIn, if_neg (by decide), if_neg (by decide), if_pos rfl] at hv
    cases hv
    cases hmod
    exact hl

/-- An `agent` is announced, and then its children are executed. -/
theorem flat_of_agent {el : Element} (hns : el.namespaceUri = some agentUri)
    (haction : el.action = "agent") : flat true el = .header el :: flatAll true el.children := by
  have henv : (some agentUri : Option String) ≠ some envUri := by decide
  have hstdin : (some agentUri : Option String) ≠ some stdinUri := by decide
  have hagents : el.isAgents true = true := by rw [Element.isAgents, hns]; rfl
  have hplan : el.plan true = ([.header el], true) := by
    rw [Element.plan, hns, if_neg fun h => henv h.1, if_neg fun h => henv h.1,
      if_neg fun h => hstdin h.1, if_pos ⟨hagents, haction⟩]
  rw [flat_eq, hplan]
  rfl

/-- What running a document of `agent` leaves recorded: what its transitions declare, and then again
some of that. -/
theorem Host.run_records (hreg : host.registry = .ofBuiltIn store input sink)
    (hns : host.document.root.namespaceUri = some agentUri)
    (haction : host.document.root.action = "agent") (model : Option DataModel)
    (holdings : Holdings) :
    ∃ more ⊆ host.document.root.declaredSchemas,
      (host.run.run.runFrom (.fresh model holdings)).2.schemas =
        .ofList (host.document.root.declaredSchemas ++ more) := by
  obtain ⟨t, hpreload, hready, hrecords⟩ := preload_records hreg hns model holdings
  have hrun : (host.run.run.runFrom (.fresh model holdings)).2 =
      ((host.execute host.document.root).run.runFrom t).2 := by
    rw [run, HostM.runFrom_run_bind, hpreload]
    rfl
  have hbuiltIn : ((host.execute host.document.root).run.runFrom t).2.AllBuiltIn store sink :=
    (execute_runs _ _ trivial).allBuiltIn hreg hready.builtIn
  obtain ⟨-, hlike, -⟩ :=
    executeWith_agrees hreg onBehalf_runs host.document.root t t hready (.refl t)
  -- The root notes all that is declared; what is done after it can only note some of that again.
  have hheader := (Action.header host.document.root).perform_notes t .empty hrecords
  obtain ⟨done, hdone, hnoted⟩ :=
    Action.performAll_notes (flatAll true host.document.root.children) hheader
  have hflat := flat_of_agent hns haction
  have hactions : ((Action.performAll (flat true host.document.root)).run.runFrom t).2 =
      ((Action.performAll (flatAll true host.document.root.children)).run.runFrom
        ((Action.header host.document.root).perform.run.runFrom t).2).2 := by
    rw [hflat, Action.runFrom_performAll_cons, Action.perform, HostM.runFrom_run_liftM]
  refine ⟨done.flatMap Action.declared, ?_, ?_⟩
  · intro pair hpair
    obtain ⟨a, ha, hdeclared⟩ := List.mem_flatMap.1 hpair
    have hmem : a ∈ flat true host.document.root := by
      rw [hflat]
      exact List.mem_cons_of_mem _ (hdone.subset ha)
    exact declared_subset_of_mem_flat true host.document.root a hmem hdeclared
  · rw [← hactions, ← Dict.insertAll_append] at hnoted
    obtain ⟨serial, hfind⟩ := hnoted
    rw [hrun]
    exact hbuiltIn.schemas_eq ⟨serial, (congrArg (·.find? agentUri) hlike.modules).trans hfind⟩

/-- **The schemas of a run are those of the document.** With the built-in vocabularies, running a
document of `agent` in a fresh session leaves a schema for just the events of its transitions, at
whatever depth, and it is one that such a transition gives. Where no two transitions give one for the
same event, the schemas are told by the document alone, however the run has ended. -/
theorem Host.run_schemas_declared (host : Host) (store : Store) (input : InputStream)
    (sink : PromptSink) (hreg : host.registry = .ofBuiltIn store input sink)
    (hns : host.document.root.namespaceUri = some agentUri)
    (haction : host.document.root.action = "agent") (model : Option DataModel)
    (holdings : Holdings) :
    let root := host.document.root
    let schemas := (host.run.run.runFrom (.fresh model holdings)).2.schemas
    (∀ event, event ∈ schemas.keys ↔ ∃ el ∈ root.preorder, ∃ schema, el.Declares event schema) ∧
      (∀ event schema, schemas.find? event = some schema →
        ∃ el ∈ root.preorder, el.Declares event schema) ∧
      ((root.declaredSchemas.map Prod.fst).Nodup → schemas = .ofList root.declaredSchemas) := by
  intro root schemas
  obtain ⟨more, hmore, hschemas⟩ : ∃ more ⊆ root.declaredSchemas,
      schemas = .ofList (root.declaredSchemas ++ more) := run_records hreg hns haction model holdings
  have hsame : ∀ pair, pair ∈ root.declaredSchemas ++ more ↔ pair ∈ root.declaredSchemas := by
    intro pair
    rw [List.mem_append]
    exact ⟨fun h => h.elim id (hmore ·), .inl⟩
  refine ⟨fun event => ?_, fun event schema h => ?_, fun hnodup => ?_⟩
  · rw [hschemas, Dict.mem_keys_ofList]
    simp only [hsame, Element.mem_declaredSchemas]
    exact ⟨fun ⟨schema, el, hel, h⟩ => ⟨el, hel, schema, h⟩,
      fun ⟨el, hel, schema, h⟩ => ⟨schema, el, hel, h⟩⟩
  · rw [hschemas] at h
    exact (root.mem_declaredSchemas event schema).1 ((hsame _).1 (Dict.mem_of_find?_ofList h))
  · rw [hschemas]
    refine Dict.ofList_eq_of_mem_iff ?_ hsame
    intro event v w hv hw
    have hpair := List.inj_on_of_nodup_map hnodup ((hsame _).1 hv) ((hsame _).1 hw) rfl
    exact congrArg Prod.snd hpair

end

/-- A transition with capitals in its name. -/
def Element.halting : Element :=
  ⟨"Transition", none, [("event", "halt"), ("event:schema", "\x7b\x7d")], []⟩

/-- An agent in its namespace that does not get to its second transition. -/
def Element.haltingAgent : Element :=
  ⟨"a:agent", some agentUri, [], [⟨"state", none, [], [.going]⟩, .placeless, .halting]⟩

/-- A host for it. -/
def Host.halting : Host :=
  .ofDocument (.ofBuiltIn .memory ⟨[], none⟩ .working) ⟨.haltingAgent, none⟩

/-- Both transitions have their schemas recorded, although the run fails between them. -/
theorem Host.run_schemas_declared_halting :
    halting.registry = .ofBuiltIn .memory ⟨[], none⟩ .working ∧
      halting.document.root.namespaceUri = some agentUri ∧
      halting.document.root.action = "agent" ∧
      (halting.document.root.declaredSchemas.map Prod.fst).Nodup ∧
      (halting.run.run.runFrom (.fresh none default)).2.schemas =
        .ofList [("go", "[]"), ("halt", "\x7b\x7d")] := by
  have haction : halting.document.root.action = "agent" := rfl
  have hdeclared : halting.document.root.declaredSchemas =
      [("go", "[]"), ("halt", "\x7b\x7d")] := rfl
  have hnodup : (halting.document.root.declaredSchemas.map Prod.fst).Nodup := by
    rw [hdeclared]
    decide
  obtain ⟨-, -, hschemas⟩ := run_schemas_declared halting .memory ⟨[], none⟩ .working rfl rfl
    haction none default
  rw [← hdeclared]
  exact ⟨rfl, rfl, haction, hnodup, hschemas hnodup⟩

end MarkupActions
