import MarkupActions.Proofs.Host.Execution
import MarkupActions.Proofs.Host.Loading

/-!
# MarkupActions.Proofs.Host.BuiltIn

**Sessions of built-in modules.** When only the three built-in vocabularies are registered, each
under its own URI, every loaded module is one of theirs, and of these only that of `agent` accepts
elements outside any namespace. So where an element goes is told by its namespace alone, and by
whether `agent` is loaded.
-/

namespace MarkupActions

/-- The registry of the built-in vocabularies over any store, any input and any place for
prompts. -/
def Registry.ofBuiltIn (store : Store) (input : InputStream) (sink : PromptSink) : Registry :=
  (Registry.empty.registerAll
    [(agentUri, .agent), (envUri, .env store), (stdinUri, .stdin input sink)]).1

/-- Whether a module is that of a built-in vocabulary, under its own URI. -/
def Module.BuiltIn (store : Store) (sink : PromptSink) (uri : String) : Module → Prop
  | .agent _ => uri = agentUri
  | .env kept => uri = envUri ∧ kept = store
  | .stdin _ kept => uri = stdinUri ∧ kept = sink
  | .scripted _ _ => False

/-- All loaded modules are built in. -/
def HostState.AllBuiltIn (store : Store) (sink : PromptSink) (s : HostState) : Prop :=
  ∀ uri l, s.modules.find? uri = some l → l.mod.BuiltIn store sink uri

variable {host : Host} {store : Store} {input : InputStream} {sink : PromptSink} {uri : String}
  {s t : HostState}

/-! ### What is registered -/

/-- Each of the three URIs has its vocabulary, and there are no others. -/
theorem Registry.get?_ofBuiltIn (uri : String) : (ofBuiltIn store input sink).get? uri =
    if uri = stdinUri then some (.stdin input sink)
    else if uri = envUri then some (.env store)
    else if uri = agentUri then some .agent
    else none := by
  have hentries : ofBuiltIn store input sink = ⟨((Dict.empty.insert agentUri .agent).insert envUri
      (.env store)).insert stdinUri (.stdin input sink)⟩ := rfl
  rw [hentries, get?, Dict.find?_insert, Dict.find?_insert, Dict.find?_insert, Dict.find?_empty]

theorem Registry.contains_ofBuiltIn (uri : String) : (ofBuiltIn store input sink).contains uri = true ↔
    uri = agentUri ∨ uri = envUri ∨ uri = stdinUri := by
  have hget : (ofBuiltIn store input sink).contains uri =
      ((ofBuiltIn store input sink).get? uri).isSome := rfl
  rw [hget, get?_ofBuiltIn]
  split
  · next h => simp [h]
  · split
    · next h => simp [h]
    · split
      · next h => simp [h]
      · next h h' h'' => simp [h, h', h'']

/-- Their loaders execute nothing. -/
theorem Registry.module?_ofBuiltIn {v : Vocabulary}
    (h : (ofBuiltIn store input sink).get? uri = some v) : ∃ mod, v.module? = some mod := by
  rw [get?_ofBuiltIn] at h
  split at h
  · cases h
    exact ⟨_, rfl⟩
  · split at h
    · cases h
      exact ⟨_, rfl⟩
    · split at h
      · cases h
        exact ⟨_, rfl⟩
      · cases h

/-! ### What is loaded -/

namespace Module.BuiltIn

variable {mod : Module}

/-- A module stays built in, whatever it keeps. -/
theorem of_alike {a b : Module} (h : a.BuiltIn store sink uri) (halike : a.Alike b) :
    b.BuiltIn store sink uri := by
  cases halike <;> exact h

/-- The modules that the registry makes are built in. -/
theorem of_makes {v : Vocabulary} (hreg : (Registry.ofBuiltIn store input sink).get? uri = some v)
    (h : v.Makes mod) : mod.BuiltIn store sink uri := by
  rw [Registry.get?_ofBuiltIn] at hreg
  split at hreg
  · next huri =>
    cases hreg
    cases h
    exact ⟨huri, rfl⟩
  · split at hreg
    · next huri =>
      cases hreg
      cases h
      exact ⟨huri, rfl⟩
    · split at hreg
      · next huri =>
        cases hreg
        cases h
        exact huri
      · cases hreg

/-- Of the three only `agent` accepts elements outside any namespace. -/
theorem acceptsUnqualified_eq (h : mod.BuiltIn store sink uri) :
    mod.acceptsUnqualified = decide (uri = agentUri) := by
  cases mod with
  | agent => exact (decide_eq_true (show uri = agentUri from h)).symm
  | env => exact h.1 ▸ rfl
  | stdin => exact h.1 ▸ rfl
  | scripted => exact h.elim

theorem registered (h : mod.BuiltIn store sink uri) :
    uri = agentUri ∨ uri = envUri ∨ uri = stdinUri := by
  cases mod with
  | agent => exact .inl h
  | env => exact .inr (.inl h.1)
  | stdin => exact .inr (.inr h.1)
  | scripted => exact h.elim

theorem eq_agent (h : mod.BuiltIn store sink agentUri) : ∃ schemas, mod = .agent schemas := by
  cases mod with
  | agent schemas => exact ⟨schemas, rfl⟩
  | env | stdin => exact absurd h.1 (by decide)
  | scripted => exact h.elim

theorem eq_env (h : mod.BuiltIn store sink envUri) : mod = .env store := by
  cases mod with
  | agent => exact absurd h (show ¬ envUri = agentUri by decide)
  | env => exact congrArg Module.env h.2
  | stdin => exact absurd h.1 (by decide)
  | scripted => exact h.elim

theorem eq_stdin (h : mod.BuiltIn store sink stdinUri) : ∃ input, mod = .stdin input sink := by
  cases mod with
  | agent => exact absurd h (show ¬ stdinUri = agentUri by decide)
  | env => exact absurd h.1 (by decide)
  | stdin input => exact ⟨input, congrArg (Module.stdin input) h.2⟩
  | scripted => exact h.elim

end Module.BuiltIn

/-- Where modules stay of their kind and none is added, all stay built in. -/
theorem HostState.AllBuiltIn.of_keeps (hs : s.AllBuiltIn store sink)
    (hkeeps : ∀ uri l, s.modules.find? uri = some l →
      ∃ m, t.modules.find? uri = some ⟨l.serial, m⟩ ∧ l.mod.Alike m)
    (hnone : ∀ uri, s.modules.find? uri = none → t.modules.find? uri = none) :
    t.AllBuiltIn store sink :=
  HostState.All.of_keeps (P := Module.BuiltIn store sink) (fun _ _ _ => .of_alike) hs hkeeps hnone

/-- Loading adds built-in modules only. -/
theorem HostState.AllBuiltIn.of_loads (hreg : host.registry = .ofBuiltIn store input sink)
    (hs : s.AllBuiltIn store sink) (h : s.Loads host t) : t.AllBuiltIn store sink := by
  intro uri l hl
  rcases h.modules uri with hsame | ⟨-, l', v, hl', hv, hmod⟩
  · exact hs uri l (hsame ▸ hl)
  · cases hl.symm.trans hl'
    rw [hreg] at hv
    exact .of_makes hv (Vocabulary.makes_of_module? hmod)

/-- Nothing is loaded for a namespace that is not registered. -/
theorem HostState.AllBuiltIn.find?_of_get?_none (hreg : host.registry = .ofBuiltIn store input sink)
    (hs : s.AllBuiltIn store sink) (h : host.registry.get? uri = none) :
    s.modules.find? uri = none := by
  refine Option.eq_none_iff_forall_ne_some.2 fun l hl => ?_
  have hcontains : (Registry.ofBuiltIn store input sink).contains uri = true :=
    (Registry.contains_ofBuiltIn uri).2 (hs uri l hl).registered
  rw [hreg] at h
  exact Option.not_isSome_iff_eq_none.2 h hcontains

/-- A session with nothing else registered has loaded nothing else. -/
theorem Run.allBuiltIn (hreg : host.registry = .ofBuiltIn store input sink) (h : Run host s t)
    (hs : s.AllBuiltIn store sink) : t.AllBuiltIn store sink :=
  h.all_modules (P := Module.BuiltIn store sink) (fun _ _ _ => .of_alike)
    (fun _ _ _ hget => .of_makes (hreg ▸ hget)) hs

/-! ### Where an element goes -/

/-- Only `agent` accepts elements outside any namespace. -/
theorem HostState.AllBuiltIn.accepting (hs : s.AllBuiltIn store sink) :
    Host.accepting s = if (s.modules.find? agentUri).isSome then [agentUri] else [] := by
  have hsame : (s.modules.entries.filter fun entry => entry.2.mod.acceptsUnqualified) =
      s.modules.entries.filter fun entry => entry.1 = agentUri := by
    refine List.filter_congr ?_
    intro entry hentry
    have hfind : s.modules.find? entry.1 = some entry.2 :=
      Entries.find?_of_mem s.modules.ascending hentry
    exact (hs _ _ hfind).acceptsUnqualified_eq
  rw [Host.accepting, hsame]
  exact Entries.keys_filter_of_ascending s.modules.ascending agentUri

/-- Announcing an agent, or noting a schema, changes no module but that of `agent`. -/
theorem Agent.Writes.leaves {pairs : List (String × String)} {x : HostM Unit}
    (h : Writes uri pairs x) (s : HostState) : (x.runFrom s).2.dataModel = s.dataModel ∧
      ∀ other, other ≠ uri → (x.runFrom s).2.modules.find? other = s.modules.find? other := by
  induction h generalizing s with
  | nothing | line => exact ⟨rfl, fun _ _ => rfl⟩
  | schema event schema => exact ⟨rfl, fun other hne => s.find?_updateModule_of_ne uri _ hne⟩
  | @andThen _ _ x y _ _ ihx ihy =>
    obtain ⟨hmodel, hfind⟩ := ihx s
    obtain ⟨hmodel', hfind'⟩ := ihy (x.runFrom s).2
    exact ⟨hmodel'.trans hmodel, fun other hne => (hfind' other hne).trans (hfind other hne)⟩

/-- A module of `agent` has the children of its own elements executed, and notes transitions in
passing. -/
theorem Agent.runFrom_react (uri : String) (el : Element) (s : HostState) :
    (react uri (some el)).runFrom s =
      if el.action = "agent" then (.children (childFailure el), ((announce uri el).runFrom s).2)
      else if el.action = "transition" then (.declined, ((noteTransition uri el).runFrom s).2)
      else (.declined, s) := by
  unfold react
  dsimp only
  split
  · rfl
  · split <;> rfl

theorem Agent.react_children_or_declined (uri : String) (el : Element) (s : HostState) :
    (∃ wrap, ((react uri (some el)).runFrom s).1 = .children wrap) ∨
      ((react uri (some el)).runFrom s).1 = .declined := by
  rw [runFrom_react]
  split
  · exact .inl ⟨_, rfl⟩
  · split <;> exact .inr rfl

namespace Host

variable {reenter : Reenter} {el : Element}

/-- An element of `agent`, by its namespace or for want of one, goes to the module of `agent`. -/
theorem runFrom_reaction_agent (hopen : s.closed = false) (hs : s.AllBuiltIn store sink)
    {l : Loaded} (hl : s.modules.find? agentUri = some l)
    (hns : el.namespaceUri = some agentUri ∨ el.namespaceUri = none) :
    (host.reaction reenter el).run.runFrom s =
      (.ok ((Agent.react agentUri (some el)).runFrom (s.note (.handled agentUri l.serial))).1,
        ((Agent.react agentUri (some el)).runFrom (s.note (.handled agentUri l.serial))).2) := by
  have hask : (ask reenter agentUri l (some el)).runFrom s =
      (Agent.react agentUri (some el)).runFrom (s.note (.handled agentUri l.serial)) := by
    obtain ⟨schemas, hmod⟩ := (hs agentUri l hl).eq_agent
    rw [runFrom_ask, hmod, Module.react_agent]
  have hanswer := Agent.react_children_or_declined agentUri el (s.note (.handled agentUri l.serial))
  rw [← hask] at hanswer ⊢
  rcases hns with hns | hns
  · rw [reaction, hns]
    dsimp only
    rw [runFrom_route hopen hl]
    generalize (ask reenter agentUri l (some el)).runFrom s = r at hanswer ⊢
    obtain ⟨answer, t⟩ := r
    rcases hanswer with ⟨wrap, rfl⟩ | rfl <;> rfl
  · -- Outside any namespace the element is offered around, but there is no one else to accept it.
    rw [reaction, hns]
    dsimp only
    rw [runFrom_offerAround hopen, hs.accepting, hl, Option.isSome_some, if_pos rfl]
    simp only [offerTo, HostM.runFrom_run_bind, HostM.runFrom_run_getThe, hl,
      HostM.runFrom_run_liftM]
    generalize (ask reenter agentUri l (some el)).runFrom s = r at hanswer ⊢
    obtain ⟨answer, t⟩ := r
    rcases hanswer with ⟨wrap, rfl⟩ | rfl <;> rfl

/-- An element outside any namespace goes nowhere without `agent`. -/
theorem runFrom_reaction_unqualified (hopen : s.closed = false) (hs : s.AllBuiltIn store sink)
    (hl : s.modules.find? agentUri = none) (hns : el.namespaceUri = none) :
    (host.reaction reenter el).run.runFrom s = (.ok .declined, s) := by
  rw [reaction, hns]
  dsimp only
  rw [runFrom_offerAround hopen, hs.accepting, hl]
  rfl

/-- An element of a namespace that is not registered goes nowhere. -/
theorem runFrom_reaction_of_get?_none (hreg : host.registry = .ofBuiltIn store input sink)
    (hopen : s.closed = false) (hs : s.AllBuiltIn store sink) (hns : el.namespaceUri = some uri)
    (hget : host.registry.get? uri = none) :
    (host.reaction reenter el).run.runFrom s = (.ok .declined, s) := by
  rw [reaction, hns]
  exact runFrom_route_of_get?_none hopen (hs.find?_of_get?_none hreg hget) hget el

/-- An element of any other namespace goes nowhere. -/
theorem runFrom_reaction_unregistered (hreg : host.registry = .ofBuiltIn store input sink)
    (hopen : s.closed = false) (hs : s.AllBuiltIn store sink) (hns : el.namespaceUri = some uri)
    (hagent : uri ≠ agentUri) (henv : uri ≠ envUri) (hstdin : uri ≠ stdinUri) :
    (host.reaction reenter el).run.runFrom s = (.ok .declined, s) := by
  refine runFrom_reaction_of_get?_none hreg hopen hs hns ?_
  rw [hreg, Registry.get?_ofBuiltIn, if_neg hstdin, if_neg henv, if_neg hagent]

end Host

end MarkupActions
