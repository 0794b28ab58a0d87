import MarkupActions.Proofs.Host.Overlooking

/-!
# MarkupActions.Proofs.Host.Agentless

**Trees that do not use `agent`.** As long as `agent` is not loaded, and no element asks for it by its
namespace, it is not there: a session that has it registered does what a session without it would do
(`Host.execute_agentless`). Of the other built-in modules none accepts elements outside any namespace,
so there the two ways of being outside any come to the same.
-/

namespace MarkupActions

variable {host : Host} {store : Store} {input : InputStream} {sink : PromptSink} {reenter : Reenter}
  {Kind : Element → Prop} {s t : HostState} {uri : String} {el el' : Element}

/-- The registry of the built-in vocabularies but for `agent`. -/
def Registry.agentless (store : Store) (input : InputStream) (sink : PromptSink) : Registry :=
  (Registry.empty.registerAll [(envUri, .env store), (stdinUri, .stdin input sink)]).1

/-- The same host without `agent`. -/
def Host.agentless (host : Host) (store : Store) (input : InputStream) (sink : PromptSink) : Host :=
  { host with registry := .agentless store input sink }

/-- No element of a tree is in the namespace of `agent`. -/
def Element.Agentless (el : Element) : Prop := ∀ x ∈ el.preorder, x.namespaceUri ≠ some agentUri

/-- One state of an open session of built-in modules in which `agent` is not loaded. -/
structure HostState.AgentlessPair (store : Store) (sink : PromptSink) (s t : HostState) : Prop where
  same : s = t
  plain : s.Plain store sink
  unloaded : s.modules.find? agentUri = none

/-- Every other namespace has the vocabulary that it had. -/
theorem Registry.get?_agentless (hne : uri ≠ agentUri) :
    (agentless store input sink).get? uri = (ofBuiltIn store input sink).get? uri := by
  have hentries : agentless store input sink = ⟨(Dict.empty.insert envUri
      (.env store)).insert stdinUri (.stdin input sink)⟩ := rfl
  rw [get?_ofBuiltIn, if_neg hne, hentries, get?, Dict.find?_insert, Dict.find?_insert,
    Dict.find?_empty]

/-- What is below an element that does not use `agent` does not use it either. -/
theorem Element.Agentless.children (h : el.Agentless) : ∀ c ∈ el.children, c.Agentless := by
  intro c hc x hx
  refine h x (el.preorderAll_children_subset ?_)
  exact mem_preorderAll.2 ⟨c, hc, hx⟩

namespace Host

variable (hreg : host.registry = .ofBuiltIn store input sink)
include hreg

/-- Any other module is the same, and loading it does not bring `agent` about. -/
theorem module?_agentless (hs : s.Plain store sink) (hnone : s.modules.find? agentUri = none)
    (hne : uri ≠ agentUri) {v : Vocabulary} (hget : host.registry.get? uri = some v)
    (reenter reenter' : Reenter) :
    ∃ l t, (host.module? reenter uri).run.runFrom s = (.ok (some l), t) ∧
      ((host.agentless store input sink).module? reenter' uri).run.runFrom s = (.ok (some l), t) ∧
      l.mod.isScripted = false ∧ t.modules.find? agentUri = none := by
  cases hfind : s.modules.find? uri with
  | some l => exact ⟨l, s, module?_of_find? hs.isOpen hfind, module?_of_find? hs.isOpen hfind,
      (hs.builtIn uri l hfind).isScripted_eq, hnone⟩
  | none =>
    have hget' : (host.agentless store input sink).registry.get? uri = some v :=
      (Registry.get?_agentless hne).trans (hreg ▸ hget)
    obtain ⟨mod, hmod⟩ := Registry.module?_ofBuiltIn (hreg ▸ hget)
    have hbuiltIn : mod.BuiltIn store sink uri :=
      .of_makes (hreg ▸ hget) (Vocabulary.makes_of_module? hmod)
    refine ⟨⟨s.calls uri + 1, mod⟩, (s.note (.called uri (s.calls uri + 1))).receive uri
      ⟨s.calls uri + 1, mod⟩, ?_, ?_, hbuiltIn.isScripted_eq, ?_⟩
    · rw [module?_of_get? hs.isOpen hfind hget, Vocabulary.runFrom_load hmod]
      simp [hfind]
    · rw [module?_of_get? hs.isOpen hfind hget', Vocabulary.runFrom_load hmod]
      simp [hfind]
    · rw [HostState.find?_receive_of_ne hne.symm]
      exact hnone

/-- An element that does not ask for `agent` is dealt with in the same way, and does not bring it
about. -/
theorem runFrom_reaction_agentless (hs : s.Plain store sink)
    (hnone : s.modules.find? agentUri = none) (hns : el.namespaceUri ≠ some agentUri)
    (reenter reenter' : Reenter) :
    ∃ r t, (host.reaction reenter el).run.runFrom s = (.ok r, t) ∧
      ((host.agentless store input sink).reaction reenter' el).run.runFrom s = (.ok r, t) ∧
      (∀ e, r ≠ .failed e) ∧ t.modules.find? agentUri = none := by
  cases huri : el.namespaceUri with
  | none => exact ⟨.declined, s, runFrom_reaction_unqualified hs.isOpen hs.builtIn hnone huri,
      runFrom_reaction_unqualified hs.isOpen hs.builtIn hnone huri, by simp, hnone⟩
  | some uri =>
    have hne : uri ≠ agentUri := fun h => hns (h ▸ huri)
    rw [reaction, reaction, huri]
    dsimp only
    cases hget : host.registry.get? uri with
    | none =>
      have hfind := hs.builtIn.find?_of_get?_none hreg hget
      have hget' : (host.agentless store input sink).registry.get? uri = none :=
        (Registry.get?_agentless hne).trans (hreg ▸ hget)
      exact ⟨.declined, s, runFrom_route_of_get?_none hs.isOpen hfind hget el,
        runFrom_route_of_get?_none hs.isOpen hfind hget' el, by simp, hnone⟩
    | some v =>
      obtain ⟨l, t, hmodule, hmodule', hplain, hnone'⟩ :=
        module?_agentless hreg hs hnone hne hget reenter reenter'
      have hsame := Module.react_reenter hplain reenter reenter' uri (some el)
      obtain ⟨-, -, hleft⟩ := Module.react_steady hplain reenter uri (some el) _
        (HostState.unloaded_carries (some uri) agentUri) (t.note (.handled uri l.serial)) _
        ⟨rfl, hnone'⟩
      have hnot := Module.react_ne_failed hplain reenter uri el (t.note (.handled uri l.serial))
      rw [runFrom_route_eq hmodule, runFrom_route_eq hmodule', runFrom_ask, runFrom_ask, ← hsame]
      generalize (l.mod.react reenter uri (some el)).runFrom (t.note (.handled uri l.serial)) = x
        at hleft hnot ⊢
      obtain ⟨r, u⟩ := x
      cases r with
      | failed e => exact absurd rfl (hnot e)
      | declined | handled | children => exact ⟨_, u, rfl, rfl, by simp, hleft⟩

/-- With and without the vocabulary of `agent` a host goes the same way, on trees that do not use
it. -/
theorem tracks_agentless : Tracks host (host.agentless store input sink) host.onBehalf
    (host.agentless store input sink).onBehalf (HostState.AgentlessPair store sink)
    (fun el el' => el = el' ∧ el.Agentless) (· = ·) where
  children := by
    rintro el _ ⟨rfl, hel⟩
    exact List.forall₂_same.2 fun c hc => ⟨rfl, hel.children c hc⟩
  assigns h := by rw [h.1]
  logs h := by rw [h.1]
  transitions h := by rw [h.1]
  reaction := by
    rintro el _ ⟨rfl, hel⟩ s _ ⟨rfl, hs, hnone⟩
    obtain ⟨r, t, hreaction, hreaction', hnot, hleft⟩ := runFrom_reaction_agentless hreg hs hnone
      (hel el el.self_mem_preorder) host.onBehalf (host.agentless store input sink).onBehalf
    have hrun : Run host s ((host.reaction host.onBehalf el).run.runFrom s).2 :=
      reaction_runs onBehalf_runs el s trivial
    rw [hreaction] at hrun
    rw [hreaction, hreaction']
    refine ⟨.ok ?_, rfl, hs.of_run hreg hrun, hleft⟩
    refine .of_ne_failed (fun _ => rfl) ?_ hnot
    intro wrap c c' e e' hc he
    rw [hc.1, he]
  assign := by
    rintro el _ ⟨rfl, -⟩ s _ ⟨rfl, hs, hnone⟩
    have hrun : Run host s ((assignElement el).run.runFrom s).2 := assignElement_runs el s trivial
    obtain ⟨-, -, hleft⟩ := assignElement_steady none el _ (HostState.unloaded_carries none agentUri)
      s s ⟨rfl, hnone⟩
    exact ⟨.refl (fun _ => rfl) _, rfl, hs.of_run hreg hrun, hleft⟩
  log := by
    rintro el _ ⟨rfl, -⟩ s _ ⟨rfl, hs, hnone⟩
    have hrun : Run host s ((logElement el).run.runFrom s).2 := logElement_runs el s trivial
    obtain ⟨-, -, hleft⟩ := logElement_steady none el _ (HostState.unloaded_carries none agentUri)
      s s ⟨rfl, hnone⟩
    exact ⟨.refl (fun _ => rfl) _, rfl, hs.of_run hreg hrun, hleft⟩

/-- Executing a tree that does not use `agent` is executing it where there is none. -/
theorem execute_agentless (hs : s.Plain store sink) (hnone : s.modules.find? agentUri = none)
    (hel : el.Agentless) : (host.execute el).run.runFrom s =
      ((host.agentless store input sink).execute el).run.runFrom s := by
  obtain ⟨hresult, hleft⟩ :=
    (tracks_agentless hreg).executeWith_follows el el ⟨rfl, hel⟩ s s ⟨rfl, hs, hnone⟩
  exact Prod.ext hresult.eq_of_eq hleft.same

end Host

/-! ### Twins without `agent` -/

mutual

/-- Twins use the same namespaces. -/
theorem Element.Twins.agentless : ∀ {el el' : Element}, el.Twins Kind el' → el.Agentless →
    el'.Agentless
  | ⟨tag, ns, attributes, children⟩, el', h, hel => by
      intro x hx
      rw [preorder_eq] at hx
      rcases List.mem_cons.1 hx with rfl | hx
      · exact mt (h.namespaceUri_iff (by decide)).2 (hel _ (self_mem_preorder _))
      · obtain ⟨c', hc', hx⟩ := mem_preorderAll.1 hx
        exact agentlessAll h.children (fun c hc => hel.children c hc) c' hc' x hx

theorem Element.Twins.agentlessAll : ∀ {els els' : List Element},
    List.Forall₂ (Twins Kind) els els' → (∀ c ∈ els, c.Agentless) → ∀ c' ∈ els', c'.Agentless
  | [], els', h, _ => by
      cases h
      nofun
  | c :: rest, els', h, hels => by
      obtain ⟨c', rest', hc, hrest, rfl⟩ := List.forall₂_cons_left_iff.1 h
      obtain ⟨hfirst, hels⟩ := List.forall_mem_cons.1 hels
      exact List.forall_mem_cons.2 ⟨agentless hc hfirst, agentlessAll hrest hels⟩

end

/-- The other built-in modules overlook elements of any kind. -/
theorem Module.BuiltIn.overlooks {mod : Module} (h : mod.BuiltIn store sink uri)
    (hne : uri ≠ agentUri) : uri ≠ "" ∧ mod.Overlooks Kind := by
  cases mod with
  | agent => exact absurd h hne
  | env => exact ⟨h.1 ▸ by decide, trivial⟩
  | stdin => exact ⟨h.1 ▸ by decide, trivial⟩
  | scripted => exact h.elim

/-- Without `agent`, no built-in module is offered anything. -/
theorem HostState.overlooks_agentless (hs : s.AllBuiltIn store sink)
    (hnone : s.modules.find? agentUri = none) :
    s.Overlooks (host.agentless store input sink) Kind where
  registered uri v mod hget hmakes := by
    have hne : uri ≠ agentUri := by
      rintro rfl
      cases hget
    rw [Host.agentless, Registry.get?_agentless hne] at hget
    exact (Module.BuiltIn.of_makes hget hmakes).overlooks hne
  loaded uri l hl := by
    refine (hs uri l hl).overlooks ?_
    rintro rfl
    cases hnone.symm.trans hl

/-- Where `agent` is neither loaded nor used, twins are executed alike, whatever they differ in. -/
theorem Host.execute_twins_agentless (hreg : host.registry = .ofBuiltIn store input sink)
    (hs : s.Plain store sink) (hnone : s.modules.find? agentUri = none) (htwins : el.Twins Kind el')
    (hel : el.Agentless) :
    ((host.execute el).run.runFrom s).1 = ((host.execute el').run.runFrom s).1 ∧
      ((host.execute el).run.runFrom s).2.Like ((host.execute el').run.runFrom s).2 := by
  rw [execute_agentless hreg hs hnone hel, execute_agentless hreg hs hnone (htwins.agentless hel)]
  exact execute_overlooked htwins (HostState.overlooks_agentless hs.builtIn hnone)

end MarkupActions
