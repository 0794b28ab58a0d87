import MarkupActions.Proofs.Host.Overlooking

/-!
# MarkupActions.Proofs.Host.Equipped

**Where nothing is left to be loaded.** Of the namespaces of a tree, let each that is registered
have its module (`HostState.Equipped`). Unless a script executes other elements meanwhile, executing
the tree then never comes to a loader: it goes as it would go in a host that has nothing registered
(`Host.execute_bare`), and in such a host there is no loader to be called.
-/

namespace MarkupActions

variable {host : Host} {s t : HostState} {uri : String} {root el : Element}

/-! ### Without scripts -/

/-- Only vocabularies that come with the library are registered: any of them, over any store, input
and place for prompts, and under any URI. -/
def Registry.Stock (registry : Registry) : Prop :=
  ∀ uri v, registry.get? uri = some v → ∃ mod, v.module? = some mod

/-- No loaded module is scripted. -/
def HostState.Unscripted (s : HostState) : Prop := s.All fun _ mod => mod.isScripted = false

/-- A module is scripted or not, whatever it keeps. -/
theorem Module.isScripted_of_alike {a b : Module} (h : a.Alike b) : b.isScripted = a.isScripted := by
  cases h <;> rfl

/-- A vocabulary whose modules are known in advance makes none that is scripted. -/
theorem Module.isScripted_of_makes {v : Vocabulary} {mod first : Module}
    (hmod : v.module? = some first) (h : v.Makes mod) : mod.isScripted = false := by
  cases h with
  | agent | env | stdin => rfl
  | scripted => cases hmod

/-- Where only such vocabularies are registered no other module comes about. -/
theorem Run.unscripted (hstock : host.registry.Stock) (h : Run host s t) (hs : s.Unscripted) :
    t.Unscripted := by
  refine h.all_modules (fun _ _ _ ha halike => ?_) (fun uri v mod hget hmakes => ?_) hs
  · exact (Module.isScripted_of_alike halike).trans ha
  · obtain ⟨first, hfirst⟩ := hstock uri v hget
    exact Module.isScripted_of_makes hfirst hmakes

/-! ### Without a registry -/

/-- The same host with nothing registered. -/
def Host.bare (host : Host) : Host := { host with registry := .empty }

theorem Registry.stock_empty : Registry.empty.Stock := by
  intro uri v h
  cases h

/-- Without a vocabulary no loader is called, and the session keeps exactly the modules it has. -/
theorem Run.quiet (hnone : ∀ uri, host.registry.get? uri = none) (h : Run host s t) :
    ∃ new, t.events = s.events ++ new ∧ (∀ e ∈ new, e.Quiet) ∧ t.serial? = s.serial? := by
  induction h with
  | refl => exact ⟨[], (List.append_nil _).symm, nofun, rfl⟩
  | step _ step ih =>
    obtain ⟨new, hnew, hquiet, hserial⟩ := ih
    rcases step.call_or_quiet with ⟨uri, v, -, -, hreg, -⟩ | ⟨more, hmore, hquiet', hserial'⟩
    · cases (hnone uri).symm.trans hreg
    · refine ⟨new ++ more, by rw [hmore, hnew, List.append_assoc], ?_, hserial'.trans hserial⟩
      exact List.forall_mem_append.2 ⟨hquiet, hquiet'⟩
  | load _ _ _ hreg => cases (hnone _).symm.trans hreg

/-! ### A tree of which everything is loaded -/

/-- An open session without scripts in which every registered namespace of a tree has its module. -/
structure HostState.Equipped (host : Host) (root : Element) (s : HostState) : Prop where
  isOpen : s.closed = false
  unscripted : s.Unscripted
  present : ∀ el ∈ root.preorder, ∀ uri, el.namespaceUri = some uri →
    s.modules.find? uri = none → host.registry.get? uri = none

/-- A run that loads nothing leaves it that way. -/
theorem HostState.Equipped.of_run (hs : s.Equipped host root) (h : Run host.bare s t) :
    t.Equipped host root where
  isOpen := h.closed_eq.trans hs.isOpen
  unscripted := h.unscripted Registry.stock_empty hs.unscripted
  present el hel uri hns hnone := by
    refine hs.present el hel uri hns ?_
    cases hfind : s.modules.find? uri with
    | none => rfl
    | some l =>
      obtain ⟨m, hm, -⟩ := h.keeps hfind
      cases hnone.symm.trans hm

namespace Host

/-- A module that is not scripted never reenters the host, so it answers the same in either. -/
theorem ask_bare {l : Loaded} (hplain : l.mod.isScripted = false) (given : Option Element) :
    ask host.onBehalf uri l given = ask host.bare.onBehalf uri l given := by
  rw [ask, ask, l.mod.react_reenter hplain host.onBehalf host.bare.onBehalf]

/-- A module that is not scripted never fails to answer. -/
theorem answer_of_unscripted {l : Loaded} (hplain : l.mod.isScripted = false) (reenter : Reenter)
    (uri : String) (el : Element) (s : HostState) :
    ((ask reenter uri l (some el)).runFrom s).1.answer =
      .ok ((ask reenter uri l (some el)).runFrom s).1 := by
  have hnot := Module.react_ne_failed hplain reenter uri el (s.note (.handled uri l.serial))
  rw [runFrom_ask]
  cases hanswer : ((l.mod.react reenter uri (some el)).runFrom
    (s.note (.handled uri l.serial))).1 with
  | failed e => exact absurd hanswer (hnot e)
  | declined | handled | children => rfl

/-- Offering an element around goes by what is loaded, whatever is registered. -/
theorem runFrom_offerTo_bare (host : Host) (hopen : s.closed = false) (hs : s.Unscripted)
    (el : Element) (uris : List String) : ∃ r t,
      (offerTo host.onBehalf el uris).run.runFrom s = (.ok r, t) ∧
        (offerTo host.bare.onBehalf el uris).run.runFrom s = (.ok r, t) ∧ ∀ e, r ≠ .failed e := by
  induction uris generalizing s with
  | nil => exact ⟨.declined, s, rfl, rfl, by simp⟩
  | cons uri rest ih =>
    cases hfind : s.modules.find? uri with
    | none =>
      rw [offerTo, offerTo, HostM.runFrom_getThe_bind, HostM.runFrom_getThe_bind, hfind]
      exact ih hopen hs
    | some l =>
      have hplain := hs uri l hfind
      have hanswer := answer_of_unscripted hplain host.bare.onBehalf uri el s
      have hrun : Run host.bare s ((ask host.bare.onBehalf uri l (some el)).runFrom s).2 :=
        (Run.admits host.bare).ask (fun el => (onBehalf_runs el).leads) hopen hfind (some el) default
      rw [runFrom_offerTo_cons hfind, runFrom_offerTo_cons hfind, ask_bare hplain, hanswer]
      generalize (ask host.bare.onBehalf uri l (some el)).runFrom s = x at hanswer hrun ⊢
      obtain ⟨r, t⟩ := x
      cases r with
      | declined => exact ih (hrun.closed_eq.trans hopen) (hrun.unscripted Registry.stock_empty hs)
      | failed e => cases hanswer
      | handled | children => exact ⟨_, t, rfl, rfl, by simp⟩

/-- What a equipped session does with an element of the tree has nothing to do with the registry. -/
theorem runFrom_reaction_bare (hs : s.Equipped host root) (hel : el ∈ root.preorder) : ∃ r t,
    (host.reaction host.onBehalf el).run.runFrom s = (.ok r, t) ∧
      (host.bare.reaction host.bare.onBehalf el).run.runFrom s = (.ok r, t) ∧
      ∀ e, r ≠ .failed e := by
  cases hns : el.namespaceUri with
  | none =>
    obtain ⟨r, t, hoffer, hoffer', hnot⟩ :=
      runFrom_offerTo_bare host hs.isOpen hs.unscripted el (accepting s)
    rw [reaction, reaction, hns]
    exact ⟨r, t, (runFrom_offerAround hs.isOpen el).trans hoffer,
      (runFrom_offerAround hs.isOpen el).trans hoffer', hnot⟩
  | some uri =>
    rw [reaction, reaction, hns]
    dsimp only
    cases hfind : s.modules.find? uri with
    | none => exact ⟨.declined, s,
        runFrom_route_of_get?_none hs.isOpen hfind (hs.present el hel uri hns hfind) el,
        runFrom_route_of_get?_none hs.isOpen hfind rfl el, by simp⟩
    | some l =>
      have hplain := hs.unscripted uri l hfind
      have hanswer := answer_of_unscripted hplain host.bare.onBehalf uri el s
      rw [runFrom_route_eq (module?_of_find? hs.isOpen hfind),
        runFrom_route_eq (module?_of_find? hs.isOpen hfind), ask_bare hplain, hanswer]
      refine ⟨_, _, rfl, rfl, ?_⟩
      intro e hfailed
      rw [hfailed] at hanswer
      cases hanswer

/-- Once everything is loaded, a host goes the same way without its registry. -/
theorem tracks_bare (host : Host) (root : Element) : Tracks host host.bare host.onBehalf
    host.bare.onBehalf (fun s t => s = t ∧ s.Equipped host root)
    (fun el el' => el = el' ∧ ∀ x ∈ el.preorder, x ∈ root.preorder) (· = ·) where
  children := by
    rintro el _ ⟨rfl, hel⟩
    refine List.forall₂_same.2 fun c hc => ⟨rfl, fun x hx => hel x ?_⟩
    exact el.preorderAll_children_subset (Element.mem_preorderAll.2 ⟨c, hc, hx⟩)
  assigns h := by rw [h.1]
  logs h := by rw [h.1]
  transitions h := by rw [h.1]
  reaction := by
    rintro el _ ⟨rfl, hel⟩ s _ ⟨rfl, hs⟩
    obtain ⟨r, t, hreaction, hreaction', hnot⟩ :=
      runFrom_reaction_bare hs (hel el el.self_mem_preorder)
    have hrun : Run host.bare s ((host.bare.reaction host.bare.onBehalf el).run.runFrom s).2 :=
      reaction_runs onBehalf_runs el s trivial
    rw [hreaction'] at hrun
    rw [hreaction, hreaction']
    refine ⟨.ok ?_, rfl, hs.of_run hrun⟩
    refine .of_ne_failed (fun _ => rfl) ?_ hnot
    intro wrap c c' e e' hc he
    rw [hc.1, he]
  assign := by
    rintro el _ ⟨rfl, -⟩ s _ ⟨rfl, hs⟩
    exact ⟨.refl (fun _ => rfl) _, rfl, hs.of_run (assignElement_runs el s trivial)⟩
  log := by
    rintro el _ ⟨rfl, -⟩ s _ ⟨rfl, hs⟩
    exact ⟨.refl (fun _ => rfl) _, rfl, hs.of_run (logElement_runs el s trivial)⟩

/-- Executing a tree of which everything is loaded is executing it where nothing can be loaded. -/
theorem execute_bare (hs : s.Equipped host root) :
    (host.execute root).run.runFrom s = (host.bare.execute root).run.runFrom s := by
  obtain ⟨hresult, hleft, -⟩ :=
    (tracks_bare host root).executeWith_follows root root ⟨rfl, fun _ => id⟩ s s ⟨rfl, hs⟩
  exact Prod.ext hresult.eq_of_eq hleft

/-- So no loader is called, and the loaded namespaces stay what they are. -/
theorem execute_equipped (hs : s.Equipped host root) : ∃ new,
    ((host.execute root).run.runFrom s).2.events = s.events ++ new ∧
      (∀ uri serial, .called uri serial ∉ new) ∧
      ((host.execute root).run.runFrom s).2.loadedUris = s.loadedUris := by
  have hrun : Run host.bare s ((host.bare.execute root).run.runFrom s).2 :=
    execute_runs root s trivial
  obtain ⟨new, hnew, hquiet, hserial⟩ := hrun.quiet fun _ => rfl
  rw [execute_bare hs]
  exact ⟨new, hnew, fun _ _ hmem => hquiet _ hmem, HostState.loadedUris_eq hserial⟩

end Host

end MarkupActions
