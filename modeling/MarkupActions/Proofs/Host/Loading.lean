import MarkupActions.Proofs.Host.Dispatch
import MarkupActions.Proofs.Host.Run

/-!
# MarkupActions.Proofs.Host.Loading

**Loading does nothing else.** The vocabularies that come with the library are loaded without
executing anything and never fail. So a session always has a module for a namespace they are
registered under, and if it has to be loaded first, then that is all that happens
(`HostState.Loads`). The same holds of everything that a document uses, which is told by either of
the two walks over it.
-/

namespace MarkupActions

/-! ### The two walks -/

namespace Element

theorem preorderAll_append (xs ys : List Element) :
    preorderAll (xs ++ ys) = preorderAll xs ++ preorderAll ys := by
  induction xs with
  | nil => rw [List.nil_append, preorderAll, List.nil_append]
  | cons x xs ih => rw [List.cons_append, preorderAll, preorderAll, ih, List.append_assoc]

/-- An element comes first, and then what is below it. -/
theorem preorder_eq (el : Element) : el.preorder = el :: preorderAll el.children := by
  cases el
  rw [preorder]

/-- What is in the walk of a list is in that of one of its trees. -/
theorem mem_preorderAll {x : Element} {els : List Element} :
    x ∈ preorderAll els ↔ ∃ el ∈ els, x ∈ el.preorder := by
  induction els with
  | nil => simp [preorderAll]
  | cons el rest ih => simp [preorderAll, ih]

/-- The stack holds the trees that are yet to be walked. -/
theorem pending_eq (stack : List Element) : pending stack = preorderAll stack := by
  fun_induction pending with
  | case1 => rw [preorderAll]
  | case2 el stack ih => rw [ih, preorderAll_append, preorderAll, preorder_eq, List.cons_append]

/-- Walking with a stack is walking by recursion. -/
theorem descendants_eq (el : Element) : el.descendants = el.preorder := by
  rw [descendants, pending_eq, preorderAll, preorderAll, List.append_nil]

end Element

/-! ### What a document uses -/

namespace Host

theorem mem_insertSorted {uri new : String} {uris : List String} :
    uri ∈ insertSorted new uris ↔ uri = new ∨ uri ∈ uris := by
  induction uris with
  | nil => simp [insertSorted]
  | cons head rest ih =>
    rw [insertSorted]
    split
    · simp
    · split
      · next hsame => simp [hsame]
      · simp only [List.mem_cons, ih]
        exact or_left_comm

/-- A document uses the namespaces of its elements that have a vocabulary. -/
theorem mem_usedUris {host : Host} {uri : String} : uri ∈ host.usedUris ↔
    (∃ el ∈ host.document.root.preorder, el.namespaceUri = some uri) ∧
      host.registry.contains uri = true := by
  have hinsert : ∀ uris : List String, uri ∈ uris.foldr insertSorted [] ↔ uri ∈ uris := by
    intro uris
    induction uris with
    | nil => exact Iff.rfl
    | cons head rest ih => rw [List.foldr_cons, mem_insertSorted, ih, List.mem_cons]
  rw [usedUris, hinsert, List.mem_filter, List.mem_filterMap, Element.descendants_eq]

end Host

/-! ### Loaders that execute nothing -/

/-- The module that a vocabulary is loaded into, unless a script decides about it. -/
def Vocabulary.module? : Vocabulary → Option Module
  | .agent => some (.agent .empty)
  | .env store => some (.env store)
  | .stdin input sink => some (.stdin input sink)
  | .scripted _ => none

/-- A vocabulary whose modules are known in advance makes them without doing anything else. -/
theorem Vocabulary.runFrom_load {v : Vocabulary} {mod : Module} (h : v.module? = some mod)
    (reenter : Reenter) (serial : Nat) (root : Element) (s : HostState) :
    (v.load reenter serial root).run.runFrom s = (.ok mod, s) := by
  cases v with
  | agent | env | stdin =>
    cases h
    rfl
  | scripted => cases h

theorem Vocabulary.makes_of_module? {v : Vocabulary} {mod : Module} (h : v.module? = some mod) :
    v.Makes mod := by
  cases v with
  | agent | env | stdin =>
    cases h
    constructor
  | scripted => cases h

/-- The module that elements of a namespace go to: the one that is loaded, or that which is loaded for
the first of them. -/
def Host.moduleFor (host : Host) (s : HostState) (uri : String) : Option Module :=
  match s.modules.find? uri with
  | some l => some l.mod
  | none => (host.registry.get? uri).bind Vocabulary.module?

/-- Whether an event belongs to the loading of a module. -/
def Event.isLoading : Event → Bool
  | .called _ _ | .loaded _ _ => true
  | _ => false

/-- One state is another in which at most some modules have been loaded, each as the vocabulary of
its namespace has it. -/
structure HostState.Loads (host : Host) (s t : HostState) : Prop where
  dataModel : t.dataModel = s.dataModel
  log : t.log = s.log
  holdings : t.holdings = s.holdings
  closed : t.closed = s.closed
  modules : ∀ uri, t.modules.find? uri = s.modules.find? uri ∨
    s.modules.find? uri = none ∧ ∃ l v, t.modules.find? uri = some l ∧
      host.registry.get? uri = some v ∧ v.module? = some l.mod
  events : ∃ new, t.events = s.events ++ new ∧ ∀ e ∈ new, e.isLoading = true

variable {host : Host} {reenter : Reenter} {s t u : HostState} {uri : String}

namespace HostState.Loads

theorem refl (host : Host) (s : HostState) : s.Loads host s where
  dataModel := rfl
  log := rfl
  holdings := rfl
  closed := rfl
  modules _ := .inl rfl
  events := ⟨[], (List.append_nil _).symm, nofun⟩

/-- A module that was there is kept. -/
theorem kept (h : s.Loads host t) {l : Loaded} (hl : s.modules.find? uri = some l) :
    t.modules.find? uri = some l := by
  rcases h.modules uri with hsame | ⟨hnone, -⟩
  · exact hsame.trans hl
  · cases hnone.symm.trans hl

theorem trans (h : s.Loads host t) (h' : t.Loads host u) : s.Loads host u where
  dataModel := h'.dataModel.trans h.dataModel
  log := h'.log.trans h.log
  holdings := h'.holdings.trans h.holdings
  closed := h'.closed.trans h.closed
  modules uri := by
    rcases h.modules uri with hsame | ⟨hnone, l, v, hl, hv, hmod⟩
    · rw [← hsame]
      exact h'.modules uri
    · exact .inr ⟨hnone, l, v, h'.kept hl, hv, hmod⟩
  events := by
    obtain ⟨new, hnew, hloading⟩ := h.events
    obtain ⟨new', hnew', hloading'⟩ := h'.events
    refine ⟨new ++ new', by rw [hnew', hnew, List.append_assoc], ?_⟩
    intro e he
    rcases List.mem_append.1 he with he | he
    · exact hloading e he
    · exact hloading' e he

/-- The call of a loader, and the module it returns for a namespace that has none. -/
theorem received {v : Vocabulary} {mod : Module} (hnone : s.modules.find? uri = none)
    (hreg : host.registry.get? uri = some v) (hmod : v.module? = some mod) (serial : Nat) :
    s.Loads host ((s.note (.called uri serial)).receive uri ⟨serial, mod⟩) where
  dataModel := dataModel_receive
  log := log_receive
  holdings := holdings_receive
  closed := closed_receive
  modules other := by
    by_cases hne : other = uri
    · subst hne
      refine .inr ⟨hnone, ⟨serial, mod⟩, v, ?_, hreg, hmod⟩
      rw [find?_receive_self, modules_note, hnone, Option.getD_none]
    · exact .inl (find?_receive_of_ne hne)
  events := by
    refine ⟨[.called uri serial, .loaded uri serial], ?_, ?_⟩
    · rw [events_receive, events_note, List.append_assoc]
      rfl
    · simp [Event.isLoading]

end HostState.Loads

namespace Host

/-- There is a module for a namespace: the one that was there, or one that is loaded for it. -/
theorem exists_module? (reenter : Reenter) (hopen : s.closed = false) {v : Vocabulary}
    {mod : Module} (hreg : host.registry.get? uri = some v) (hmod : v.module? = some mod) :
    ∃ l t, (host.module? reenter uri).run.runFrom s = (.ok (some l), t) ∧ s.Loads host t ∧
      t.modules.find? uri = some l := by
  cases hfind : s.modules.find? uri with
  | some l => exact ⟨l, s, module?_of_find? hopen hfind, .refl host s, hfind⟩
  | none =>
    have hmodule : (host.module? reenter uri).run.runFrom s = _ := module?_of_get? hopen hfind hreg
    rw [Vocabulary.runFrom_load hmod] at hmodule
    dsimp only at hmodule
    refine ⟨⟨s.calls uri + 1, mod⟩, _, ?_, .received hfind hreg hmod (s.calls uri + 1), ?_⟩
    · rw [hmodule, HostState.modules_note, hfind, Option.getD_none]
    · rw [HostState.find?_receive_self, HostState.modules_note, hfind, Option.getD_none]

/-- Loading namespaces in turn leaves each of them with a module. -/
theorem loadAll_loads (reenter : Reenter) {uris : List String} (hopen : s.closed = false)
    (hreg : ∀ uri ∈ uris, ∃ v mod, host.registry.get? uri = some v ∧ v.module? = some mod) :
    ∃ t, (host.loadAll reenter uris).run.runFrom s = (.ok (), t) ∧ s.Loads host t ∧
      ∀ uri ∈ uris, ∃ l, t.modules.find? uri = some l := by
  induction uris generalizing s with
  | nil => exact ⟨s, rfl, .refl host s, nofun⟩
  | cons uri rest ih =>
    obtain ⟨v, mod, hv, hmod⟩ := hreg uri List.mem_cons_self
    obtain ⟨l, t, hmodule, hloads, hl⟩ := exists_module? reenter hopen hv hmod
    obtain ⟨u, hrest, hloads', hloaded⟩ := ih (hloads.closed.trans hopen)
      fun uri huri => hreg uri (List.mem_cons_of_mem _ huri)
    refine ⟨u, ?_, hloads.trans hloads', ?_⟩
    · rw [loadAll, HostM.runFrom_run_bind, hmodule]
      exact hrest
    · intro other hother
      rcases List.mem_cons.1 hother with rfl | hother
      · exact ⟨l, hloads'.kept hl⟩
      · exact hloaded other hother

/-! ### Up to what an element does -/

end Host

/-- One state is another in which at most some modules have been loaded and asked. -/
structure HostState.Prepares (host : Host) (s t : HostState) : Prop where
  dataModel : t.dataModel = s.dataModel
  log : t.log = s.log
  holdings : t.holdings = s.holdings
  moduleFor : ∀ uri, host.moduleFor t uri = host.moduleFor s uri
  events : ∃ new, t.events = s.events ++ new ∧
    ∀ e ∈ new, e.isLoading = true ∨ ∃ uri serial, e = .handled uri serial

namespace HostState.Prepares

theorem refl (host : Host) (s : HostState) : s.Prepares host s :=
  ⟨rfl, rfl, rfl, fun _ => rfl, [], (List.append_nil _).symm, nofun⟩

theorem trans (h : s.Prepares host t) (h' : t.Prepares host u) : s.Prepares host u where
  dataModel := h'.dataModel.trans h.dataModel
  log := h'.log.trans h.log
  holdings := h'.holdings.trans h.holdings
  moduleFor uri := (h'.moduleFor uri).trans (h.moduleFor uri)
  events := by
    obtain ⟨new, hnew, hkind⟩ := h.events
    obtain ⟨new', hnew', hkind'⟩ := h'.events
    refine ⟨new ++ new', by rw [hnew', hnew, List.append_assoc], ?_⟩
    intro e he
    rcases List.mem_append.1 he with he | he
    · exact hkind e he
    · exact hkind' e he

theorem asked (host : Host) (s : HostState) (uri : String) (serial : Nat) :
    s.Prepares host (s.note (.handled uri serial)) :=
  ⟨rfl, rfl, rfl, fun _ => rfl, [.handled uri serial], events_note .., by simp⟩

/-- Loading prepares a session, and asks no module. -/
theorem of_loads (h : s.Loads host t) : s.Prepares host t where
  dataModel := h.dataModel
  log := h.log
  holdings := h.holdings
  moduleFor uri := by
    unfold Host.moduleFor
    rcases h.modules uri with hsame | ⟨hnone, l, v, hl, hv, hmod⟩
    · rw [hsame]
    · rw [hnone, hl, hv, Option.bind_some, hmod]
  events := by
    obtain ⟨new, hnew, hloading⟩ := h.events
    exact ⟨new, hnew, fun e he => .inl (hloading e he)⟩

end HostState.Prepares

namespace Host

/-- An element goes to the module for its namespace, which is asked what becomes of it. -/
theorem runFrom_route_of_moduleFor (reenter : Reenter) (hopen : s.closed = false) {mod : Module}
    (hmod : host.moduleFor s uri = some mod) (el : Element) :
    ∃ t serial, s.Prepares host t ∧ t.closed = false ∧ t.modules.find? uri = some ⟨serial, mod⟩ ∧
      (host.route reenter uri el).run.runFrom s =
        match (mod.react reenter uri (some el)).runFrom t with
        | (.failed e, t) => (.error (.action e), t)
        | (reaction, t) => (.ok reaction, t) := by
  have hloaded : ∃ l t, (host.module? reenter uri).run.runFrom s = (.ok (some l), t) ∧
      s.Loads host t ∧ t.modules.find? uri = some l := by
    cases hfind : s.modules.find? uri with
    | some l => exact ⟨l, s, module?_of_find? hopen hfind, .refl host s, hfind⟩
    | none =>
      rw [moduleFor, hfind] at hmod
      obtain ⟨v, hv, hmod⟩ := Option.bind_eq_some_iff.1 hmod
      exact exists_module? reenter hopen hv hmod
  obtain ⟨l, t, hmodule, hloads, hl⟩ := hloaded
  have hprepares := HostState.Prepares.of_loads hloads
  obtain rfl : l.mod = mod := by
    have hsame := hprepares.moduleFor uri
    rw [hmod, moduleFor, hl] at hsame
    exact Option.some.inj hsame
  refine ⟨t.note (.handled uri l.serial), l.serial,
    hprepares.trans (.asked host t uri l.serial), hloads.closed.trans hopen, hl, ?_⟩
  exact runFrom_route_of_module? hmodule el

/-- An element that is an action of the module for its namespace goes as the action does. -/
theorem executeWith_of_moduleFor (reenter : Reenter) (hopen : s.closed = false) {mod : Module}
    {el : Element} (hns : el.namespaceUri = some uri) (hmod : host.moduleFor s uri = some mod)
    {x : ActionM Unit} (hreact : mod.react reenter uri (some el) = Reaction.ofAction x) :
    ∃ t serial, s.Prepares host t ∧ t.modules.find? uri = some ⟨serial, mod⟩ ∧
      (host.executeWith reenter el).run.runFrom s = x.run.runFrom t := by
  obtain ⟨t, serial, hprepares, -, hl, hroute⟩ := runFrom_route_of_moduleFor reenter hopen hmod el
  refine ⟨t, serial, hprepares, hl, ?_⟩
  rw [runFrom_executeWith, reaction, hns]
  dsimp only
  rw [hroute, hreact, runFrom_ofAction]

end Host

end MarkupActions
