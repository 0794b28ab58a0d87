import MarkupActions.Proofs.Host.Alone
import MarkupActions.Proofs.Host.Equipped
import MarkupActions.Proofs.Text.ByteOrder

/-!
# MarkupActions.Proofs.Host.LoadingAhead

**What is loaded ahead.** Loading ahead goes through the namespaces of a document that are registered
and have no module yet (`Host.due`), in ascending order, and calls the loader of each up to the first
that fails. As long as loaders execute no elements themselves, nothing else happens to the session:
each call and each return is one event, and what was loaded before a failure stays loaded
(`Host.preload_calls_due`).
-/

namespace MarkupActions

variable {host : Host} {v : Vocabulary} {s t u : HostState} {uri other : String} {l : Loaded}
  {uris : List String}

/-! ### What is due -/

/-- Whether a namespace has no module. -/
def HostState.lacks (s : HostState) (uri : String) : Bool := (s.modules.find? uri).isNone

namespace Host

theorem insertSorted_ascending (new : String) (h : uris.Pairwise (· < ·)) :
    (insertSorted new uris).Pairwise (· < ·) := by
  induction uris with
  | nil => simp [insertSorted]
  | cons head rest ih =>
    obtain ⟨hhead, hrest⟩ := List.pairwise_cons.1 h
    rw [insertSorted]
    split
    · next hlt =>
      refine List.pairwise_cons.2 ⟨?_, h⟩
      intro other hother
      rcases List.mem_cons.1 hother with rfl | hother
      · exact hlt
      · exact String.lt_trans hlt (hhead other hother)
    · next hnot =>
      split
      · exact h
      · next hne =>
        refine List.pairwise_cons.2 ⟨?_, ih hrest⟩
        intro other hother
        rcases mem_insertSorted.1 hother with rfl | hother
        · exact Decidable.byContradiction fun hnot' =>
            hne (String.le_antisymm (String.not_lt.1 hnot') (String.not_lt.1 hnot))
        · exact hhead other hother

/-- The namespaces that a document uses are gathered in ascending order. -/
theorem usedUris_ascending (host : Host) : host.usedUris.Pairwise (· < ·) := by
  unfold usedUris
  generalize (host.document.root.descendants.filterMap (·.namespaceUri)).filter
    host.registry.contains = uris
  induction uris with
  | nil => exact .nil
  | cons uri rest ih => exact insertSorted_ascending uri ih

/-- The registered namespaces that the document uses and that have no module yet. -/
def due (host : Host) (s : HostState) : List String :=
  host.usedUris.filter s.lacks

theorem due_ascending (host : Host) (s : HostState) : (host.due s).Pairwise (· < ·) :=
  host.usedUris_ascending.filter _

/-- Those are due that the document uses, that have a vocabulary, and that are not loaded. -/
theorem mem_due : uri ∈ host.due s ↔
    (∃ el ∈ host.document.root.preorder, el.namespaceUri = some uri) ∧
      host.registry.contains uri = true ∧ uri ∉ s.loadedUris := by
  rw [due, List.mem_filter, mem_usedUris, HostState.lacks, Option.isNone_iff_eq_none,
    HostState.not_mem_loadedUris, and_assoc]

end Host

/-! ### One loader after the other -/

/-- What passes when a namespace is loaded: one call more, and its return. -/
def HostState.loading (s : HostState) (uri : String) : List Event :=
  [.called uri (s.calls uri + 1), .loaded uri (s.calls uri + 1)]

/-- Of the session, one state is another in which one more namespace has been loaded. -/
structure HostState.Gains (uri : String) (s t : HostState) : Prop where
  closed : t.closed = s.closed
  loaded : ∃ l, t.modules.find? uri = some l
  others : ∀ {other}, other ≠ uri → t.modules.find? other = s.modules.find? other
  events : t.events = s.events ++ s.loading uri

namespace HostState.Gains

theorem calls_of_ne (h : s.Gains uri t) (hne : other ≠ uri) : t.calls other = s.calls other := by
  refine calls_of_events h.events fun serial hmem => ?_
  simp [loading, hne] at hmem

theorem mem_loadedUris (h : s.Gains uri t) :
    other ∈ t.loadedUris ↔ other = uri ∨ other ∈ s.loadedUris := by
  rw [HostState.mem_loadedUris, HostState.mem_loadedUris]
  by_cases hsame : other = uri
  · subst hsame
    simpa using h.loaded
  · rw [h.others hsame, or_iff_right hsame]

end HostState.Gains

/-- The loaders of a registry execute no elements. -/
def Registry.LoadsAlone (registry : Registry) : Prop :=
  ∀ uri v, registry.get? uri = some v → v.LoadsAlone

/-- No loader that comes with the library does. -/
theorem Registry.Stock.loadsAlone {registry : Registry} (h : registry.Stock) :
    registry.LoadsAlone := by
  intro uri v hget
  obtain ⟨mod, hmod⟩ := h uri v hget
  cases v with
  | agent | env | stdin => trivial
  | scripted => cases hmod

namespace Host

/-- There is no loader to call for a namespace without a vocabulary. -/
theorem load_of_get?_none (hreg : host.registry.get? uri = none) (reenter : Reenter) :
    (host.load reenter uri).run.runFrom s = (.error (.unknown uri), s) := by
  simp only [load, hreg, HostM.runFrom_run_throw]

/-- The loader of a namespace, called and failing, has been called and nothing else. -/
theorem events_of_load_error (halone : host.registry.LoadsAlone) {e : HostError}
    (hreg : host.registry.get? uri = some v)
    (hload : (host.load host.onBehalf uri).run.runFrom s = (.error e, t)) :
    t.closed = s.closed ∧ t.modules = s.modules ∧
      t.events = s.events ++ [.called uri (s.calls uri + 1)] := by
  have hbeside := load_beside hreg (halone uri v hreg) host.onBehalf s
  rw [hload] at hbeside
  exact ⟨hbeside.closed, hbeside.modules, hbeside.events.trans (HostState.events_note ..)⟩

/-- The loader of a namespace, called and returning a module to the session. -/
theorem gains_of_load (halone : host.registry.LoadsAlone)
    (hload : (host.load host.onBehalf uri).run.runFrom s = (.ok l, t)) :
    s.Gains uri (t.receive uri l) := by
  cases hreg : host.registry.get? uri with
  | none =>
    rw [load_of_get?_none hreg] at hload
    cases hload
  | some v =>
    have hbeside := load_beside hreg (halone uri v hreg) host.onBehalf s
    have hserial := serial_of_load hreg hload
    rw [hload] at hbeside
    refine ⟨?closed, ?loaded, fun hne => ?others, ?events⟩
    case closed => rw [HostState.closed_receive, hbeside.closed, HostState.closed_note]
    case loaded => exact ⟨_, HostState.find?_receive_self⟩
    case others => rw [HostState.find?_receive_of_ne hne, hbeside.modules, HostState.modules_note]
    case events =>
      rw [HostState.events_receive, hbeside.events, HostState.events_note, hserial,
        HostState.loading, List.append_assoc]
      rfl

/-- The loaders of some namespaces are called in turn, and each returns a module to the session. -/
inductive Loadings (host : Host) : HostState → List String → HostState → Prop where
  | nil (s : HostState) : Loadings host s [] s
  | cons {s t u : HostState} {uri : String} {l : Loaded} {rest : List String}
      (hload : (host.load host.onBehalf uri).run.runFrom s = (.ok l, t))
      (hrest : Loadings host (t.receive uri l) rest u) : Loadings host s (uri :: rest) u

namespace Loadings

variable (halone : host.registry.LoadsAlone)
include halone

theorem closed_eq (h : host.Loadings s uris t) : t.closed = s.closed := by
  induction h with
  | nil => rfl
  | cons hload _ ih => exact ih.trans (gains_of_load halone hload).closed

/-- Loaders of other namespaces have been called as often as before. -/
theorem calls_eq (h : host.Loadings s uris t) (hnot : other ∉ uris) :
    t.calls other = s.calls other := by
  induction h with
  | nil => rfl
  | cons hload _ ih =>
    obtain ⟨hne, hrest⟩ := not_or.1 (mt List.mem_cons.2 hnot)
    exact (ih hrest).trans ((gains_of_load halone hload).calls_of_ne hne)

theorem mem_loadedUris (h : host.Loadings s uris t) :
    other ∈ t.loadedUris ↔ other ∈ s.loadedUris ∨ other ∈ uris := by
  induction h with
  | nil => simp
  | cons hload _ ih =>
    rw [ih, (gains_of_load halone hload).mem_loadedUris, List.mem_cons, or_comm (a := other = _),
      or_assoc]

/-- Each namespace in turn has its call and its module in the journal, and nothing else is added. -/
theorem events_eq (h : host.Loadings s uris t) (hnodup : uris.Nodup) :
    t.events = s.events ++ uris.flatMap s.loading := by
  induction h with
  | nil => exact (List.append_nil _).symm
  | @cons s t u uri l rest hload _ ih =>
    obtain ⟨hnot, hrest⟩ := List.nodup_cons.1 hnodup
    have hgains := gains_of_load halone hload
    -- Loading one namespace does not change how often the loaders of the others have been called.
    have hsame : rest.flatMap (t.receive uri l).loading = rest.flatMap s.loading := by
      refine List.flatMap_congr fun other hother => ?_
      have hne : other ≠ uri := ne_of_mem_of_not_mem hother hnot
      rw [HostState.loading, HostState.loading, hgains.calls_of_ne hne]
    rw [ih hrest, hgains.events, hsame, List.flatMap_cons, List.append_assoc]

end Loadings

/-- Loading namespaces in turn passes over those that have a module, and calls the loaders of the
others up to the first that fails. -/
theorem runFrom_loadAll (halone : host.registry.LoadsAlone) (hnodup : uris.Nodup)
    (hreg : ∀ uri ∈ uris, host.registry.contains uri = true) (hopen : s.closed = false) :
    ∃ before after t, uris.filter s.lacks = before ++ after ∧ host.Loadings s before t ∧
      (after = [] ∧ (host.loadAll host.onBehalf uris).run.runFrom s = (.ok (), t) ∨
        ∃ uri rest e u, after = uri :: rest ∧
          (host.load host.onBehalf uri).run.runFrom t = (.error e, u) ∧
          (host.loadAll host.onBehalf uris).run.runFrom s = (.error e, u)) := by
  induction uris generalizing s with
  | nil => exact ⟨[], [], s, rfl, .nil s, .inl ⟨rfl, rfl⟩⟩
  | cons uri rest ih =>
    obtain ⟨hnot, hnodup⟩ := List.nodup_cons.1 hnodup
    obtain ⟨hfirst, hreg⟩ := List.forall_mem_cons.1 hreg
    rw [loadAll, HostM.runFrom_run_bind]
    cases hfind : s.modules.find? uri with
    | some l =>
      rw [List.filter_cons_of_neg (by simp [HostState.lacks, hfind]), module?_of_find? hopen hfind]
      exact ih hnodup hreg hopen
    | none =>
      obtain ⟨v, hv⟩ := Option.isSome_iff_exists.1 hfirst
      rw [List.filter_cons_of_pos (by simp [HostState.lacks, hfind]), module?_of_load hopen hfind hv]
      rcases hload : (host.load host.onBehalf uri).run.runFrom s with ⟨e | l, t⟩
      · exact ⟨[], _, s, rfl, .nil s, .inr ⟨uri, _, e, t, rfl, hload, rfl⟩⟩
      · have hgains := gains_of_load halone hload
        -- No namespace stands in the list twice, so what the rest lacks is still the same.
        have hsame : rest.filter (t.receive uri l).lacks = rest.filter s.lacks := by
          refine List.filter_congr fun other hother => ?_
          rw [HostState.lacks, HostState.lacks, hgains.others (ne_of_mem_of_not_mem hother hnot)]
        obtain ⟨before, after, u, hdue, hloadings, hend⟩ :=
          ih hnodup hreg (hgains.closed.trans hopen)
        exact ⟨uri :: before, after, u, by rw [← hsame, hdue, List.cons_append],
          .cons hload hloadings, hend⟩

end Host

/-! ### What failed is tried again -/

/-- Along a run the calls of a loader only become more. -/
theorem Run.le_calls (h : Run host s t) (uri : String) : s.calls uri ≤ t.calls uri := by
  obtain ⟨new, hnew, -⟩ := h.adds
  rw [HostState.calls_eq, HostState.calls_eq, hnew, List.countP_append]
  exact Nat.le_add_right ..

/-- A namespace stays without a module until its loader is called. -/
theorem Run.find?_none_or_called (h : Run host s t) (hnone : s.modules.find? uri = none) :
    t.modules.find? uri = none ∨ s.calls uri < t.calls uri := by
  induction h with
  | refl => exact .inl hnone
  | step _ step ih =>
    rcases ih hnone with hnone | hcalled
    · exact .inl (step.find?_none hnone)
    · exact .inr (hcalled.trans_le (step.run.le_calls uri))
  | @load s t u new v mod run _ _ _ inside _ ih ih' =>
    have hreceive : (u.receive new ⟨t.calls new + 1, mod⟩).calls uri = u.calls uri :=
      HostState.calls_of_events HostState.events_receive (by simp)
    have hnote := HostState.le_calls_note_called t new uri (t.calls new + 1)
    have hinside := inside.le_calls uri
    rw [hreceive]
    rcases ih hnone with hnone | hcalled
    · by_cases hsame : uri = new
      · -- The call that made the module is one more, whatever else the loader had executed.
        subst hsame
        have hcall := t.calls_note_called uri (t.calls uri + 1)
        have hbefore := run.le_calls uri
        exact .inr (by omega)
      · rcases ih' hnone with hnone | hcalled
        · exact .inl ((HostState.find?_receive_of_ne hsame).trans hnone)
        · have hbefore := run.le_calls uri
          exact .inr (by omega)
    · exact .inr (by omega)

namespace Host

/-- The next use of a namespace without a module calls its loader. -/
theorem calls_module? (halone : host.registry.LoadsAlone) (hopen : s.closed = false)
    (hnone : s.modules.find? uri = none) (hreg : host.registry.get? uri = some v) :
    ((host.module? host.onBehalf uri).run.runFrom s).2.calls uri = s.calls uri + 1 := by
  rw [module?_of_load hopen hnone hreg]
  rcases hload : (host.load host.onBehalf uri).run.runFrom s with ⟨e | l, t⟩
  · obtain ⟨-, -, hevents⟩ := events_of_load_error halone hreg hload
    show t.calls uri = s.calls uri + 1
    rw [HostState.calls_eq, hevents, List.countP_append, HostState.calls_eq]
    simp [Event.isCallOf]
  · show (t.receive uri l).calls uri = s.calls uri + 1
    rw [HostState.calls_eq, (gains_of_load halone hload).events, List.countP_append,
      HostState.calls_eq]
    simp [HostState.loading, Event.isCallOf]

/-- So does the next use of one whose loader has failed, whatever happens in the meantime. -/
theorem module?_retries (halone : host.registry.LoadsAlone) (hopen : s.closed = false)
    (hnone : s.modules.find? uri = none) (hreg : host.registry.get? uri = some v)
    (h : Run host s t) (hcalls : t.calls uri = s.calls uri) :
    uri ∉ t.loadedUris ∧
      ((host.module? host.onBehalf uri).run.runFrom t).2.calls uri = s.calls uri + 1 := by
  have hstill : t.modules.find? uri = none :=
    (h.find?_none_or_called hnone).resolve_right fun hlt => Nat.ne_of_gt hlt hcalls
  refine ⟨HostState.not_mem_loadedUris.2 hstill, ?_⟩
  rw [calls_module? halone (h.closed_eq.trans hopen) hstill hreg, hcalls]

/-! ### Loading ahead -/

/-- Loading ahead loads what is due in order, up to the first that fails. -/
theorem runFrom_preload (halone : host.registry.LoadsAlone) (hopen : s.closed = false) :
    ∃ before after t, host.due s = before ++ after ∧ host.Loadings s before t ∧
      (after = [] ∧ (host.preload host.onBehalf).run.runFrom s = (.ok (), t) ∨
        ∃ uri rest e u, after = uri :: rest ∧
          (host.load host.onBehalf uri).run.runFrom t = (.error e, u) ∧
          (host.preload host.onBehalf).run.runFrom s = (.error e, u)) := by
  refine runFrom_loadAll halone host.usedUris_ascending.nodup ?_ hopen
  exact fun uri huri => (mem_usedUris.1 huri).2

/-- Once everything has been loaded that the document uses, its root comes to no loader. -/
theorem equipped_of_loaded (hopen : t.closed = false) (ht : t.Unscripted)
    (hloaded : ∀ uri, uri ∈ t.loadedUris ↔ uri ∈ s.loadedUris ∨ uri ∈ host.due s) :
    t.Equipped host host.document.root where
  isOpen := hopen
  unscripted := ht
  present el hel uri hns hnone := by
    cases hreg : host.registry.get? uri with
    | none => rfl
    | some v =>
      have hnot := mt (hloaded uri).2 (HostState.not_mem_loadedUris.2 hnone)
      have hcontains : host.registry.contains uri = true := Option.isSome_iff_exists.2 ⟨v, hreg⟩
      have hdue : uri ∈ host.due s :=
        mem_due.2 ⟨⟨el, hel, hns⟩, hcontains, fun h => hnot (.inl h)⟩
      exact absurd (.inr hdue) hnot

/-- A loader that fails after others have been called has been called once more. It leaves the session
as it is, and is called again when its namespace is used the next time. -/
theorem Loadings.failure (halone : host.registry.LoadsAlone) (hopen : s.closed = false)
    (h : host.Loadings s uris t) (hdue : uri ∈ host.due s) (hnot : uri ∉ uris) {e : HostError}
    (hload : (host.load host.onBehalf uri).run.runFrom t = (.error e, u)) :
    u.loadedUris = t.loadedUris ∧ u.events = t.events ++ [.called uri (s.calls uri + 1)] ∧
      ∀ w, Run host u w → w.calls uri = u.calls uri → uri ∉ w.loadedUris ∧
        ((host.module? host.onBehalf uri).run.runFrom w).2.calls uri = u.calls uri + 1 := by
  obtain ⟨-, hcontains, hlacks⟩ := mem_due.1 hdue
  obtain ⟨v, hreg⟩ := Option.isSome_iff_exists.1 hcontains
  obtain ⟨hclosed, hmodules, hevents⟩ := events_of_load_error halone hreg hload
  have hsame : u.loadedUris = t.loadedUris := congrArg Dict.keys hmodules
  have hnone : u.modules.find? uri = none := by
    rw [← HostState.not_mem_loadedUris, hsame, h.mem_loadedUris halone]
    exact not_or.2 ⟨hlacks, hnot⟩
  have hopen' : u.closed = false := hclosed.trans ((h.closed_eq halone).trans hopen)
  refine ⟨hsame, ?_, fun w hrun hcalls => module?_retries halone hopen' hnone hreg hrun hcalls⟩
  rw [hevents, h.calls_eq halone hnot]

/-- **What loading ahead does.** In a host of which the loaders execute no elements, loading ahead
from any state of an open session calls the loaders of exactly those registered namespaces that some
element of the document is in, at any depth, and that have no module yet: each once, and in the order
of their bytes. It stops at the first loader that fails, and that failure is its own. The namespaces
that were loaded stay loaded, and those before the failure are added to them; the one that failed has
no module, and its loader is called again as soon as the namespace is used again. Where nothing but
vocabularies that come with the library is registered, and nothing fails, executing the document calls
no loader any more, and the loaded namespaces stay what they are. -/
theorem preload_calls_due (host : Host) (halone : host.registry.LoadsAlone) (s : HostState)
    (hopen : s.closed = false) :
    let preloaded := (host.preload host.onBehalf).run.runFrom s
    let executed := (host.execute host.document.root).run.runFrom preloaded.2
    (∀ uri, uri ∈ host.due s ↔
      (∃ el ∈ host.document.root.preorder, el.namespaceUri = some uri) ∧
        host.registry.contains uri = true ∧ uri ∉ s.loadedUris) ∧
    ((host.due s).map Text.Utf8.encode).Pairwise (· < ·) ∧
    (∃ before after t, host.due s = before ++ after ∧ host.Loadings s before t ∧
      t.events = s.events ++ before.flatMap s.loading ∧
      (∀ uri, uri ∈ preloaded.2.loadedUris ↔ uri ∈ s.loadedUris ∨ uri ∈ before) ∧
      (after = [] ∧ preloaded = (.ok (), t) ∨
        ∃ uri rest e u, after = uri :: rest ∧
          (host.load host.onBehalf uri).run.runFrom t = (.error e, u) ∧ preloaded = (.error e, u) ∧
          u.events = t.events ++ [.called uri (s.calls uri + 1)] ∧
          ∀ w, Run host u w → w.calls uri = u.calls uri → uri ∉ w.loadedUris ∧
            ((host.module? host.onBehalf uri).run.runFrom w).2.calls uri = u.calls uri + 1)) ∧
    (host.registry.Stock → s.Unscripted → preloaded.1 = .ok () → ∃ new,
      executed.2.events = preloaded.2.events ++ new ∧ (∀ uri serial, .called uri serial ∉ new) ∧
        executed.2.loadedUris = preloaded.2.loadedUris) := by
  intro preloaded executed
  obtain ⟨before, after, t, hdue, hloadings, hend⟩ := runFrom_preload halone hopen
  have hnodup := (host.due_ascending s).nodup
  rw [hdue] at hnodup
  have hloaded : ∀ uri, uri ∈ t.loadedUris ↔ uri ∈ s.loadedUris ∨ uri ∈ before :=
    fun uri => hloadings.mem_loadedUris halone
  refine ⟨fun uri => mem_due, Text.Utf8.pairwise_encode (host.due_ascending s),
    ⟨before, after, t, hdue, hloadings, hloadings.events_eq halone hnodup.of_append_left, ?calls⟩,
    fun hstock hs hok => ?executed⟩
  case calls =>
    rcases hend with ⟨hafter, hpreload⟩ | ⟨uri, rest, e, u, rfl, hload, hpreload⟩
    · obtain rfl : preloaded.2 = t := congrArg Prod.snd hpreload
      exact ⟨hloaded, .inl ⟨hafter, hpreload⟩⟩
    · obtain rfl : preloaded.2 = u := congrArg Prod.snd hpreload
      have hnot : uri ∉ before :=
        fun hmem => (List.nodup_append.1 hnodup).2.2 uri hmem uri List.mem_cons_self rfl
      obtain ⟨hsame, hevents, hretries⟩ :=
        hloadings.failure halone hopen (hdue ▸ by simp) hnot hload
      exact ⟨fun uri => hsame ▸ hloaded uri,
        .inr ⟨uri, rest, e, _, rfl, hload, hpreload, hevents, hretries⟩⟩
  case executed =>
    rcases hend with ⟨rfl, hpreload⟩ | ⟨uri, rest, e, u, -, -, hpreload⟩
    · obtain rfl : preloaded.2 = t := congrArg Prod.snd hpreload
      have hrun : Run host s preloaded.2 := loadAll_runs host.usedUris s trivial
      rw [List.append_nil] at hdue
      exact execute_equipped (equipped_of_loaded (hrun.closed_eq.trans hopen)
        (hrun.unscripted hstock hs) (hdue ▸ hloaded))
    · cases (congrArg Prod.fst hpreload).symm.trans hok

/-- With the three built-in vocabularies nothing fails, and executing the document loads nothing. -/
theorem preload_calls_due_lazily :
    lazily.registry.LoadsAlone ∧ (HostState.fresh none default).closed = false ∧
      lazily.registry.Stock ∧ (HostState.fresh none default).Unscripted ∧
      ((lazily.preload lazily.onBehalf).run.runFrom (.fresh none default)).1 = .ok () ∧
      ((lazily.execute lazily.document.root).run.runFrom
        ((lazily.preload lazily.onBehalf).run.runFrom (.fresh none default)).2).2.loadedUris =
        ((lazily.preload lazily.onBehalf).run.runFrom (.fresh none default)).2.loadedUris := by
  have hstock : lazily.registry.Stock := fun uri v => Registry.module?_ofBuiltIn
  have hs : (HostState.fresh none default).Unscripted := nofun
  have hok : ((lazily.preload lazily.onBehalf).run.runFrom (.fresh none default)).1 = .ok () := by
    obtain ⟨t, hpreload, -, -⟩ := lazily.preload_loads (s := .fresh none default) rfl rfl
    exact congrArg Prod.fst hpreload
  obtain ⟨-, -, -, hexecuted⟩ :=
    preload_calls_due lazily hstock.loadsAlone (.fresh none default) rfl
  obtain ⟨-, -, -, hsame⟩ := hexecuted hstock hs hok
  exact ⟨hstock.loadsAlone, rfl, hstock, hs, hok, hsame⟩

end Host

/-- A host of three vocabularies, of which the second cannot be loaded. -/
def Host.partlyBroken : Host :=
  .ofDocument ⟨((Dict.empty.insert "urn:a" (.plain "urn:a")).insert "urn:b"
      (.broken "urn:b" "out of order" none)).insert "urn:c" (.plain "urn:c")⟩
    ⟨⟨"c:root", some "urn:c", [],
      [⟨"b:item", some "urn:b", [], [⟨"a:item", some "urn:a", [], []⟩]⟩]⟩, none⟩

/-- What comes before it in the order of the bytes is loaded, and nothing else. -/
example : ((Host.partlyBroken.preload Host.partlyBroken.onBehalf).run.runFrom
    (.fresh none default)).2.loadedUris = ["urn:a"] := by
  decide +kernel

end MarkupActions
