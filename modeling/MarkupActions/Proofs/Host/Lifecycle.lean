import Mathlib.Data.List.Sort
import MarkupActions.Proofs.Host.Execution
import MarkupActions.Vocabulary.StandIn

/-!
# MarkupActions.Proofs.Host.Lifecycle

**How often a module is loaded and unloaded.** The journal of a session is read as a history. While
the session is open, the module of a namespace is the first one that its loader returned, and a
loader is called only before that. Tearing the session down unloads the modules it holds, each once.

A loader runs while its namespace has no module yet. If it executes an element of this very
namespace, a second instance is made inside the first call, returns first and is the one that stays;
the instance of the outer call reaches the session too, is dropped there, and is never unloaded.
This is the only way in which a loader can return twice, or an instance not be unloaded.
-/

open scoped List

namespace MarkupActions

/-! ### Histories -/

/-- The first instance that the loader of a namespace returned to the session. -/
def firstLoad? (uri : String) (events : List Event) : Option Nat :=
  events.findSome? fun
    | .loaded u n => if u = uri then some n else none
    | _ => none

/-- No loader returned a module to the session twice. -/
def LoadedOnce (events : List Event) : Prop :=
  ∀ uri first second, ¬ [.loaded uri first, .loaded uri second] <+ events

/-- Every instance that a loader returned to the session was unloaded once. -/
def UnloadedOnce (events : List Event) : Prop :=
  ∀ uri serial, .loaded uri serial ∈ events → events.count (.unloaded uri serial) = 1

/-- While a loader ran, the same loader was called again, and returned a module before the outer
call did. -/
def LoadedInside (uri : String) (events : List Event) : Prop :=
  ∃ outer inner, [.called uri outer, .called uri inner, .loaded uri inner, .loaded uri outer] <+
    events

/-- The first load in two histories is that in the first one, if it has one. -/
theorem firstLoad?_append (uri : String) (a b : List Event) :
    firstLoad? uri (a ++ b) = (firstLoad? uri a).or (firstLoad? uri b) := List.findSome?_append

theorem firstLoad?_eq_none {uri : String} {events : List Event}
    (h : ∀ serial, .loaded uri serial ∉ events) : firstLoad? uri events = none := by
  refine List.findSome?_eq_none_iff.2 ?_
  intro e he
  split
  · next u n => exact if_neg fun heq : u = uri => h n (heq ▸ he)
  · rfl

/-- An instance that the loader returned is the first, or comes after it. -/
theorem firstLoad?_of_mem {uri : String} {serial : Nat} {events : List Event}
    (h : .loaded uri serial ∈ events) : ∃ first, firstLoad? uri events = some first ∧
      (serial = first ∨ [.loaded uri first, .loaded uri serial] <+ events) := by
  induction events with
  | nil => cases h
  | cons e rest ih =>
    by_cases hload : ∃ n, e = .loaded uri n
    · obtain ⟨n, rfl⟩ := hload
      refine ⟨n, by simp [firstLoad?], ?_⟩
      rcases List.mem_cons.1 h with heq | hrest
      · exact .inl (by cases heq; rfl)
      · exact .inr ((List.singleton_sublist.2 hrest).cons_cons _)
    · have hskip : firstLoad? uri (e :: rest) = firstLoad? uri rest := by
        refine (firstLoad?_append uri [e] rest).trans ?_
        rw [firstLoad?_eq_none fun n hn => hload ⟨n, (List.mem_singleton.1 hn).symm⟩]
        rfl
      have hrest : .loaded uri serial ∈ rest :=
        (List.mem_cons.1 h).resolve_left fun heq => hload ⟨serial, heq.symm⟩
      obtain ⟨first, hfirst, hlater⟩ := ih hrest
      exact ⟨first, hskip.trans hfirst, hlater.imp_right fun hsub => hsub.cons e⟩

/-- A pair in a list lies in the first part if the second has neither of the two. -/
theorem pair_sublist_append {α : Type} {a b : α} {l m : List α} (h : [a, b] <+ l ++ m)
    (ha : a ∉ m) (hb : b ∉ m) : [a, b] <+ l := by
  obtain ⟨front, back, heq, hfront, hback⟩ := List.sublist_append_iff.1 h
  have hnil : back = [] := by
    refine List.eq_nil_iff_forall_not_mem.2 ?_
    intro x hx
    have hpair : x = a ∨ x = b := by
      have hmem : x ∈ [a, b] := heq ▸ List.mem_append_right _ hx
      simpa using hmem
    rcases hpair with rfl | rfl
    · exact ha (hback.subset hx)
    · exact hb (hback.subset hx)
  rwa [heq, hnil, List.append_nil]

/-- A pair in a list with one more entry behind lies in the list, or ends with that entry. -/
theorem pair_sublist_concat {α : Type} {a b e : α} {l : List α} (h : [a, b] <+ l ++ [e]) :
    [a, b] <+ l ∨ b = e ∧ a ∈ l := by
  have hreverse : [b, a] <+ e :: l.reverse := by simpa using h.reverse
  rcases List.sublist_cons_iff.1 hreverse with hrest | ⟨r, heq, hr⟩
  · exact .inl (by simpa using hrest.reverse)
  · obtain ⟨rfl, rfl⟩ := List.cons.inj heq
    exact .inr ⟨rfl, List.mem_reverse.1 (List.singleton_sublist.1 hr)⟩

/-! ### What a run adds -/

/-- Whether an event is none of a module's coming and going. -/
def Event.Quiet : Event → Prop
  | .called _ _ | .loaded _ _ | .unloaded _ _ => False
  | _ => True

/-- The events that can be added to the journal: a module is loaded only after its loader was
called, a loader is called only while the session is open, and nothing is unloaded. -/
structure Addition (isOpen : Prop) (new : List Event) : Prop where
  called_of_loaded : ∀ {uri serial}, .loaded uri serial ∈ new →
    [.called uri serial, .loaded uri serial] <+ new
  open_of_called : ∀ {uri serial}, .called uri serial ∈ new → isOpen
  not_unloaded : ∀ uri serial, .unloaded uri serial ∉ new

namespace Addition

variable {isOpen : Prop} {a b : List Event}

theorem nil : Addition isOpen [] := ⟨nofun, nofun, nofun⟩

/-- Events that say nothing of modules can always be added. -/
theorem of_quiet (h : ∀ e ∈ a, e.Quiet) : Addition isOpen a :=
  ⟨fun hmem => (h _ hmem).elim, fun hmem => (h _ hmem).elim, fun _ _ hmem => h _ hmem⟩

/-- Additions may follow each other. -/
theorem append (ha : Addition isOpen a) (hb : Addition isOpen b) : Addition isOpen (a ++ b) where
  called_of_loaded h := by
    rcases List.mem_append.1 h with h | h
    · exact (ha.called_of_loaded h).trans (List.sublist_append_left a b)
    · exact (hb.called_of_loaded h).trans (List.sublist_append_right a b)
  open_of_called h := (List.mem_append.1 h).elim ha.open_of_called hb.open_of_called
  not_unloaded uri serial h :=
    (List.mem_append.1 h).elim (ha.not_unloaded uri serial) (hb.not_unloaded uri serial)

/-- A call of a loader can be added while the session is open. -/
theorem called (h : isOpen) (uri : String) (serial : Nat) :
    Addition isOpen [.called uri serial] where
  called_of_loaded hmem := by simp at hmem
  open_of_called _ := h
  not_unloaded _ _ hmem := by simp at hmem

/-- The call of a loader, what happens inside it, and its return. -/
theorem load (h : isOpen) (uri : String) (serial : Nat) (ha : Addition isOpen a) :
    Addition isOpen ([.called uri serial] ++ a ++ [.loaded uri serial]) where
  called_of_loaded hmem := by
    rcases List.mem_append.1 hmem with hmem | hmem
    · have hbefore := (called h uri serial).append ha
      exact (hbefore.called_of_loaded hmem).trans (List.sublist_append_left ..)
    · obtain ⟨rfl, rfl⟩ := Event.loaded.inj (List.mem_singleton.1 hmem)
      exact (List.sublist_append_left [.called _ _] a).append (.refl [.loaded _ _])
  open_of_called _ := h
  not_unloaded uri' serial' hmem := by
    simp only [List.mem_append, List.mem_singleton, reduceCtorEq, or_false, false_or] at hmem
    exact ha.not_unloaded uri' serial' hmem

/-- A torn-down session calls no loader, so nothing reaches it from one. -/
theorem not_loaded (ha : Addition isOpen a) (h : ¬ isOpen) (uri : String) (serial : Nat) :
    .loaded uri serial ∉ a := by
  intro hmem
  have hcalled : .called uri serial ∈ a := (ha.called_of_loaded hmem).subset (List.mem_cons_self ..)
  exact h (ha.open_of_called hcalled)

end Addition

/-- The number of the module of a namespace. -/
def HostState.serial? (s : HostState) (uri : String) : Option Nat :=
  (s.modules.find? uri).map (·.serial)

@[simp] theorem HostState.serial?_note (s : HostState) (e : Event) (uri : String) :
    (s.note e).serial? uri = s.serial? uri := rfl

theorem HostState.serial?_updateModule (s : HostState) (uri other : String)
    (f : Module → Module) : (s.updateModule uri f).serial? other = s.serial? other := by
  by_cases h : other = uri
  · subst h
    simp only [serial?, find?_updateModule_self, Option.map_map]
    rfl
  · rw [serial?, find?_updateModule_of_ne _ _ _ h, serial?]

variable {host : Host} {s t u : HostState}

theorem HostState.mem_loadedUris {uri : String} :
    uri ∈ s.loadedUris ↔ ∃ l, s.modules.find? uri = some l := s.modules.mem_keys_iff uri

theorem HostState.not_mem_loadedUris {uri : String} :
    uri ∉ s.loadedUris ↔ s.modules.find? uri = none := by
  rw [mem_loadedUris, Option.eq_none_iff_forall_ne_some, not_exists]

/-- Which namespaces have modules is told by the numbers of these. -/
theorem HostState.loadedUris_eq (h : t.serial? = s.serial?) : t.loadedUris = s.loadedUris := by
  refine t.modules.keys_ascending.eq_of_mem_iff s.modules.keys_ascending fun {uri} => ?_
  have hsome : ∀ s : HostState, uri ∈ s.loadedUris ↔ (s.serial? uri).isSome = true := by
    intro s
    rw [mem_loadedUris, serial?, Option.isSome_map, Option.isSome_iff_exists]
  show uri ∈ t.loadedUris ↔ uri ∈ s.loadedUris
  rw [hsome, hsome, h]

/-- A step calls a loader, or else it touches nothing of a module's coming and going. -/
theorem Step.call_or_quiet (h : Step host s t) :
    (∃ uri v, s.closed = false ∧ s.modules.find? uri = none ∧ host.registry.get? uri = some v ∧
      t = s.note (.called uri (s.calls uri + 1))) ∨
    ∃ new, t.events = s.events ++ new ∧ (∀ e ∈ new, e.Quiet) ∧ t.serial? = s.serial? := by
  cases h with
  | call hopen h hreg => exact .inl ⟨_, _, hopen, h, hreg, rfl⟩
  | log | write => exact .inr ⟨[], (List.append_nil _).symm, nofun, rfl⟩
  | ask | prompt | store =>
    exact .inr ⟨[_], HostState.events_note .., by simp [Event.Quiet], rfl⟩
  | record | remember =>
    exact .inr ⟨[], (List.append_nil _).symm, nofun,
      funext fun _ => HostState.serial?_updateModule ..⟩
  | take =>
    exact .inr ⟨[_], HostState.events_note .., by simp [Event.Quiet],
      funext fun _ => (HostState.serial?_note ..).trans (HostState.serial?_updateModule ..)⟩

/-- What a run adds to the journal. -/
theorem Run.adds (h : Run host s t) :
    ∃ new, t.events = s.events ++ new ∧ Addition (s.closed = false) new := by
  induction h with
  | refl => exact ⟨[], (List.append_nil _).symm, .nil⟩
  | step run step ih =>
    obtain ⟨new, hnew, hadd⟩ := ih
    rcases step.call_or_quiet with ⟨uri, v, hopen, -, -, rfl⟩ | ⟨more, hmore, hquiet, -⟩
    · refine ⟨new ++ [_], by rw [HostState.events_note, hnew, List.append_assoc], ?_⟩
      exact hadd.append (.called (run.closed_eq ▸ hopen) ..)
    · refine ⟨new ++ more, by rw [hmore, hnew, List.append_assoc], ?_⟩
      exact hadd.append (.of_quiet hquiet)
  | @load _ t _ uri _ _ run hopen _ _ _ _ ih ih' =>
    obtain ⟨new, hnew, hadd⟩ := ih
    obtain ⟨inner, hinner, hadd'⟩ := ih'
    have hopen' := run.closed_eq ▸ hopen
    rw [HostState.closed_note, run.closed_eq] at hadd'
    refine ⟨_, ?_, hadd.append (hadd'.load hopen' uri (t.calls uri + 1))⟩
    rw [HostState.events_receive, hinner, HostState.events_note, hnew]
    simp only [List.append_assoc]

/-! ### The number of calls -/

/-- Whether an event is a call of the loader of a namespace. -/
def Event.isCallOf (uri : String) : Event → Bool
  | .called u _ => u = uri
  | _ => false

/-- How often a loader has been called is told by the events. -/
theorem HostState.calls_eq (s : HostState) (uri : String) :
    s.calls uri = s.events.countP (Event.isCallOf uri) := by
  have hfold : ∀ (events : List Event) (n : Nat), events.foldl (fun n e => match e with
      | .called u _ => if u = uri then n + 1 else n
      | _ => n) n = n + events.countP (Event.isCallOf uri) := by
    intro events
    induction events with
    | nil => exact fun n => rfl
    | cons e rest ih =>
      intro n
      rw [List.foldl_cons, ih, List.countP_cons]
      cases e with
      | called u serial =>
        by_cases h : u = uri
        · simp [Event.isCallOf, h, Nat.add_assoc, Nat.add_comm 1]
        · simp [Event.isCallOf, h]
      | loaded | handled | unloaded | prompted | consumed | stored => rfl
  exact (Array.foldl_toList _).symm.trans ((hfold s.events 0).trans (Nat.zero_add _))

theorem HostState.calls_of_events {new : List Event} {uri : String}
    (h : t.events = s.events ++ new) (hnew : ∀ serial, .called uri serial ∉ new) :
    t.calls uri = s.calls uri := by
  have hzero : new.countP (Event.isCallOf uri) = 0 := by
    refine List.countP_eq_zero.2 ?_
    intro e he
    cases e with
    | called u serial =>
      intro hsame
      obtain rfl : u = uri := by simpa [Event.isCallOf] using hsame
      exact hnew serial he
    | loaded | handled | unloaded | prompted | consumed | stored => exact Bool.false_ne_true
  rw [calls_eq, h, List.countP_append, hzero, Nat.add_zero, calls_eq]

theorem HostState.le_calls_note_called (s : HostState) (uri other : String) (serial : Nat) :
    s.calls other ≤ (s.note (.called uri serial)).calls other := by
  rw [calls_eq, calls_eq, events_note, List.countP_append]
  exact Nat.le_add_right ..

/-- A call counts. -/
theorem HostState.calls_note_called (s : HostState) (uri : String) (serial : Nat) :
    (s.note (.called uri serial)).calls uri = s.calls uri + 1 := by
  rw [calls_eq, calls_eq, events_note, List.countP_append]
  simp [Event.isCallOf]

/-! ### An open session in order -/

/-- What is true of the history of a session until it is torn down. -/
structure HostState.Orderly (s : HostState) : Prop where
  /-- The module of a namespace is the first that its loader returned. -/
  first : ∀ uri, firstLoad? uri s.events = s.serial? uri
  /-- No call has a number that is still to be given. -/
  le_calls : ∀ {uri serial}, .called uri serial ∈ s.events → serial ≤ s.calls uri
  /-- Calls of one loader are numbered in order. -/
  ascending : ∀ {uri m n}, [.called uri m, .called uri n] <+ s.events → m < n
  /-- Of two instances, the one that returned first was made inside the call that made the other. -/
  inside : ∀ {uri inner outer}, [.loaded uri inner, .loaded uri outer] <+ s.events →
    [.called uri outer, .called uri inner, .loaded uri inner, .loaded uri outer] <+ s.events

namespace HostState.Orderly

variable {uri : String}

theorem fresh (model : Option DataModel) (holdings : Holdings) :
    (HostState.fresh model holdings).Orderly :=
  ⟨fun _ => rfl, nofun, nofun, nofun⟩

theorem of_quiet (hs : s.Orderly) {new : List Event} (hnew : t.events = s.events ++ new)
    (hquiet : ∀ e ∈ new, e.Quiet) (hserial : t.serial? = s.serial?) : t.Orderly where
  first uri := by
    rw [hnew, firstLoad?_append, firstLoad?_eq_none fun _ h => hquiet _ h, Option.or_none,
      hs.first, hserial]
  le_calls h := by
    rw [hnew] at h
    rw [calls_of_events hnew fun _ h => hquiet _ h]
    exact hs.le_calls ((List.mem_append.1 h).resolve_right fun h => hquiet _ h)
  ascending h := by
    rw [hnew] at h
    exact hs.ascending (pair_sublist_append h (fun h => hquiet _ h) fun h => hquiet _ h)
  inside h := by
    rw [hnew] at h ⊢
    have hbefore := pair_sublist_append h (fun h => hquiet _ h) fun h => hquiet _ h
    exact (hs.inside hbefore).trans (List.sublist_append_left ..)

/-- A call gets the next number. -/
theorem called (hs : s.Orderly) (uri : String) :
    (s.note (.called uri (s.calls uri + 1))).Orderly where
  first uri := by
    rw [events_note, firstLoad?_append, hs.first, serial?_note]
    exact Option.or_none
  le_calls {u n} h := by
    rw [events_note] at h
    rcases List.mem_append.1 h with h | h
    · exact Nat.le_trans (hs.le_calls h) (le_calls_note_called ..)
    · obtain ⟨rfl, rfl⟩ := Event.called.inj (List.mem_singleton.1 h)
      exact Nat.le_of_eq (calls_note_called ..).symm
  ascending h := by
    rw [events_note] at h
    rcases pair_sublist_concat h with h | ⟨heq, hmem⟩
    · exact hs.ascending h
    · obtain ⟨rfl, rfl⟩ := Event.called.inj heq
      exact Nat.lt_succ_of_le (hs.le_calls hmem)
  inside h := by
    rw [events_note] at h ⊢
    rcases pair_sublist_concat h with h | ⟨heq, -⟩
    · exact (hs.inside h).trans (List.sublist_append_left ..)
    · cases heq

/-- A loader returns. Whatever was loaded for its namespace since it was called was loaded inside
its call. -/
theorem receive (ht : t.Orderly) (hu : u.Orderly) (hnone : t.modules.find? uri = none)
    {new : List Event} (hnew : u.events = (t.note (.called uri serial)).events ++ new)
    {isOpen : Prop} (hadd : Addition isOpen new) (mod : Module) :
    (u.receive uri ⟨serial, mod⟩).Orderly where
  first other := by
    rw [events_receive, firstLoad?_append, hu.first]
    by_cases h : other = uri
    · subst h
      rw [serial?, serial?, find?_receive_self]
      cases u.modules.find? other <;> simp [firstLoad?]
    · rw [serial?, serial?, find?_receive_of_ne h, firstLoad?_eq_none, Option.or_none]
      intro n hn
      exact h (Event.loaded.inj (List.mem_singleton.1 hn)).1
  le_calls h := by
    rw [events_receive] at h
    rw [calls_of_events events_receive (by simp)]
    exact hu.le_calls (by simpa using h)
  ascending h := by
    rw [events_receive] at h
    exact hu.ascending (pair_sublist_append h (by simp) (by simp))
  inside {uri' inner outer} h := by
    rw [events_receive] at h ⊢
    rcases pair_sublist_concat h with h | ⟨heq, hmem⟩
    · exact (hu.inside h).trans (List.sublist_append_left ..)
    · obtain ⟨rfl, rfl⟩ := Event.loaded.inj heq
      -- Nothing was loaded when the loader was called, so the other instance is among the new.
      have hbefore : .loaded uri' inner ∉ (t.note (.called uri' outer)).events := by
        intro hmem
        obtain ⟨first, hfirst, -⟩ := firstLoad?_of_mem (by simpa using hmem)
        rw [ht.first, serial?, hnone] at hfirst
        cases hfirst
      rw [hnew] at hmem ⊢
      have hinner := hadd.called_of_loaded ((List.mem_append.1 hmem).resolve_left hbefore)
      rw [events_note]
      exact ((List.sublist_append_right _ [_]).append hinner).append (.refl [_])

end HostState.Orderly

/-- Runs keep to the order of events, step by step. -/
theorem Run.orderly (h : Run host s t) (hs : s.Orderly) : t.Orderly := by
  induction h with
  | refl => exact hs
  | step _ step ih =>
    rcases step.call_or_quiet with ⟨uri, v, -, -, -, rfl⟩ | ⟨new, hnew, hquiet, hserial⟩
    · exact (ih hs).called uri
    · exact (ih hs).of_quiet hnew hquiet hserial
  | @load _ t _ uri _ mod _ _ hnone _ inside _ ih ih' =>
    obtain ⟨new, hnew, hadd⟩ := inside.adds
    exact (ih hs).receive (ih' ((ih hs).called uri)) hnone hnew hadd mod

/-! ### Teardown -/

/-- Unloading a module goes along a run. -/
theorem Module.unload_runs (m : Module) : (m.unload host.onBehalf).run.Runs host fun _ => True := by
  cases m with
  | agent | env => exact .pure _
  | stdin _ sink => exact .ofExcept _
  | scripted script memory => exact Script.runs Host.onBehalf_runs _

/-- Unloading modules records each of them, and no loader is called or returns meanwhile. -/
theorem Host.unloadAll_adds (host : Host) (entries : Entries Loaded) (hclosed : s.closed = true) :
    ∃ new, ((unloadAll host.onBehalf entries).runFrom s).2.events = s.events ++ new ∧
      (∀ uri serial, .called uri serial ∉ new ∧ .loaded uri serial ∉ new) ∧
      ∀ uri serial, new.count (.unloaded uri serial) =
        entries.countP fun entry => entry.1 = uri && entry.2.serial = serial := by
  induction entries generalizing s with
  | nil => exact ⟨[], (List.append_nil _).symm, fun _ _ => ⟨nofun, nofun⟩, fun _ _ => rfl⟩
  | cons entry rest ih =>
    obtain ⟨u, l⟩ := entry
    have hrun : Run host (s.note (.unloaded u l.serial)) _ := l.mod.unload_runs _ trivial
    obtain ⟨during, hduring, hadd⟩ := hrun.adds
    obtain ⟨after, hafter, hquiet, hcount⟩ := ih (hrun.closed_eq.trans hclosed)
    have hshut : ¬ (s.note (.unloaded u l.serial)).closed = false := by simp [hclosed]
    refine ⟨[.unloaded u l.serial] ++ during ++ after, ?_, fun uri serial => ?_, fun uri serial => ?_⟩
    · -- A failure to unload is passed over.
      have hsame : ((unloadAll host.onBehalf ((u, l) :: rest)).runFrom s).2 =
          ((unloadAll host.onBehalf rest).runFrom
            ((l.mod.unload host.onBehalf).run.runFrom (s.note (.unloaded u l.serial))).2).2 := by
        simp only [unloadAll, HostM.runFrom_bind, HostM.runFrom_note, HostM.runFrom_outcome]
        split <;> rfl
      rw [hsame, hafter, hduring, HostState.events_note]
      simp only [List.append_assoc]
    · have hnot := hadd.not_loaded hshut uri serial
      have hnot' : .called uri serial ∉ during := fun h => hshut (hadd.open_of_called h)
      simp [hnot, hnot', hquiet uri serial]
    · have hnot := List.count_eq_zero.2 (hadd.not_unloaded uri serial)
      rw [List.count_append, List.count_append, hnot, hcount, List.countP_cons, List.count_singleton]
      simp [Nat.add_comm]

/-- What is true of the history of a session that has been torn down. -/
structure TornDown (events : List Event) : Prop where
  /-- Of the instances of a namespace, exactly the first that returned has been unloaded. -/
  count_unloaded : ∀ uri serial, events.count (.unloaded uri serial) =
    if firstLoad? uri events = some serial then 1 else 0
  /-- Of two instances, the one that returned first was made inside the call that made the other. -/
  inside : ∀ {uri inner outer}, [.loaded uri inner, .loaded uri outer] <+ events →
    [.called uri outer, .called uri inner, .loaded uri inner, .loaded uri outer] <+ events
  /-- No instance is loaded twice. -/
  distinct : ∀ {uri inner outer}, [.loaded uri inner, .loaded uri outer] <+ events → inner ≠ outer

/-- A session that was in order is torn down in order. -/
theorem HostState.Orderly.unload (hs : s.Orderly) (hopen : s.closed = false)
    (hnot : ∀ uri serial, .unloaded uri serial ∉ s.events) :
    TornDown ((Host.unload host.onBehalf).run.runFrom s).2.events := by
  obtain ⟨new, hnew, hquiet, hcount⟩ := Host.unloadAll_adds host s.modules.entries
    (s := { s with closed := true, modules := .empty }) rfl
  have hfinal : ((Host.unload host.onBehalf).run.runFrom s).2.events = s.events ++ new := by
    rw [← show _ = s.events ++ new from hnew]
    simp [Host.unload, hopen]
  have hpair : ∀ {uri inner outer}, [.loaded uri inner, .loaded uri outer] <+ s.events ++ new →
      [.loaded uri inner, .loaded uri outer] <+ s.events := by
    intro uri inner outer h
    exact pair_sublist_append h (hquiet uri inner).2 (hquiet uri outer).2
  rw [hfinal]
  refine ⟨fun uri serial => ?_, fun h => ?_, fun h => ?_⟩
  · have hzero := List.count_eq_zero.2 (hnot uri serial)
    have hlisted := Entries.countP_of_ascending s.modules.ascending uri
      fun l => decide (l.serial = serial)
    have hfirst : firstLoad? uri (s.events ++ new) = s.serial? uri := by
      rw [firstLoad?_append, firstLoad?_eq_none fun n => (hquiet uri n).2, Option.or_none, hs.first]
    rw [List.count_append, hzero, Nat.zero_add, hcount, hlisted, hfirst, HostState.serial?,
      Dict.find?]
    cases Entries.find? uri s.modules.entries <;> simp
  · exact (hs.inside (hpair h)).trans (List.sublist_append_left ..)
  · exact Nat.ne_of_gt (hs.ascending ((List.sublist_append_left [_, _] _).trans (hs.inside (hpair h))))

/-! ### A whole session -/

/-- The calls on a session, and then its teardown. -/
def Call.lifetime (host : Host) (calls : List Call) : HostM Unit := do
  performAll host calls
  let _ ← (Host.unload host.onBehalf).run

/-- What happened during the calls on a new session and its teardown. -/
def Call.history (host : Host) (model : Option DataModel) (holdings : Holdings)
    (calls : List Call) : List Event :=
  ((lifetime host calls).runFrom (.fresh model holdings)).2.events

/-- Whatever calls there are, the history with the teardown at its end is as `TornDown` says. -/
theorem Call.history_tornDown (host : Host) (model : Option DataModel) (holdings : Holdings)
    (calls : List Call) : TornDown (history host model holdings calls) := by
  have hrun : Run host _ _ := performAll_runs calls (.fresh model holdings) trivial
  obtain ⟨new, hnew, hadd⟩ := hrun.adds
  refine (hrun.orderly (.fresh model holdings)).unload hrun.closed_eq ?_
  intro uri serial
  rw [hnew]
  exact hadd.not_unloaded uri serial

/-- A session loads every namespace once, and unloads every instance that a loader returned to it
once, exactly when no loader comes to load its own namespace while it runs. Either half of this
fails with such a loader. -/
theorem Call.once_iff_not_loadedInside (host : Host) (model : Option DataModel)
    (holdings : Holdings) (calls : List Call) :
    (LoadedOnce (history host model holdings calls) ↔
      ∀ uri, ¬ LoadedInside uri (history host model holdings calls)) ∧
    (UnloadedOnce (history host model holdings calls) ↔
      ∀ uri, ¬ LoadedInside uri (history host model holdings calls)) := by
  have h := history_tornDown host model holdings calls
  generalize history host model holdings calls = events at h
  refine ⟨⟨?_, ?_⟩, ⟨?_, ?_⟩⟩
  · rintro honce uri ⟨outer, inner, hinside⟩
    exact honce uri inner outer ((List.sublist_append_right [_, _] _).trans hinside)
  · intro hnot uri first second hpair
    exact hnot uri ⟨second, first, h.inside hpair⟩
  · rintro honce uri ⟨outer, inner, hinside⟩
    have hpair := (List.sublist_append_right [_, _] _).trans hinside
    -- Only the first instance is unloaded, so both would be the first.
    have hunloaded : ∀ serial, .loaded uri serial ∈ events → firstLoad? uri events = some serial := by
      intro serial hmem
      have hcount := h.count_unloaded uri serial
      rw [honce uri serial hmem] at hcount
      exact Decidable.byContradiction fun hne => by simp [hne] at hcount
    have hinner := hunloaded inner (hpair.subset (by simp))
    have houter := hunloaded outer (hpair.subset (by simp))
    exact h.distinct hpair (Option.some.inj (hinner.symm.trans houter))
  · intro hnot uri serial hmem
    obtain ⟨first, hfirst, rfl | hpair⟩ := firstLoad?_of_mem hmem
    · rw [h.count_unloaded, if_pos hfirst]
    · exact absurd ⟨serial, first, h.inside hpair⟩ (hnot uri)

/-- A vocabulary of which the loader executes an element of its own namespace. -/
def Stub.selfLoading : Stub :=
  { uri := "urn:stub"
    claims := []
    fails := []
    errs := []
    unqualified := false
    schemas := .empty
    unloadError := none
    onLoad := some ⟨"s:ping", some "urn:stub", [], []⟩ }

/-- A host that knows this vocabulary. -/
def Host.selfLoading : Host :=
  .ofDocument ⟨Dict.empty.insert "urn:stub" Stub.selfLoading.vocabulary⟩ ⟨.named "scxml", none⟩

/-- Its loader returns twice, and the instance of the outer call is never unloaded. -/
theorem Call.not_once_selfLoading :
    ¬ LoadedOnce (history .selfLoading none default [.module "urn:stub"]) ∧
      ¬ UnloadedOnce (history .selfLoading none default [.module "urn:stub"]) := by
  have hhistory : history .selfLoading none default [.module "urn:stub"] =
      [.called "urn:stub" 1, .called "urn:stub" 2, .loaded "urn:stub" 2, .handled "urn:stub" 2,
        .loaded "urn:stub" 1, .unloaded "urn:stub" 2] := by
    rfl
  rw [hhistory]
  constructor
  · intro honce
    exact honce "urn:stub" 2 1 (by decide)
  · intro honce
    exact absurd (honce "urn:stub" 1 (by decide)) (by decide)

end MarkupActions
