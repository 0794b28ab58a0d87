import MarkupActions.Proofs.Host.Lifecycle
import MarkupActions.Proofs.Text.ByteOrder

/-!
# MarkupActions.Proofs.Host.Teardown

**One module for a namespace, until all are unloaded.** Whoever is asked about an element is the
instance that stands under the namespace, and that is the first one its loader returned: nothing
takes its place while the session is open, however loaders nest. Tearing the session down empties it
first and then unloads what was in it, each module once, in the order of the bytes of their URIs. A
failure to unload is remembered and passed over, so that the first one is the result. After that
there is nothing left to unload.

`Operation` puts teardown among the calls on a session, so that a history may go on behind it, and
tear down again.
-/

namespace MarkupActions

variable {host : Host} {s t : HostState} {events new : List Event} {uri : String} {serial : Nat}

/-! ### Who is asked -/

/-- Every module that was asked about an element was the first instance of its namespace, and its
loader had returned it by then. -/
def AskedFirst (events : List Event) : Prop :=
  ∀ before uri serial after, events = before ++ .handled uri serial :: after →
    firstLoad? uri before = some serial

namespace AskedFirst

theorem nil : AskedFirst [] := by
  intro before uri serial after h
  exact absurd h (by simp)

/-- Events that ask no module can always be added. -/
theorem append (h : AskedFirst events) (hnew : ∀ uri serial, .handled uri serial ∉ new) :
    AskedFirst (events ++ new) := by
  intro before uri serial after heq
  rcases List.append_eq_append_iff.1 heq with ⟨front, -, hback⟩ | ⟨front, hfront, hback⟩
  · exact absurd (hback ▸ List.mem_append_right front List.mem_cons_self) (hnew uri serial)
  · cases front with
    | nil =>
      rw [List.nil_append] at hback
      exact absurd (hback ▸ List.mem_cons_self) (hnew uri serial)
    | cons e front =>
      obtain ⟨rfl, -⟩ := List.cons.inj hback
      exact h before uri serial front hfront

/-- The module that was loaded first may be asked. -/
theorem asked (h : AskedFirst events) (hfirst : firstLoad? uri events = some serial) :
    AskedFirst (events ++ [.handled uri serial]) := by
  intro before uri' serial' after heq
  rcases List.append_eq_append_iff.1 heq with ⟨front, hfront, hback⟩ | ⟨front, hfront, hback⟩
  · cases front with
    | nil =>
      obtain ⟨rfl, rfl⟩ := Event.handled.inj (List.cons.inj hback).1
      rwa [hfront, List.append_nil]
    | cons e front => exact absurd (List.cons.inj hback).2 (by simp)
  · cases front with
    | nil =>
      obtain ⟨rfl, rfl⟩ := Event.handled.inj (List.cons.inj hback).1
      rwa [hfront, List.append_nil] at hfirst
    | cons e front =>
      obtain ⟨rfl, -⟩ := List.cons.inj hback
      exact h before uri' serial' front hfront

/-- Behind a moment at which the first instance is known, no other is asked. -/
theorem eq_of_mem (h : AskedFirst (events ++ new)) (hfirst : firstLoad? uri events = some serial)
    {n : Nat} (hmem : .handled uri n ∈ new) : n = serial := by
  obtain ⟨front, back, rfl⟩ := List.append_of_mem hmem
  have hasked := h (events ++ front) uri n back (by rw [List.append_assoc])
  rw [firstLoad?_append, hfirst, Option.some_or] at hasked
  exact (Option.some.inj hasked).symm

end AskedFirst

/-- A step asks a module that stands in the session, or else it asks none. -/
theorem Step.ask_or_not (h : Step host s t) :
    (∃ uri l, s.closed = false ∧ s.modules.find? uri = some l ∧
      t = s.note (.handled uri l.serial)) ∨
    ∃ new, t.events = s.events ++ new ∧ ∀ uri serial, .handled uri serial ∉ new := by
  cases h with
  | ask hopen h => exact .inl ⟨_, _, hopen, h, rfl⟩
  | log | write | record | remember => exact .inr ⟨[], (List.append_nil _).symm, nofun⟩
  | prompt | store | call | take => exact .inr ⟨[_], HostState.events_note .., by simp⟩

/-- In a session that is in order as long as it is open, the first instance is asked throughout. -/
theorem Run.askedFirst (h : Run host s t) (hs : s.closed = false → s.Orderly)
    (hasked : AskedFirst s.events) : AskedFirst t.events := by
  induction h with
  | refl => exact hasked
  | step run step ih =>
    rcases step.ask_or_not with ⟨uri, l, hopen, hl, rfl⟩ | ⟨new, hnew, hnot⟩
    · have horderly := run.orderly (hs (run.closed_eq ▸ hopen))
      rw [HostState.events_note]
      refine (ih hs hasked).asked ?_
      rw [horderly.first, HostState.serial?, hl, Option.map_some]
    · rw [hnew]
      exact (ih hs hasked).append hnot
  | @load _ t u uri v mod run hopen _ _ _ _ ih ih' =>
    have horderly := run.orderly (hs (run.closed_eq ▸ hopen))
    have hcalled : AskedFirst (t.note (.called uri (t.calls uri + 1))).events := by
      rw [HostState.events_note]
      exact (ih hs hasked).append (by simp)
    rw [HostState.events_receive]
    exact (ih' (fun _ => horderly.called uri) hcalled).append (by simp)

/-! ### Unloading one module after the other -/

/-- Unload one module. -/
def Host.unloadOne (reenter : Reenter) (entry : String × Loaded) :
    HostM (Except ActionError Unit) := do
  HostM.note (.unloaded entry.1 entry.2.serial)
  (entry.2.mod.unload reenter).outcome

/-- The first result that is a failure; success if there is none. -/
def firstFailure (results : List (Except ActionError Unit)) : Except ActionError Unit :=
  (results.find? (!·.isOk)).getD (.ok ())

/-- The modules that were unloaded, in the order in which they were. -/
def unloadings (events : List Event) : List (String × Nat) :=
  events.filterMap fun
    | .unloaded uri serial => some (uri, serial)
    | _ => none

@[simp] theorem unloadings_append (a b : List Event) :
    unloadings (a ++ b) = unloadings a ++ unloadings b := List.filterMap_append

theorem unloadings_eq_nil (h : ∀ uri serial, .unloaded uri serial ∉ events) :
    unloadings events = [] := by
  refine List.filterMap_eq_nil_iff.2 ?_
  intro e he
  cases e with
  | unloaded uri serial => exact absurd he (h uri serial)
  | called | loaded | handled | prompted | consumed | stored => rfl

/-- Unloading modules gives the first failure, and goes on past all of them. -/
theorem Host.runFrom_unloadAll (reenter : Reenter) (entries : Entries Loaded) (s : HostState) :
    (unloadAll reenter entries).runFrom s =
      (firstFailure ((entries.mapM (unloadOne reenter)).runFrom s).1,
        ((entries.mapM (unloadOne reenter)).runFrom s).2) := by
  induction entries generalizing s with
  | nil => rfl
  | cons entry rest ih =>
    have hone : (unloadOne reenter entry).runFrom s =
        (entry.2.mod.unload reenter).run.runFrom (s.note (.unloaded entry.1 entry.2.serial)) := rfl
    rw [List.mapM_cons]
    simp only [unloadAll, HostM.runFrom_bind, HostM.runFrom_note, HostM.runFrom_outcome,
      HostM.runFrom_pure, hone, ih]
    cases ((entry.2.mod.unload reenter).run.runFrom
      (s.note (.unloaded entry.1 entry.2.serial))).1 <;> rfl

/-- A second teardown does nothing. -/
theorem Host.runFrom_unload_of_closed (reenter : Reenter) (h : s.closed = true) :
    (unload reenter).run.runFrom s = (.ok (), s) := by
  simp [unload, h]

/-- A teardown closes the session first, and then unloads what it had. -/
theorem Host.runFrom_unload_of_open (reenter : Reenter) (h : s.closed = false) :
    (unload reenter).run.runFrom s =
      (unloadAll reenter s.modules.entries).runFrom
        { s with closed := true, modules := .empty } := by
  simp [unload, h]

/-! ### A session that has been emptied -/

/-- What is true of a session from its beginning, through its teardown, and afterwards. -/
structure HostState.Settled (s : HostState) : Prop where
  asked : AskedFirst s.events
  orderly : s.closed = false → s.Orderly
  /-- Nothing is unloaded while the session is open. -/
  kept : s.closed = false → unloadings s.events = []
  /-- Nothing is loaded when it is torn down. -/
  emptied : s.closed = true → s.modules = .empty

/-- No single step loads a module where there is none. -/
theorem Step.modules_empty (h : Step host s t) (hempty : s.modules = .empty) :
    t.modules = .empty := by
  cases h with
  | log | write | prompt | call => exact hempty
  | ask _ h | store h _ | record h | take h | remember h =>
    rw [hempty] at h
    cases h

/-- A session that has been torn down stays empty. -/
theorem Run.modules_empty (h : Run host s t) (hclosed : s.closed = true)
    (hempty : s.modules = .empty) : t.modules = .empty := by
  induction h with
  | refl => exact hempty
  | step _ step ih => exact step.modules_empty (ih hclosed hempty)
  | load run hopen => exact absurd (run.closed_eq.symm.trans hopen) (by simp [hclosed])

namespace HostState.Settled

theorem fresh (model : Option DataModel) (holdings : Holdings) :
    (HostState.fresh model holdings).Settled :=
  ⟨.nil, fun _ => .fresh model holdings, fun _ => rfl, nofun⟩

/-- A run keeps a session settled. -/
theorem run (hs : s.Settled) (h : Run host s t) : t.Settled where
  asked := h.askedFirst hs.orderly hs.asked
  orderly hopen := h.orderly (hs.orderly (h.closed_eq ▸ hopen))
  kept hopen := by
    obtain ⟨new, hnew, hadd⟩ := h.adds
    rw [hnew, unloadings_append, hs.kept (h.closed_eq ▸ hopen),
      unloadings_eq_nil hadd.not_unloaded, List.nil_append]
  emptied hclosed :=
    h.modules_empty (h.closed_eq ▸ hclosed) (hs.emptied (h.closed_eq ▸ hclosed))

end HostState.Settled

/-- What unloading modules leaves of an emptied session: each has been unloaded once, in turn. -/
theorem Host.unloadEach_settled (host : Host) (entries : Entries Loaded) (hs : s.Settled)
    (hclosed : s.closed = true) :
    let t := ((entries.mapM (unloadOne host.onBehalf)).runFrom s).2
    t.Settled ∧ t.closed = true ∧
      unloadings t.events = unloadings s.events ++ entries.map fun (uri, l) => (uri, l.serial) := by
  induction entries generalizing s with
  | nil => exact ⟨hs, hclosed, (List.append_nil _).symm⟩
  | cons entry rest ih =>
    obtain ⟨uri, l⟩ := entry
    have hnoted : (s.note (.unloaded uri l.serial)).Settled := by
      refine ⟨?_, fun hopen => ?_, fun hopen => ?_, fun _ => hs.emptied hclosed⟩
      · rw [HostState.events_note]
        exact hs.asked.append (by simp)
      · exact absurd (hclosed.symm.trans hopen) (by simp)
      · exact absurd (hclosed.symm.trans hopen) (by simp)
    have hrun : Run host (s.note (.unloaded uri l.serial)) _ := l.mod.unload_runs _ trivial
    obtain ⟨new, hnew, hadd⟩ := hrun.adds
    obtain ⟨hsettled, hclosed', hunloadings⟩ := ih (hnoted.run hrun) (hrun.closed_eq.trans hclosed)
    rw [List.mapM_cons]
    refine ⟨hsettled, hclosed', hunloadings.trans ?_⟩
    rw [hnew, HostState.events_note, unloadings_append, unloadings_append,
      unloadings_eq_nil hadd.not_unloaded, List.append_nil, List.append_assoc]
    rfl

/-- Tearing down an open session empties it, and unloads what was in it. -/
theorem Host.unload_settled (host : Host) (hs : s.Settled) (hopen : s.closed = false) :
    let t := ((unload host.onBehalf).run.runFrom s).2
    t.Settled ∧ t.closed = true ∧
      unloadings t.events = s.modules.entries.map fun (uri, l) => (uri, l.serial) := by
  have hemptied : { s with closed := true, modules := .empty }.Settled :=
    ⟨hs.asked, nofun, nofun, fun _ => rfl⟩
  obtain ⟨hsettled, hclosed, hunloadings⟩ :=
    unloadEach_settled host s.modules.entries hemptied rfl
  rw [runFrom_unload_of_open _ hopen, runFrom_unloadAll]
  exact ⟨hsettled, hclosed, hunloadings.trans (congrArg (· ++ _) (hs.kept hopen))⟩

/-! ### Sessions with their teardown -/

/-- What can be asked of a session in any order. -/
inductive Operation where
  | call (c : Call)
  /-- Tearing the session down. -/
  | unload

namespace Operation

/-- Make a call, or tear the session down. -/
def perform (host : Host) : Operation → HostM Unit
  | .call c => c.perform host
  | .unload => do let _ ← (Host.unload host.onBehalf).run

/-- Perform some operations in turn, whatever becomes of each. -/
def performAll (host : Host) : List Operation → HostM Unit
  | [] => pure ()
  | op :: rest => do
      op.perform host
      performAll host rest

/-- The state that operations on a new session lead to. -/
def reached (host : Host) (model : Option DataModel) (holdings : Holdings)
    (ops : List Operation) : HostState :=
  ((performAll host ops).runFrom (.fresh model holdings)).2

/-- An operation keeps a session settled, and only tearing it down closes it. -/
theorem perform_settled (host : Host) (op : Operation) (hs : s.Settled) :
    ((op.perform host).runFrom s).2.Settled ∧
      (((op.perform host).runFrom s).2.closed = true ↔ s.closed = true ∨ op = .unload) := by
  cases op with
  | call c =>
    have hrun : Run host s ((c.perform host).runFrom s).2 := c.perform_runs s trivial
    refine ⟨hs.run hrun, ?_⟩
    rw [perform, hrun.closed_eq]
    simp
  | unload =>
    simp only [perform, HostM.runFrom_bind, HostM.runFrom_pure, or_true, iff_true]
    cases h : s.closed with
    | true =>
      rw [Host.runFrom_unload_of_closed _ h]
      exact ⟨hs, h⟩
    | false =>
      obtain ⟨hsettled, hclosed, -⟩ := Host.unload_settled host hs h
      exact ⟨hsettled, hclosed⟩

/-- A sequence of operations keeps a session settled, and closes it just if one of them is the
teardown. -/
theorem performAll_settled (host : Host) (ops : List Operation) (hs : s.Settled) :
    ((performAll host ops).runFrom s).2.Settled ∧
      (((performAll host ops).runFrom s).2.closed = true ↔ s.closed = true ∨ .unload ∈ ops) := by
  induction ops generalizing s with
  | nil => exact ⟨hs, by simp [performAll]⟩
  | cons op rest ih =>
    obtain ⟨hfirst, hclosed⟩ := perform_settled host op hs
    obtain ⟨hrest, hclosed'⟩ := ih hfirst
    refine ⟨hrest, hclosed'.trans ?_⟩
    rw [hclosed, List.mem_cons, or_assoc, eq_comm (b := op)]

/-- Every state that can be reached is settled. -/
theorem reached_settled (host : Host) (model : Option DataModel) (holdings : Holdings)
    (ops : List Operation) : (reached host model holdings ops).Settled :=
  (performAll_settled host ops (.fresh model holdings)).1

theorem closed_reached_iff (host : Host) (model : Option DataModel) (holdings : Holdings)
    (ops : List Operation) :
    (reached host model holdings ops).closed = true ↔ .unload ∈ ops :=
  (performAll_settled host ops (.fresh model holdings)).2.trans (or_iff_right Bool.false_ne_true)

/-- The state that calls lead to, at any moment of them. -/
theorem run_reached (host : Host) (model : Option DataModel) (holdings : Holdings)
    (calls : List Call) :
    Run host (.fresh model holdings) (reached host model holdings (calls.map .call)) := by
  have hsame : performAll host (calls.map .call) = Call.performAll host calls := by
    induction calls with
    | nil => rfl
    | cons c rest ih =>
      rw [List.map_cons, performAll, ih]
      rfl
  rw [reached, hsame]
  exact Call.performAll_runs calls _ trivial

/-- **A namespace has one module until all are unloaded.** Calls on a new session take it along a
run. Whenever on a run, inside a loader too, a namespace has a module, it keeps this one to the end
of the run, and from then on whoever is asked about an element on behalf of the namespace is this
instance; no one is asked before there is one. Tearing the session down unloads what stands in it,
each module once and in the order of the bytes of the URIs, whatever comes of it; the first failure
is the result. It leaves the session closed and empty, and doing it again does nothing. -/
theorem instances_stay_until_unloaded (host : Host) (model : Option DataModel)
    (holdings : Holdings) :
    (∀ calls : List Call,
      Run host (.fresh model holdings) (reached host model holdings (calls.map .call))) ∧
    (∀ s, Run host (.fresh model holdings) s → ∀ uri serial, s.serial? uri = some serial →
      (∀ t, Run host (.fresh model holdings) t → s.events <+: t.events →
        t.serial? uri = some serial) ∧
      ∀ ops later, (reached host model holdings ops).events = s.events ++ later →
        ∀ n, .handled uri n ∈ later → n = serial) ∧
    ∀ ops, let s := reached host model holdings ops
      let unloaded := (Host.unload host.onBehalf).run.runFrom s
      AskedFirst s.events ∧
      (s.closed = true ↔ .unload ∈ ops) ∧
      (s.closed = false →
        let each := (s.modules.entries.mapM (Host.unloadOne host.onBehalf)).runFrom
          { s with closed := true, modules := .empty }
        unloaded = (firstFailure each.1, each.2) ∧
        unloadings unloaded.2.events = s.modules.entries.map (fun (uri, l) => (uri, l.serial)) ∧
        (s.loadedUris.map Text.Utf8.encode).Pairwise (· < ·)) ∧
      unloaded.2.closed = true ∧ unloaded.2.modules = .empty ∧
      (s.closed = true → unloaded = (.ok (), s)) := by
  refine ⟨run_reached host model holdings, fun s hs uri serial hserial => ?_, fun ops => ?_⟩
  · have horderly := hs.orderly (.fresh model holdings)
    have hfirst : firstLoad? uri s.events = some serial := (horderly.first uri).trans hserial
    constructor
    · rintro t ht ⟨later, hlater⟩
      rw [← (ht.orderly (.fresh model holdings)).first, ← hlater, firstLoad?_append, hfirst,
        Option.some_or]
    · intro ops later hlater n hn
      have hasked := (reached_settled host model holdings ops).asked
      rw [hlater] at hasked
      exact hasked.eq_of_mem hfirst hn
  · have hs := reached_settled host model holdings ops
    refine ⟨hs.asked, closed_reached_iff host model holdings ops, fun hopen => ?_, ?_⟩
    · obtain ⟨-, -, hunloadings⟩ := Host.unload_settled host hs hopen
      refine ⟨?_, hunloadings, Text.Utf8.pairwise_encode (Dict.keys_ascending _)⟩
      rw [Host.runFrom_unload_of_open _ hopen, Host.runFrom_unloadAll]
    · cases h : (reached host model holdings ops).closed with
      | true =>
        rw [Host.runFrom_unload_of_closed _ h]
        exact ⟨h, hs.emptied h, fun _ => rfl⟩
      | false =>
        obtain ⟨hsettled, hclosed, -⟩ := Host.unload_settled host hs h
        exact ⟨hclosed, hsettled.emptied hclosed, nofun⟩

end Operation

end MarkupActions
