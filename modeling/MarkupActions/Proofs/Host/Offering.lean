import MarkupActions.Proofs.Host.Alone
import MarkupActions.Proofs.Host.Answering
import MarkupActions.Proofs.Host.Overlooking
import MarkupActions.Proofs.Text.ByteOrder

/-!
# MarkupActions.Proofs.Host.Offering

**Who is offered an element.** An element is offered to the modules that accept elements outside any
namespace, as they are loaded when the offer begins (`HostState.listeners`), one after the other in
the order of their URIs. The first that does not decline it ends the offer, with its answer
(`Host.offer_asks_in_turn`). What a module does with the element may be anything: it may have elements
executed, and by that change the modules that are asked after it. It cannot change which these are.
-/

namespace MarkupActions

variable {host : Host} {s t : HostState} {uri : String} {serial : Nat} {mod : Module} {el : Element}
  {listed given : List (String × Nat)} {answer : Except ActionError Dispatch}

/-! ### Those who listen -/

/-- The loaded modules that accept elements outside any namespace, by URI and number, ascending. -/
def HostState.listeners (s : HostState) : List (String × Nat) :=
  (s.modules.entries.filter fun entry => entry.2.mod.acceptsUnqualified).map fun entry =>
    (entry.1, entry.2.serial)

namespace HostState

/-- The modules that are offered elements are the listeners. -/
theorem accepting_eq (s : HostState) : Host.accepting s = s.listeners.map Prod.fst := by
  rw [Host.accepting, listeners, List.map_map]
  rfl

/-- A listener is a module that accepts elements outside any namespace. -/
theorem mem_listeners : (uri, serial) ∈ s.listeners ↔
    ∃ mod, s.modules.find? uri = some ⟨serial, mod⟩ ∧ mod.acceptsUnqualified = true := by
  rw [listeners, List.mem_map]
  constructor
  · rintro ⟨⟨u, n, mod⟩, hmem, heq⟩
    obtain ⟨rfl, rfl⟩ := Prod.mk.inj heq
    obtain ⟨hmem, haccepts⟩ := List.mem_filter.1 hmem
    exact ⟨mod, (s.modules.find?_eq_some_iff_mem u _).2 hmem, haccepts⟩
  · rintro ⟨mod, hfind, haccepts⟩
    exact ⟨_, List.mem_filter.2 ⟨(s.modules.find?_eq_some_iff_mem uri _).1 hfind, haccepts⟩, rfl⟩

/-- Listeners are asked in ascending order of their URIs. -/
theorem listeners_ascending (s : HostState) : (s.listeners.map Prod.fst).Pairwise (· < ·) := by
  rw [← accepting_eq]
  exact s.modules.keys_ascending.sublist (List.filter_sublist.map Prod.fst)

end HostState

/-- Modules are loaded under the given URIs and numbers, each with a property. -/
def HostState.Lists (P : Module → Prop) (listed : List (String × Nat)) (s : HostState) : Prop :=
  ∀ uri serial, (uri, serial) ∈ listed → ∃ mod, s.modules.find? uri = some ⟨serial, mod⟩ ∧ P mod

namespace HostState.Lists

variable {P : Module → Prop} {entry : String × Nat}

theorem tail (hs : s.Lists P (entry :: listed)) : s.Lists P listed :=
  fun uri serial h => hs uri serial (List.mem_cons_of_mem _ h)

/-- Modules stay, so they keep what no module of their vocabulary lacks. -/
theorem of_run (hP : ∀ {a b : Module}, a.Alike b → P a → P b) (hs : s.Lists P listed)
    (h : Run host s t) : t.Lists P listed := by
  intro uri serial hmem
  obtain ⟨mod, hfind, hmod⟩ := hs uri serial hmem
  obtain ⟨m, hm, halike⟩ := h.keeps hfind
  exact ⟨m, hm, hP halike hmod⟩

end HostState.Lists

/-! ### One after the other -/

namespace Host

/-- Modules are asked about an element in turn: each that declines it passes it on to the next, one
that does anything else has the last word, and with no one left the element is declined. -/
inductive AsksInTurn (host : Host) (el : Element) : HostState → List (String × Nat) →
    Except ActionError Dispatch → HostState → Prop where
  | nobody (s : HostState) : AsksInTurn host el s [] (.ok .declined) s
  | claimed {s t : HostState} {uri : String} {serial : Nat} {mod : Module}
      {answer : Except ActionError Dispatch} (hfind : s.modules.find? uri = some ⟨serial, mod⟩)
      (hanswer : (host.handling uri mod (some el)).runFrom (s.note (.handled uri serial)) =
        (answer, t))
      (hnot : answer ≠ .ok .declined) : AsksInTurn host el s [(uri, serial)] answer t
  | passedOn {s t u : HostState} {uri : String} {serial : Nat} {mod : Module}
      {rest : List (String × Nat)} {answer : Except ActionError Dispatch}
      (hfind : s.modules.find? uri = some ⟨serial, mod⟩)
      (hanswer : (host.handling uri mod (some el)).runFrom (s.note (.handled uri serial)) =
        (.ok .declined, t))
      (hrest : AsksInTurn host el t rest answer u) :
      AsksInTurn host el s ((uri, serial) :: rest) answer u

/-- Offer an element to the modules of some namespaces, and carry out what is left to the host. -/
def offerAmong (host : Host) (el : Element) (uris : List String) : SessionM Dispatch := do
  host.settle el (← offerTo host.onBehalf el uris)

/-- An offer goes to the listeners that there are when it begins. -/
theorem runFrom_offer (hopen : s.closed = false) (el : Element) : (host.offer el).run.runFrom s =
    (host.offerAmong el (s.listeners.map Prod.fst)).run.runFrom s := by
  rw [offer, offerAmong, HostM.runFrom_run_bind, HostM.runFrom_run_bind, ← HostState.accepting_eq,
    runFrom_offerAround hopen]

/-- The first of the modules is asked. If it declines, the others are asked, and else the offer ends
with its answer. -/
theorem runFrom_offerAmong_cons (hfind : s.modules.find? uri = some ⟨serial, mod⟩) (el : Element)
    (rest : List String) : (host.offerAmong el (uri :: rest)).run.runFrom s =
      match (host.handling uri mod (some el)).runFrom (s.note (.handled uri serial)) with
      | (.ok .declined, t) => (host.offerAmong el rest).run.runFrom t
      | (answer, t) => (answer.mapError .action, t) := by
  rw [offerAmong, HostM.runFrom_run_bind, runFrom_offerTo_cons hfind, runFrom_ask, handling,
    HostM.runFrom_bind]
  generalize (mod.react host.onBehalf uri (some el)).runFrom (s.note (.handled uri serial)) = r
  obtain ⟨_ | result | wrap | e, t⟩ := r
  · exact (HostM.runFrom_run_bind t (offerTo host.onBehalf el rest) (host.settle el)).symm
  · rfl
  · rfl
  · rfl

/-- Whoever is asked takes the state along a run. -/
theorem handling_run (host : Host) (hopen : s.closed = false)
    (hfind : s.modules.find? uri = some ⟨serial, mod⟩) (el : Element) :
    Run host s ((host.handling uri mod (some el)).runFrom (s.note (.handled uri serial))).2 := by
  have hrun : Run host s ((host.handle uri (some el)).run.runFrom s).2 :=
    (Run.admits host).handle uri (some el) s
  rw [runFrom_handle hopen hfind] at hrun
  exact hrun

/-- From the modules of a list, each is asked in turn until one does not decline. -/
theorem exists_asksInTurn (host : Host) (el : Element) (hopen : s.closed = false)
    (hs : s.Lists (fun _ => True) listed) : ∃ given rest answer t, listed = given ++ rest ∧
      host.AsksInTurn el s given answer t ∧ (answer = .ok .declined → rest = []) ∧
      (host.offerAmong el (listed.map Prod.fst)).run.runFrom s = (answer.mapError .action, t) := by
  induction listed generalizing s with
  | nil => exact ⟨[], [], .ok .declined, s, rfl, .nobody s, fun _ => rfl, rfl⟩
  | cons entry rest ih =>
    obtain ⟨uri, serial⟩ := entry
    obtain ⟨mod, hfind, -⟩ := hs uri serial List.mem_cons_self
    have hrun := handling_run host hopen hfind el
    rw [List.map_cons, runFrom_offerAmong_cons hfind]
    rcases hanswer : (host.handling uri mod (some el)).runFrom (s.note (.handled uri serial))
      with ⟨answer, t⟩
    rw [hanswer] at hrun
    by_cases hdeclined : answer = .ok .declined
    · -- The others are still loaded: asking a module takes the state along a run.
      subst hdeclined
      obtain ⟨given, others, last, u, hlisted, hasks, hlast, hoffer⟩ :=
        ih (hrun.closed_eq.trans hopen) (hs.tail.of_run (fun _ _ => trivial) hrun)
      exact ⟨(uri, serial) :: given, others, last, u, congrArg _ hlisted,
        .passedOn hfind hanswer hasks, hlast, hoffer⟩
    · refine ⟨[(uri, serial)], rest, answer, t, rfl, .claimed hfind hanswer hdeclined,
        fun h => absurd h hdeclined, ?_⟩
      split
      · next heq => exact absurd (congrArg Prod.fst heq) hdeclined
      · next heq =>
        cases heq
        rfl

end Host

/-! ### Modules that have nothing executed -/

/-- A module has no other element executed to handle the given one. `agent` does so for those it
announces, and scripted modules do as their scripts say. -/
def Module.HandlesAlone (el : Element) : Module → Prop
  | .agent _ => el.action ≠ "agent"
  | .env _ | .stdin _ _ => True
  | .scripted script _ => ∀ memory, (script.handle memory (some el)).Alone

/-- A module is one that elements outside any namespace are offered to, and handles this one alone. -/
structure Module.ListensAlone (el : Element) (mod : Module) : Prop where
  accepts : mod.acceptsUnqualified = true
  alone : mod.HandlesAlone el

theorem Module.ListensAlone.of_alike {a b : Module} (h : a.Alike b) (ha : a.ListensAlone el) :
    b.ListensAlone el := by
  cases h <;> exact ⟨ha.accepts, ha.alone⟩

/-- Noting a transition changes no module for another. -/
theorem HostState.serial?_noting (s : HostState) (uri event schema : String) :
    (s.noting uri event schema).serial? = s.serial? := by
  funext other
  by_cases hevent : event = ""
  · simp [noting, hevent, serial?]
  · have hsame := s.serial?_updateModule uri other (Agent.record event schema)
    simpa [noting, hevent, serial?, updateModule] using hsame

namespace Host

/-- Such a module, when it is asked, leaves nothing in the journal but that, and loads nothing. -/
theorem handling_alone (host : Host) (hmod : mod.ListensAlone el) (uri : String) (s : HostState) :
    ((host.handling uri mod (some el)).runFrom s).2.events = s.events ∧
      ((host.handling uri mod (some el)).runFrom s).2.serial? = s.serial? := by
  obtain ⟨haccepts, halone⟩ := hmod
  cases mod with
  | env | stdin => cases haccepts
  | agent schemas =>
    have hunknown : Module.knows (.agent schemas) el = false := by
      rw [Bool.eq_false_iff, ne_eq, Module.knows_iff]
      exact fun h => halone (List.mem_singleton.1 h)
    rw [handling, HostM.runFrom_bind, Module.react_declined rfl hunknown, Module.passingOn]
    dsimp only
    split
    · exact ⟨rfl, HostState.serial?_noting ..⟩
    · exact ⟨rfl, rfl⟩
  | scripted script memory =>
    have hbeside := (halone memory).beside host.onBehalf s
    rw [handling, HostM.runFrom_bind, Module.react, HostM.runFrom_bind]
    generalize ((script.handle memory (some el)).run host.onBehalf).runFrom s = r at hbeside ⊢
    obtain ⟨⟨answer, next⟩, t⟩ := r
    have hserial : (t.updateModule uri fun _ => .scripted script next).serial? = s.serial? := by
      funext other
      rw [HostState.serial?_updateModule, HostState.serial?, hbeside.modules, HostState.serial?]
    rcases answer with e | _ | result <;> exact ⟨hbeside.events, hserial⟩

/-- Asking such modules in turn leaves in the journal that they were asked, and loads nothing. -/
theorem AsksInTurn.alone (h : host.AsksInTurn el s given answer t)
    (hs : s.Lists (Module.ListensAlone el) given) (hopen : s.closed = false) :
    t.events = s.events ++ given.map (fun entry => .handled entry.1 entry.2) ∧
      t.serial? = s.serial? := by
  induction h with
  | nobody => exact ⟨(List.append_nil _).symm, rfl⟩
  | @claimed s _ uri serial mod _ hfind hanswer _ =>
    obtain ⟨first, hfirst, hmod⟩ := hs uri serial List.mem_cons_self
    cases hfind.symm.trans hfirst
    have hleft := handling_alone host hmod uri (s.note (.handled uri serial))
    rw [hanswer] at hleft
    exact ⟨hleft.1.trans (HostState.events_note ..), hleft.2⟩
  | @passedOn s t u uri serial mod rest answer hfind hanswer _ ih =>
    obtain ⟨first, hfirst, hmod⟩ := hs uri serial List.mem_cons_self
    cases hfind.symm.trans hfirst
    have hleft := handling_alone host hmod uri (s.note (.handled uri serial))
    have hrun := handling_run host hopen hfind el
    rw [hanswer] at hleft hrun
    obtain ⟨hevents, hserial⟩ :=
      ih (hs.tail.of_run (fun halike => .of_alike halike) hrun) (hrun.closed_eq.trans hopen)
    refine ⟨?_, hserial.trans hleft.2⟩
    rw [hevents, hleft.1, HostState.events_note, List.map_cons, List.append_assoc]
    rfl

/-- **Who is offered an element.** In every state of an open session, an element is offered to the
modules that accept elements outside any namespace, in the order of the bytes of their URIs, each
asked once at most: up to and with the first that does not decline it, whose answer is the result, and
without such a module the element is declined. A module that accepts no such elements is not among
them, whatever it would do with this one. Where the modules that are asked have nothing executed, all
that the session has of the offer is that they were asked: no other module, and no loader. -/
theorem offer_asks_in_turn (host : Host) (el : Element) (s : HostState) (hopen : s.closed = false) :
    (∀ uri serial, (uri, serial) ∈ s.listeners ↔
      ∃ mod, s.modules.find? uri = some ⟨serial, mod⟩ ∧ mod.acceptsUnqualified = true) ∧
    (s.listeners.map fun entry => Text.Utf8.encode entry.1).Pairwise (· < ·) ∧
    ∃ given rest answer t, s.listeners = given ++ rest ∧ host.AsksInTurn el s given answer t ∧
      (answer = .ok .declined → rest = []) ∧
      (host.offer el).run.runFrom s = (answer.mapError .action, t) ∧
      (s.Lists (Module.HandlesAlone el) given →
        t.events = s.events ++ given.map (fun entry => .handled entry.1 entry.2) ∧
          t.loadedUris = s.loadedUris) := by
  have hlists : s.Lists (fun _ => True) s.listeners := by
    intro uri serial hmem
    obtain ⟨mod, hfind, -⟩ := HostState.mem_listeners.1 hmem
    exact ⟨mod, hfind, trivial⟩
  obtain ⟨given, rest, answer, t, hlisted, hasks, hlast, hoffer⟩ :=
    exists_asksInTurn host el hopen hlists
  refine ⟨fun uri serial => HostState.mem_listeners, ?ascending, given, rest, answer, t, hlisted,
    hasks, hlast, (runFrom_offer hopen el).trans hoffer, fun halone => ?alone⟩
  case ascending =>
    have hascending := Text.Utf8.pairwise_encode s.listeners_ascending
    rwa [List.map_map] at hascending
  case alone =>
    have hlistens : s.Lists (Module.ListensAlone el) given := by
      intro uri serial hmem
      obtain ⟨mod, hfind, hmod⟩ := halone uri serial hmem
      obtain ⟨first, hfirst, haccepts⟩ :=
        HostState.mem_listeners.1 (hlisted ▸ List.mem_append_left rest hmem)
      cases hfind.symm.trans hfirst
      exact ⟨mod, hfind, haccepts, hmod⟩
    obtain ⟨hevents, hserial⟩ := hasks.alone hlistens hopen
    exact ⟨hevents, HostState.loadedUris_eq hserial⟩

end Host

/-- A module that takes the elements of one name, and may be offered those outside any namespace. -/
def Module.taking (uri name : String) (unqualified : Bool) : Module := .scripted
  { uri := uri
    acceptsUnqualified := unqualified
    schemas := fun _ => .empty
    load := fun _ _ => .done (.ok .null)
    handle := fun memory el => .done <| match el with
      | some el => (.ok (if el.action = name then .handled (.ok ()) else .declined), memory)
      | none => (.error (Stub.missing "taking"), memory)
    unload := fun _ => .done (.ok ()) } .null

/-- A session of four modules. Three of them take `ping`, and one of these may not be offered it. -/
def HostState.pinging : HostState :=
  { fresh none default with
    modules := (((Dict.empty.insert "urn:a" ⟨1, .taking "urn:a" "ping" false⟩).insert "urn:b"
      ⟨1, .taking "urn:b" "pong" true⟩).insert "urn:c" ⟨1, .taking "urn:c" "ping" true⟩).insert
      "urn:d" ⟨1, .taking "urn:d" "ping" true⟩ }

/-- One of the modules passes `ping` on, the next takes it, and the last is not asked. -/
theorem Host.offer_asks_in_turn_pinging :
    HostState.pinging.closed = false ∧
      HostState.pinging.Lists (Module.HandlesAlone (.named "ping")) HostState.pinging.listeners ∧
      (((ofDocument .empty default).offer (.named "ping")).run.runFrom .pinging).1 =
        .ok (.handled (.ok ())) ∧
      ∃ given rest, [("urn:b", 1), ("urn:c", 1), ("urn:d", 1)] = given ++ rest ∧
        [.handled "urn:b" 1, .handled "urn:c" 1] =
          given.map fun entry => Event.handled entry.1 entry.2 := by
  have halone : HostState.pinging.Lists (Module.HandlesAlone (.named "ping"))
      HostState.pinging.listeners := by
    intro uri serial hmem
    have hmem : (uri, serial) ∈ [("urn:b", 1), ("urn:c", 1), ("urn:d", 1)] := hmem
    simp only [List.mem_cons, Prod.mk.injEq, List.not_mem_nil, or_false] at hmem
    rcases hmem with ⟨rfl, rfl⟩ | ⟨rfl, rfl⟩ | ⟨rfl, rfl⟩ <;> exact ⟨_, rfl, fun _ => trivial⟩
  obtain ⟨-, -, given, rest, answer, t, hlisted, -, -, hoffer, hquiet⟩ :=
    offer_asks_in_turn (ofDocument .empty default) (.named "ping") .pinging rfl
  obtain ⟨hevents, -⟩ :=
    hquiet fun uri serial hmem => halone uri serial (hlisted ▸ List.mem_append_left rest hmem)
  have hleft : t.events = [.handled "urn:b" 1, .handled "urn:c" 1] :=
    (congrArg (fun left => left.2.events) hoffer).symm
  exact ⟨rfl, halone, rfl, given, rest, hlisted, hleft.symm.trans hevents⟩

end MarkupActions
