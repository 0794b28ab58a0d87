import MarkupActions.Proofs.Host.Execution
import MarkupActions.Proofs.Host.Outcomes
import MarkupActions.Proofs.Requests

/-!
# MarkupActions.Proofs.Host.Entries

**Getting an entry sees the last set.** When all stores are the one in memory, what it holds under a
key is at any time the value that was written last, or the entry it began with (`Entered`): a single
step writes one entry or none, and so does, by induction, every run. `get` puts this value at its
location, or the default where there is none; `set` writes one entry and touches nothing else.
-/

namespace MarkupActions

/-! ### What has been written -/

/-- The values that were written under a key, in order. -/
def written (key : String) (events : List Event) : List String :=
  events.filterMap fun
    | .stored _ k value => if k = key then some value else none
    | _ => none

@[simp] theorem written_append (key : String) (a b : List Event) :
    written key (a ++ b) = written key a ++ written key b := List.filterMap_append

/-- What a store holds under a key that held something before any of some events. -/
def valueAfter (key : String) (events : List Event) (first : Option String) : Option String :=
  (written key events).getLast?.or first

variable {host : Host} {s t : HostState} {initial : Dict String} {uri : String} {el : Element}

/-- The store in memory holds what has been written to it since it held something. -/
def Entered (initial : Dict String) (s : HostState) : Prop :=
  ∀ key, s.holdings.memory.find? key = valueAfter key s.events (initial.find? key)

namespace Entered

/-- What writes nothing leaves it so. -/
theorem of_same (hs : Entered initial s) (hholdings : t.holdings = s.holdings)
    (hwritten : ∀ key, written key t.events = written key s.events) : Entered initial t := by
  intro key
  rw [hholdings, hs key, valueAfter, valueAfter, hwritten]

theorem note (hs : Entered initial s) {e : Event} (he : ∀ key, written key [e] = []) :
    Entered initial (s.note e) := by
  refine hs.of_same rfl fun key => ?_
  rw [HostState.events_note, written_append, he, List.append_nil]

/-- A written entry is the one that counts from then on. -/
theorem stored (hs : Entered initial s) (uri key value : String) :
    Entered initial ({ s with holdings := { s.holdings with
      memory := s.holdings.memory.insert key value } }.note (.stored uri key value)) := by
  intro other
  rw [HostState.holdings_note, HostState.events_note, valueAfter, written_append]
  by_cases hsame : other = key
  · subst hsame
    simp [written]
  · have hnone : written other [.stored uri key value] = [] := by
      simp [written, Ne.symm hsame]
    rw [hnone, List.append_nil, Dict.find?_insert_of_ne _ hsame]
    exact hs other

end Entered

/-! ### Along runs -/

/-- A module of a store is one of the store in memory, and namespaces registered for that have no
other module. -/
def InMemory (host : Host) (uri : String) (mod : Module) : Prop :=
  (∀ store, mod = .env store → store = .memory) ∧
    (host.registry.get? uri = some (.env .memory) → mod = .env .memory)

/-- Where only the store in memory is registered, no other is loaded. -/
theorem Run.inMemory
    (hstores : ∀ uri store, host.registry.get? uri = some (.env store) → store = .memory)
    (h : Run host s t) (hs : s.All (InMemory host)) : t.All (InMemory host) := by
  refine h.all_modules ?_ ?_ hs
  · rintro uri a b ⟨hstore, hreg⟩ halike
    cases halike with
    | env => exact ⟨hstore, hreg⟩
    | agent | stdin | scripted => exact ⟨nofun, fun h => absurd (hreg h) nofun⟩
  · intro uri v mod hget hmakes
    cases hmakes with
    | env store =>
      obtain rfl := hstores uri store hget
      exact ⟨fun _ h => (Module.env.inj h).symm, fun _ => rfl⟩
    | agent | stdin | scripted => exact ⟨nofun, fun h => by cases hget.symm.trans h⟩

/-- A step leaves every entry the one that was last written, as far as the journal tells. -/
theorem Step.entered (h : Step host s t) (hmodules : s.All (InMemory host))
    (hs : Entered initial s) : Entered initial t := by
  cases h with
  | log | write | record | remember => exact hs.of_same rfl fun _ => rfl
  | ask | prompt | call => exact hs.note fun _ => rfl
  | take => exact Entered.note (s := s.updateModule _ _) (hs.of_same rfl fun _ => rfl) fun _ => rfl
  | @store uri key value serial store holdings hl hset =>
    obtain rfl := (hmodules uri _ hl).1 store rfl
    cases hset
    exact hs.stored uri key value

/-- A run writes what it writes to the store in memory. -/
theorem Run.entered
    (hstores : ∀ uri store, host.registry.get? uri = some (.env store) → store = .memory)
    (h : Run host s t) (hmodules : s.All (InMemory host)) (hs : Entered initial s) :
    Entered initial t := by
  induction h with
  | refl => exact hs
  | step run step ih => exact step.entered (run.inMemory hstores hmodules) (ih hmodules hs)
  | @load _ t u uri _ _ run _ _ _ _ _ ih ih' =>
    have hcalled : Entered initial (t.note (.called uri (t.calls uri + 1))) :=
      (ih hmodules hs).note fun _ => rfl
    have ht := run.inMemory hstores hmodules
    have hinside := ih' ht hcalled
    refine hinside.of_same HostState.holdings_receive fun key => ?_
    rw [HostState.events_receive, written_append]
    exact List.append_nil _

/-- Loading and asking modules writes nothing. -/
theorem HostState.Prepares.written_eq (h : s.Prepares host t) (key : String) :
    written key t.events = written key s.events := by
  obtain ⟨new, hnew, hkind⟩ := h.events
  have hnone : written key new = [] := by
    refine List.filterMap_eq_nil_iff.2 ?_
    intro e he
    rcases hkind e he with hloading | ⟨uri, serial, rfl⟩
    · cases e with
      | called | loaded => rfl
      | handled | unloaded | prompted | consumed | stored => cases hloading
    · rfl
  rw [hnew, written_append, hnone, List.append_nil]

/-! ### What `get` and `set` do -/

namespace Env

/-- How a `get` goes: its result, and the state behind it, when the store began with some entries. -/
structure Gets (initial : Dict String) (el : Element) (s : HostState)
    (result : Except ActionError Unit) (t : HostState) : Prop where
  holdings : t.holdings = s.holdings
  writes : ∀ key, written key t.events = written key s.events
  /-- When it succeeds, what was found is at the location. -/
  found : result = .ok () → ∃ q, getRequest el s.dataModel = .ok q ∧
    q.default = (el.attribute? "default").filter (· ≠ "") ∧
    let value := valueAfter q.name s.events (initial.find? q.name)
    (t.dataModel.bind (·.get? q.location)) =
      some (.string (value.getD (q.default.getD ""))) ∧
    t.log = match value, q.default with
      | none, some default => s.log.push ⟨"env", defaultMessage q.name default⟩
      | _, _ => s.log

/-- How a `set` goes that succeeds. -/
structure Sets (el : Element) (s t : HostState) (q : SetRequest) : Prop where
  request : setRequest el s.dataModel = .ok q
  dataModel : t.dataModel = s.dataModel
  log : t.log = s.log
  holdings : t.holdings = { s.holdings with memory := s.holdings.memory.insert q.name q.value }
  writes : ∀ key, written key t.events =
    written key s.events ++ if key = q.name then [q.value] else []

/-- Handling `get` gives the entry that was last written, or the default. -/
theorem getEntry_gets (hs : Entered initial s) (el : Element) :
    Gets initial el s ((getEntry .memory el).run.runFrom s).1
      ((getEntry .memory el).run.runFrom s).2 := by
  rw [runFrom_getEntry]
  cases hq : getRequest el s.dataModel with
  | error e => exact ⟨rfl, fun _ => rfl, nofun⟩
  | ok q =>
    obtain ⟨⟨m, hm⟩, hdefault⟩ := getRequest_ok hq
    have hmodel : (lookedUp .memory q s).dataModel = some m := (dataModel_lookedUp ..).trans hm
    have hvalue : Store.memory.get? s.holdings q.name =
        valueAfter q.name s.events (initial.find? q.name) := hs q.name
    dsimp only
    rcases hassign : (ActionM.assign q.location (.string (q.answer .memory s.holdings))
      (getFailure q)).run.runFrom (lookedUp .memory q s) with ⟨e | _, t⟩
    · obtain ⟨rfl, -⟩ := ActionM.assign_error hassign
      exact ⟨holdings_lookedUp .., fun key => by rw [events_lookedUp], nofun⟩
    · obtain ⟨hwritten, rfl⟩ := ActionM.assign_ok hmodel hassign
      refine ⟨holdings_lookedUp .., fun key => ?_, fun _ => ⟨q, hq, hdefault, ?_, ?_⟩⟩
      · exact congrArg (written key) (events_lookedUp .memory q s)
      · have hget := DataModel.get?_write_append hwritten (List.append_nil _).symm
        rw [Value.lookup?_nil] at hget
        rw [← hvalue]
        exact hget
      · rw [← hvalue]
        refine (log_lookedUp .memory q s).trans ?_
        rw [GetRequest.fallback?]
        cases Store.memory.get? s.holdings q.name with
        | some value => rfl
        | none => cases q.default <;> rfl

/-- Handling `set` writes the entry, if it succeeds. -/
theorem setEntry_sets (h : (setEntry uri .memory el).run.runFrom s = (.ok (), t)) :
    ∃ q, Sets el s t q := by
  rw [runFrom_setEntry] at h
  cases hq : setRequest el s.dataModel with
  | error e =>
    rw [hq] at h
    cases h
  | ok q =>
    rw [hq] at h
    cases h
    refine ⟨q, hq, rfl, rfl, rfl, fun key => ?_⟩
    rw [HostState.events_note, written_append]
    by_cases hsame : key = q.name
    · simp [written, hsame, HostState.events]
    · simp [written, hsame, Ne.symm hsame, HostState.events]

/-! ### All gets of a session -/

/-- What comes before an entry is gotten plays no part in how that goes. -/
theorem Gets.of_prepares {u : HostState} {result : Except ActionError Unit}
    (h : s.Prepares host u) (hgets : Gets initial el u result t) : Gets initial el s result t := by
  obtain ⟨holdings, writes, found⟩ := hgets
  simp only [valueAfter, h.dataModel, h.log, h.written_eq] at found
  exact ⟨holdings.trans h.holdings, fun key => (writes key).trans (h.written_eq key), found⟩

theorem Sets.of_prepares {u : HostState} {q : SetRequest} (h : s.Prepares host u)
    (hsets : Sets el u t q) : Sets el s t q := by
  obtain ⟨request, dataModel, log, holdings, writes⟩ := hsets
  rw [h.dataModel] at request dataModel
  rw [h.log] at log
  rw [h.holdings] at holdings
  simp only [h.written_eq] at writes
  exact ⟨request, dataModel, log, holdings, writes⟩

/-- **Getting an entry sees the last set.** Let all stores that are registered be the one in memory,
and a new session begin with any variables and entries. Calls take it along a run. Wherever an
element is executed on a run, by the host itself or on behalf of a module: a `get` puts the value
that was last set under its key, or else began there, or else its default, and leaves the store alone;
a `set` that succeeds changes the one entry that it names, and nothing else but the record of what
was set. -/
theorem get_sees_last_set (host : Host)
    (hstores : ∀ uri store, host.registry.get? uri = some (.env store) → store = .memory)
    (model : Option DataModel) (holdings : Holdings) :
    (∀ calls : List Call, Run host (.fresh model holdings)
      ((Call.performAll host calls).runFrom (.fresh model holdings)).2) ∧
    ∀ s, Run host (.fresh model holdings) s →
      (∀ key, s.holdings.memory.find? key =
        valueAfter key s.events (holdings.memory.find? key)) ∧
      ∀ uri, host.registry.get? uri = some (.env .memory) →
        ∀ (reenter : Reenter) (el : Element), el.namespaceUri = some uri →
          (el.action = "get" → Gets holdings.memory el s
            ((host.executeWith reenter el).run.runFrom s).1
            ((host.executeWith reenter el).run.runFrom s).2) ∧
          (el.action = "set" → ∀ t, (host.executeWith reenter el).run.runFrom s = (.ok (), t) →
            ∃ q, Sets el s t q) := by
  refine ⟨fun calls => Call.performAll_runs calls _ trivial, fun s hs => ?_⟩
  have hmodules : s.All (InMemory host) := hs.inMemory hstores nofun
  have hentered : Entered holdings.memory s := hs.entered hstores nofun fun _ => rfl
  refine ⟨hentered, fun uri hreg reenter el hns => ?_⟩
  have hopen : s.closed = false := hs.closed_eq
  have hmod : host.moduleFor s uri = some (.env .memory) := by
    rw [Host.moduleFor]
    cases hl : s.modules.find? uri with
    | some l => exact congrArg some ((hmodules uri l hl).2 hreg)
    | none =>
      rw [hreg]
      rfl
  constructor
  · intro hget
    obtain ⟨u, serial, hprepares, -, hexecute⟩ :=
      Host.executeWith_of_moduleFor reenter hopen hns hmod (Module.react_get _ _ hget .memory)
    have hu : Entered holdings.memory u :=
      hentered.of_same hprepares.holdings hprepares.written_eq
    rw [hexecute]
    exact .of_prepares hprepares (getEntry_gets hu el)
  · intro hset t ht
    obtain ⟨u, serial, hprepares, -, hexecute⟩ :=
      Host.executeWith_of_moduleFor reenter hopen hns hmod (Module.react_set _ _ hset .memory)
    rw [hexecute] at ht
    obtain ⟨q, hsets⟩ := setEntry_sets ht
    exact ⟨q, .of_prepares hprepares hsets⟩

/-- An element that sets an entry to the empty text. -/
def emptyingShell : Element := ⟨"env:set", some envUri, [("name", "SHELL"), ("expr", "''")], []⟩

/-- An element that gets the entry, with blanks around its name. -/
def gettingShell : Element :=
  ⟨"env:get", some envUri, [("name", " SHELL "), ("location", "shell"), ("default", "sh")], []⟩

/-- A host for the two. -/
def shellHost : Host :=
  .ofDocument (Registry.empty.registerAll [(envUri, .env .memory)]).1 ⟨gettingShell, none⟩

/-- The state behind setting the entry. -/
def shellState : HostState :=
  ((Call.performAll shellHost [.execute emptyingShell]).runFrom (.fresh (some .empty) default)).2

/-- The empty text counts as found, and the default is not used. -/
theorem get_sees_last_set_shell :
    (∀ uri store, shellHost.registry.get? uri = some (.env store) → store = .memory) ∧
      Run shellHost (.fresh (some .empty) default) shellState ∧
      shellHost.registry.get? envUri = some (.env .memory) ∧
      gettingShell.namespaceUri = some envUri ∧
      ((shellHost.execute gettingShell).run.runFrom shellState).1 = .ok () ∧
      ((shellHost.execute gettingShell).run.runFrom shellState).2.dataModel.bind (·.get? "shell") =
        some (.string "") := by
  have hstores : ∀ uri store, shellHost.registry.get? uri = some (.env store) → store = .memory := by
    intro uri store h
    have hget : shellHost.registry.get? uri = if uri = envUri then some (.env .memory) else none :=
      (Dict.find?_insert ..).trans rfl
    rw [hget] at h
    split at h
    · cases h
      rfl
    · cases h
  obtain ⟨hcalls, hall⟩ := get_sees_last_set shellHost hstores (some .empty) default
  have hrun : Run shellHost (.fresh (some .empty) default) shellState := hcalls [.execute emptyingShell]
  obtain ⟨-, helements⟩ := hall shellState hrun
  obtain ⟨hget, -⟩ := helements envUri rfl shellHost.onBehalf gettingShell rfl
  have hok : ((shellHost.execute gettingShell).run.runFrom shellState).1 = .ok () := rfl
  obtain ⟨q, hq, -, hvalue, -⟩ := (hget rfl).found hok
  have hrequest : getRequest gettingShell shellState.dataModel =
      .ok ⟨"SHELL", "shell", some "sh"⟩ := rfl
  cases hrequest.symm.trans hq
  exact ⟨hstores, hrun, rfl, rfl, hok, hvalue⟩

end Env

end MarkupActions
