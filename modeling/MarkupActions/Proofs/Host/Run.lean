import MarkupActions.Proofs.Host.Computation

/-!
# MarkupActions.Proofs.Host.Run

**Everything that executing elements can do to the state of a host.** `Step` lists the single
changes, each with what is known where it happens; `Run` puts them in a row. Loading is not a single
change: between the call of a loader and the module it returns there is a run of its own, in which
the loader executes what elements it likes, of the namespace being loaded too. A run therefore holds
the runs of its loaders inside it, and an induction on runs follows loaders to any depth.

What holds of every run is proved here or elsewhere by that induction, and
`MarkupActions.Proofs.Host.Execution` shows that every execution is a run.
-/

namespace MarkupActions

/-- Two modules of one vocabulary, which may keep different things. -/
inductive Module.Alike : Module → Module → Prop where
  | agent (a b : Dict String) : Alike (.agent a) (.agent b)
  | env (store : Store) : Alike (.env store) (.env store)
  | stdin (a b : InputStream) (sink : PromptSink) : Alike (.stdin a sink) (.stdin b sink)
  | scripted (s : Scripted) (a b : Value) : Alike (.scripted s a) (.scripted s b)

namespace Module.Alike

theorem refl (m : Module) : m.Alike m := by
  cases m <;> constructor

theorem trans {a b c : Module} (h : a.Alike b) (h' : b.Alike c) : a.Alike c := by
  cases h <;> cases h' <;> constructor

end Module.Alike

/-- What a vocabulary is loaded into. A scripted one may remember anything at first. -/
inductive Vocabulary.Makes : Vocabulary → Module → Prop where
  | agent : Makes .agent (.agent .empty)
  | env (store : Store) : Makes (.env store) (.env store)
  | stdin (input : InputStream) (sink : PromptSink) : Makes (.stdin input sink) (.stdin input sink)
  | scripted (s : Scripted) (memory : Value) : Makes (.scripted s) (.scripted s memory)

/-! ### Steps -/

/-- One change that executing elements makes to the state, other than the return of a loader. -/
inductive Step (host : Host) : HostState → HostState → Prop where
  | log (s : HostState) (label message : String) : Step host s (s.addLog label message)
  /-- A write to the data model, whether it is refused or not. -/
  | write {s : HostState} {m : DataModel} (h : s.dataModel = some m) (location : String)
      (v : Value) : Step host s { s with dataModel := some (m.write location v).1 }
  /-- A module is asked about an element. -/
  | ask {s : HostState} {uri : String} {l : Loaded} (hopen : s.closed = false)
      (h : s.modules.find? uri = some l) : Step host s (s.note (.handled uri l.serial))
  | prompt (s : HostState) (uri text : String) : Step host s (s.note (.prompted uri text))
  | store {s : HostState} {uri key value : String} {serial : Nat} {store : Store}
      {holdings : Holdings} (h : s.modules.find? uri = some ⟨serial, .env store⟩)
      (hset : store.set s.holdings key value = .ok holdings) :
      Step host s ({ s with holdings := holdings }.note (.stored uri key value))
  /-- The schema of an event is recorded. -/
  | record {s : HostState} {uri : String} {serial : Nat} {schemas : Dict String}
      (h : s.modules.find? uri = some ⟨serial, .agent schemas⟩) (event schema : String) :
      Step host s (s.updateModule uri (Agent.record event schema))
  /-- A line is taken off an input. -/
  | take {s : HostState} {uri : String} {serial : Nat} {input : InputStream} {sink : PromptSink}
      (h : s.modules.find? uri = some ⟨serial, .stdin input sink⟩) :
      Step host s ((s.updateModule uri fun _ => .stdin input.readLine.2 sink).note
        (.consumed uri (Stdin.consumedOf input input.readLine.2)))
  /-- A scripted module remembers something. -/
  | remember {s : HostState} {uri : String} {serial : Nat} {script : Scripted} {old : Value}
      (h : s.modules.find? uri = some ⟨serial, .scripted script old⟩) (memory : Value) :
      Step host s (s.updateModule uri fun _ => .scripted script memory)
  | call {s : HostState} {uri : String} {v : Vocabulary} (hopen : s.closed = false)
      (h : s.modules.find? uri = none) (hreg : host.registry.get? uri = some v) :
      Step host s (s.note (.called uri (s.calls uri + 1)))

/-- Steps in a row. A loader that returns does so after a run of its own. -/
inductive Run (host : Host) : HostState → HostState → Prop where
  | refl (s : HostState) : Run host s s
  | step {s t u : HostState} (run : Run host s t) (step : Step host t u) : Run host s u
  | load {s t u : HostState} {uri : String} {v : Vocabulary} {mod : Module} (run : Run host s t)
      (hopen : t.closed = false) (h : t.modules.find? uri = none)
      (hreg : host.registry.get? uri = some v)
      (inside : Run host (t.note (.called uri (t.calls uri + 1))) u) (hmakes : v.Makes mod) :
      Run host s (u.receive uri ⟨t.calls uri + 1, mod⟩)

variable {host : Host} {s t u : HostState}

/-- Runs go on from where runs end. -/
theorem Run.trans (h : Run host s t) (h' : Run host t u) : Run host s u := by
  induction h' with
  | refl => exact h
  | step _ step ih => exact (ih h).step step
  | load _ hopen hnone hreg inside hmakes ih _ => exact (ih h).load hopen hnone hreg inside hmakes

/-- A single step is a run. -/
theorem Step.run (h : Step host s t) : Run host s t := (Run.refl s).step h

/-! ### What every run leaves alone -/

/-- No step opens or closes the session. -/
theorem Step.closed_eq (h : Step host s t) : t.closed = s.closed := by
  cases h <;> rfl

/-- Executing elements does not close a session. -/
theorem Run.closed_eq (h : Run host s t) : t.closed = s.closed := by
  induction h with
  | refl => rfl
  | step _ step ih => exact step.closed_eq.trans ih
  | load _ _ _ _ _ _ ih ih' => rw [HostState.closed_receive, ih', HostState.closed_note, ih]

/-- A module that changes what it keeps stays one of its kind, and the others stay what they are. -/
theorem HostState.keeps_updateModule {at_ uri : String} {old l : Loaded} {f : Module → Module}
    (hat : s.modules.find? at_ = some old) (hf : old.mod.Alike (f old.mod))
    (hl : s.modules.find? uri = some l) :
    ∃ m, (s.updateModule at_ f).modules.find? uri = some ⟨l.serial, m⟩ ∧ l.mod.Alike m := by
  by_cases hne : uri = at_
  · subst hne
    obtain rfl : old = l := Option.some.inj (hat.symm.trans hl)
    exact ⟨f old.mod, by rw [find?_updateModule_self, hat, Option.map_some], hf⟩
  · exact ⟨l.mod, by rw [find?_updateModule_of_ne _ _ _ hne, hl], .refl l.mod⟩

/-- A step takes away no module, and changes only what a module keeps. -/
theorem Step.keeps (h : Step host s t) {uri : String} {l : Loaded}
    (hl : s.modules.find? uri = some l) :
    ∃ m, t.modules.find? uri = some ⟨l.serial, m⟩ ∧ l.mod.Alike m := by
  cases h with
  | log | write | ask | prompt | store | call => exact ⟨l.mod, hl, .refl l.mod⟩
  | record hat => exact HostState.keeps_updateModule hat (.agent ..) hl
  | take hat =>
    rw [HostState.modules_note]
    refine HostState.keeps_updateModule hat ?_ hl
    exact .stdin ..
  | remember hat => exact HostState.keeps_updateModule hat (.scripted ..) hl

/-- A module stays under its URI, with the number it has, and stays one of its vocabulary. -/
theorem Run.keeps (h : Run host s t) {uri : String} {l : Loaded}
    (hl : s.modules.find? uri = some l) :
    ∃ m, t.modules.find? uri = some ⟨l.serial, m⟩ ∧ l.mod.Alike m := by
  induction h generalizing l with
  | refl => exact ⟨l.mod, hl, .refl l.mod⟩
  | step _ step ih =>
    obtain ⟨m, hm, halike⟩ := ih hl
    obtain ⟨m', hm', halike'⟩ := step.keeps hm
    exact ⟨m', hm', halike.trans halike'⟩
  | load _ _ _ _ _ _ ih ih' =>
    -- The module was there before the loader was called, so what the loader returns is dropped if it
    -- is for the same namespace.
    obtain ⟨m, hm, halike⟩ := ih hl
    obtain ⟨m', hm', halike'⟩ := ih' (l := ⟨l.serial, m⟩) hm
    exact ⟨m', HostState.find?_receive_of_some hm', halike.trans halike'⟩

/-! ### What holds of all modules -/

/-- No step loads a module. -/
theorem Step.find?_none (h : Step host s t) {uri : String} (hnone : s.modules.find? uri = none) :
    t.modules.find? uri = none := by
  cases h with
  | log | write | ask | prompt | store | call => exact hnone
  | record | remember => exact HostState.find?_updateModule_of_none _ _ _ hnone
  | take =>
    rw [HostState.modules_note]
    exact HostState.find?_updateModule_of_none _ _ _ hnone

/-- All loaded modules have a property. -/
def HostState.All (P : String → Module → Prop) (s : HostState) : Prop :=
  ∀ uri l, s.modules.find? uri = some l → P uri l.mod

section

variable {P : String → Module → Prop}
  (halike : ∀ uri a b, P uri a → Module.Alike a b → P uri b)

include halike

/-- What holds of all modules lasts, where none is added and each stays one of its kind. -/
theorem HostState.All.of_keeps (hs : s.All P)
    (hkeeps : ∀ uri l, s.modules.find? uri = some l →
      ∃ m, t.modules.find? uri = some ⟨l.serial, m⟩ ∧ l.mod.Alike m)
    (hnone : ∀ uri, s.modules.find? uri = none → t.modules.find? uri = none) : t.All P := by
  intro uri l hl
  cases hfind : s.modules.find? uri with
  | none => cases (hnone uri hfind).symm.trans hl
  | some first =>
    obtain ⟨m, hm, hsame⟩ := hkeeps uri first hfind
    cases hm.symm.trans hl
    exact halike uri _ _ (hs uri first hfind) hsame

/-- What modules have when they are loaded, and do not lose by what they keep, all modules have. -/
theorem Run.all_modules
    (hmakes : ∀ uri v mod, host.registry.get? uri = some v → v.Makes mod → P uri mod)
    (h : Run host s t) (hs : s.All P) : t.All P := by
  induction h with
  | refl => exact hs
  | step _ step ih => exact (ih hs).of_keeps halike (fun _ _ => step.keeps) fun _ => step.find?_none
  | @load _ t u uri v mod _ _ _ hget _ hmade ih ih' =>
    have hinside : u.All P := ih' (ih hs)
    intro other l hl
    -- The module under the URI is the new one, or one that was loaded while the loader ran.
    by_cases hne : other = uri
    · subst hne
      rw [HostState.find?_receive_self] at hl
      cases hfind : u.modules.find? other with
      | some first =>
        rw [hfind] at hl
        cases hl
        exact hinside other first hfind
      | none =>
        rw [hfind] at hl
        cases hl
        exact hmakes other v mod hget hmade
    · rw [HostState.find?_receive_of_ne hne] at hl
      exact hinside other l hl

end

end MarkupActions
