import MarkupActions.Proofs.Host.Closed
import MarkupActions.Proofs.Host.Preloading

/-!
# MarkupActions.Proofs.Host.Invariant

**What a host of the built-in vocabularies preserves.** A property of states that survives the loading
of modules, what passes in the journal, the closing of the session, and each action by itself survives
whatever a host is asked for (`Errand.performAll_preserves`). What `assign` has to preserve may be
limited to elements of some kind; the property then survives where elements of that kind are given.
-/

namespace MarkupActions

variable {host : Host} {store : Store} {input : InputStream} {sink : PromptSink}
  {Q : Element → Prop} {I : HostState → Prop} {s t : HostState}

/-- Getting a module loads at most that. -/
theorem Host.module?_upToLoading (hreg : host.registry = .ofBuiltIn store input sink)
    (reenter : Reenter) (uri : String) (s : HostState) :
    s.UpToLoading host ((host.module? reenter uri).run.runFrom s).2 := by
  have hrefl : s.UpToLoading host s := .of_prepares (.refl host s)
  cases hclosed : s.closed with
  | true => rw [module?_of_closed hclosed]; exact hrefl
  | false =>
    cases hget : host.registry.get? uri with
    | none =>
      cases hfind : s.modules.find? uri with
      | some l => rw [module?_of_find? hclosed hfind]; exact hrefl
      | none => rw [module?_of_get?_none hclosed hfind hget]; exact hrefl
    | some v =>
      obtain ⟨mod, hmod⟩ := Registry.module?_ofBuiltIn (hreg ▸ hget)
      obtain ⟨l, t, hmodule, hloads, -⟩ := exists_module? reenter hclosed hget hmod
      rw [hmodule]
      exact (HostState.UpToLoading.of_prepares (.of_loads hloads)).symm

/-- A property of states that survives whatever a host of the built-in vocabularies does with elements
of some kind. -/
structure Host.Invariant (host : Host) (store : Store) (sink : PromptSink) (Q : Element → Prop)
    (I : HostState → Prop) : Prop where
  ofParent : ∀ {el c}, c ∈ el.children → Q el → Q c
  loading : ∀ {s t}, s.UpToLoading host t → I s → I t
  note : ∀ {s e}, e.isOutward = false → I s → I (s.note e)
  closing : ∀ {s}, I s → I { s with closed := true, modules := .empty }
  addLog : ∀ {s} label message, I s → I (s.addLog label message)
  writes : ∀ {s pairs x}, Agent.Writes agentUri pairs x → I s → I (x.runFrom s).2
  getEntry : ∀ {s} el, I s → I ((Env.getEntry store el).run.runFrom s).2
  setEntry : ∀ {s} el, I s → I ((Env.setEntry envUri store el).run.runFrom s).2
  read : ∀ {s} input el, I s → I ((Stdin.read stdinUri input sink el).run.runFrom s).2
  assign : ∀ {s el}, Q el → el.action = "assign" → I s → I ((assignElement el).run.runFrom s).2

/-- What is part of a run, and preserves a property as far as the element is one of the kind and the
modules are built in. -/
def Host.Preserves (host : Host) (store : Store) (sink : PromptSink) (Q : Element → Prop)
    (I : HostState → Prop) (el : Element) (s t : HostState) : Prop :=
  Run host s t ∧ (Q el → s.AllBuiltIn store sink → I s → I t)

namespace Host.Invariant

variable (h : host.Invariant store sink Q I)
include h

/-- What a module does with an element is one of its actions, or nothing. -/
theorem react {uri : String} {mod : Module} (hmod : mod.BuiltIn store sink uri)
    (reenter : Reenter) (el : Option Element) (hI : I s) :
    I ((mod.react reenter uri el).runFrom s).2 := by
  cases el with
  | none => cases mod with
    | agent | env | stdin => exact hI
    | scripted => exact hmod.elim
  | some el => cases mod with
    | agent schemas =>
      obtain rfl : uri = agentUri := hmod
      rw [Module.react_agent, Agent.runFrom_react]
      split
      · exact h.writes (Agent.announce_writes agentUri el) hI
      · split
        · exact h.writes (Agent.noteTransition_writes agentUri el) hI
        · exact hI
    | env kept =>
      obtain ⟨rfl, rfl⟩ : uri = envUri ∧ kept = store := hmod
      rw [Module.react_env, Env.react]
      split
      · rw [runFrom_ofAction]
        exact h.getEntry el hI
      · split
        · rw [runFrom_ofAction]
          exact h.setEntry el hI
        · exact hI
    | stdin left kept =>
      obtain ⟨rfl, rfl⟩ : uri = stdinUri ∧ kept = sink := hmod
      rw [Module.react_stdin, Stdin.react]
      split
      · rw [runFrom_ofAction]
        exact h.read left el hI
      · exact hI
    | scripted => exact hmod.elim

theorem log (el : Element) (hI : I s) : I ((logElement el).run.runFrom s).2 := by
  rw [runFrom_logElement]
  cases logRequest el s.dataModel with
  | error e => exact hI
  | ok q => exact h.addLog q.1 q.2 hI

/-- What is preserved by what each element does is preserved by executions. -/
theorem admits (hreg : host.registry = .ofBuiltIn store input sink) :
    host.Admits (host.Preserves store sink Q I) where
  refl el s := ⟨.refl s, fun _ _ => id⟩
  trans h₁ h₂ := ⟨h₁.1.trans h₂.1,
    fun hel hs hI => h₂.2 hel (h₁.1.allBuiltIn hreg hs) (h₁.2 hel hs hI)⟩
  closed_eq hst := hst.1.closed_eq
  ofChild hc hst := ⟨hst.1, fun hel => hst.2 (h.ofParent hc hel)⟩
  module? hr uri el s := ⟨(Run.admits host).module? (fun el s => (hr el s).1) uri el s,
    fun _ _ => h.loading (module?_upToLoading hreg _ uri s)⟩
  ask := by
    intro reenter hr s uri l hopen hl given el
    refine ⟨(Run.admits host).ask (fun el s => (hr el s).1) hopen hl given el, fun _ hs hI => ?_⟩
    rw [runFrom_ask]
    exact h.react (hs uri l hl) reenter given (h.note rfl hI)
  assign el hassign s := ⟨assignElement_runs el s trivial, fun hel _ => h.assign hel hassign⟩
  log el s := ⟨logElement_runs el s trivial, fun _ _ => h.log el⟩

/-- Unloading built-in modules does nothing but unload them. -/
theorem unloadAll (reenter : Reenter) {entries : Entries Loaded}
    (hentries : ∀ entry ∈ entries, entry.2.mod.isScripted = false) (hI : I s) :
    I ((Host.unloadAll reenter entries).runFrom s).2 := by
  induction entries generalizing s with
  | nil => exact hI
  | cons entry rest ih =>
    obtain ⟨uri, serial, mod⟩ := entry
    have hplain := hentries _ List.mem_cons_self
    have hsame : ((mod.unload reenter).run.runFrom (s.note (.unloaded uri serial))).2 =
        s.note (.unloaded uri serial) := by
      cases mod with
      | agent | env => rfl
      | stdin left kept => exact congrArg Prod.snd (ActionM.runFrom_ofExcept _ _)
      | scripted => cases hplain
    have hrest := ih (fun entry h => hentries entry (List.mem_cons_of_mem _ h))
      (h.note (rfl : (Event.unloaded uri serial).isOutward = false) hI)
    simp only [Host.unloadAll, HostM.runFrom_bind, HostM.runFrom_note, HostM.runFrom_outcome, hsame]
    split <;> exact hrest

/-- An invariant of executions is preserved by the teardown. -/
theorem unload (hs : s.AllBuiltIn store sink) (hI : I s) :
    ((Host.unload host.onBehalf).run.runFrom s).2.AllBuiltIn store sink ∧
      I ((Host.unload host.onBehalf).run.runFrom s).2 := by
  cases hclosed : s.closed with
  | true =>
    rw [runFrom_unload_of_closed host.onBehalf hclosed]
    exact ⟨hs, hI⟩
  | false =>
    rw [runFrom_unload_of_open host.onBehalf hclosed]
    constructor
    · obtain ⟨-, hempty⟩ := unloadAll_emptied host s.modules.entries
        (s := { s with closed := true, modules := .empty }) rfl rfl
      intro uri l hl
      rw [hempty] at hl
      cases hl
    · refine h.unloadAll host.onBehalf ?_ (h.closing hI)
      intro entry hentry
      have hfind : s.modules.find? entry.1 = some entry.2 :=
        Entries.find?_of_mem s.modules.ascending hentry
      exact (hs _ _ hfind).isScripted_eq

end Host.Invariant

namespace Errand

/-- The element that an errand is about; an empty one if it is about none. -/
def element (host : Host) : Errand → Element
  | .run => host.document.root
  | .operation (.call c) => c.element
  | .operation .unload => default

variable (h : host.Invariant store sink Q I) (hreg : host.registry = .ofBuiltIn store input sink)
include h hreg

/-- An invariant of executions is preserved by every errand whose element is of the kind. -/
theorem perform_preserves {e : Errand} (he : Q (e.element host)) (hs : s.AllBuiltIn store sink)
    (hI : I s) : ((e.perform host).runFrom s).2.AllBuiltIn store sink ∧
      I ((e.perform host).runFrom s).2 := by
  have hleads : ∀ {x : HostM Unit}, x.Leads (host.Preserves store sink Q I (e.element host)) →
      (x.runFrom s).2.AllBuiltIn store sink ∧ I (x.runFrom s).2 :=
    fun hx => ⟨(hx s).1.allBuiltIn hreg hs, (hx s).2 he hs hI⟩
  cases e with
  | run => exact hleads (h.admits hreg).run
  | operation op =>
    cases op with
    | call c => exact hleads ((h.admits hreg).perform c)
    | unload => exact h.unload hs hI

/-- Whatever is asked of a host, what its modules preserve is preserved. -/
theorem performAll_preserves (errands : List Errand) (he : ∀ e ∈ errands, Q (e.element host))
    (hs : s.AllBuiltIn store sink) (hI : I s) :
    ((performAll host errands).runFrom s).2.AllBuiltIn store sink ∧
      I ((performAll host errands).runFrom s).2 := by
  induction errands generalizing s with
  | nil => exact ⟨hs, hI⟩
  | cons e rest ih =>
    obtain ⟨hfirst, hrest⟩ := List.forall_mem_cons.1 he
    obtain ⟨hs', hI'⟩ := perform_preserves h hreg hfirst hs hI
    exact ih hrest hs' hI'

end Errand

end MarkupActions
