import MarkupActions.Proofs.Host.Dispatch

/-!
# MarkupActions.Proofs.Host.Traversal

**Going through a host once.** Whatever a host does with elements is put together from a few things:
it gets modules, asks them, assigns and logs. A relation between states that all of these respect is
respected by whatever is put together from them (`Host.Admits`): executing an element of any shape,
and every call from outside. What executions leave alone, and what they can lead to, is shown in this
way without another look at the program. The relation may depend on the element that is executed, as
long as what goes for a child goes for its parent.
-/

namespace MarkupActions

variable {α β ε : Type}

/-- From every state the computation leads to one that is related to it. -/
def HostM.Leads (R : HostState → HostState → Prop) (x : HostM α) : Prop :=
  ∀ s, R s (x.runFrom s).2

/-- A relation, for each element that may be executed, that everything of which executions are put
together respects, as far as modules that execute elements in turn do so by what respects it. -/
structure Host.Admits (host : Host) (R : Element → HostState → HostState → Prop) : Prop where
  refl : ∀ el s, R el s s
  trans : ∀ {el s t u}, R el s t → R el t u → R el s u
  closed_eq : ∀ {el s t}, R el s t → t.closed = s.closed
  ofChild : ∀ {el c s t}, c ∈ el.children → R c s t → R el s t
  module? : ∀ {reenter : Reenter}, (∀ el, (reenter el).run.Leads (R el)) →
    ∀ uri el, (host.module? reenter uri).run.Leads (R el)
  /-- A module is asked while it is loaded. -/
  ask : ∀ {reenter : Reenter}, (∀ el, (reenter el).run.Leads (R el)) → ∀ {s uri l},
    s.closed = false → s.modules.find? uri = some l →
    ∀ given el, R el s ((Host.ask reenter uri l given).runFrom s).2
  assign : ∀ el, el.action = "assign" → (assignElement el).run.Leads (R el)
  log : ∀ el, (logElement el).run.Leads (R el)

namespace Host.Admits

variable {host : Host} {reenter : Reenter} {uri : String} {s t : HostState}
  {R : Element → HostState → HostState → Prop} (h : host.Admits R)

section

variable {e : Element}
include h

theorem pure (a : α) : (Pure.pure a : HostM α).Leads (R e) := fun s => h.refl e s

theorem bind {x : HostM α} {f : α → HostM β} (hx : x.Leads (R e)) (hf : ∀ a, (f a).Leads (R e)) :
    (x >>= f).Leads (R e) := fun s => h.trans (hx s) (hf _ _)

/-- A failure ends the computation. -/
theorem bindExcept {x : ExceptT ε HostM α} {f : α → ExceptT ε HostM β} (hx : x.run.Leads (R e))
    (hf : ∀ a, (f a).run.Leads (R e)) : (x >>= f).run.Leads (R e) := by
  change (x.run >>= ExceptT.bindCont f).Leads (R e)
  refine h.bind hx ?_
  intro answer
  cases answer with
  | ok a => exact hf a
  | error e => exact h.pure _

theorem ofExcept (x : Except ActionError α) : (ActionM.ofExcept x).run.Leads (R e) := by
  cases x <;> exact h.pure _

end

/-! ### Asking modules -/

section

variable (hr : ∀ el, (reenter el).run.Leads (R el))
include h hr

/-- A module that the session gives is loaded where it is given. -/
theorem find?_of_module? {l : Loaded}
    (hmodule : (host.module? reenter uri).run.runFrom s = (.ok (some l), t)) :
    t.closed = false ∧ t.modules.find? uri = some l := by
  have hclosed : s.closed = false := by
    cases hclosed : s.closed with
    | false => rfl
    | true =>
      rw [module?_of_closed hclosed] at hmodule
      cases hmodule
  have hopen : t.closed = false := by
    have hleads := h.module? hr uri default s
    rw [hmodule] at hleads
    exact (h.closed_eq hleads).trans hclosed
  refine ⟨hopen, ?_⟩
  cases hfind : s.modules.find? uri with
  | some first =>
    rw [module?_of_find? hclosed hfind] at hmodule
    cases hmodule
    exact hfind
  | none =>
    cases hreg : host.registry.get? uri with
    | none =>
      rw [module?_of_get?_none hclosed hfind hreg] at hmodule
      cases hmodule
    | some v =>
      rw [module?_of_get? hclosed hfind hreg] at hmodule
      split at hmodule
      · cases hmodule
        exact HostState.find?_receive_self
      · cases hmodule

/-- Asking the module of a namespace respects the relation, with the loading that it may take. -/
theorem route (el : Element) : (host.route reenter uri el).run.Leads (R el) := by
  intro s
  have hload := h.module? hr uri el s
  rw [Host.route, HostM.runFrom_run_bind]
  rcases hmodule : (host.module? reenter uri).run.runFrom s with ⟨e | _ | l, t⟩
  · rw [hmodule] at hload
    exact hload
  · rw [hmodule] at hload
    exact hload
  · rw [hmodule] at hload
    obtain ⟨hopen, hfind⟩ := h.find?_of_module? hr hmodule
    have hask := h.ask hr hopen hfind (some el) el
    simp only [HostM.runFrom_run_bind, HostM.runFrom_run_liftM]
    split <;> exact h.trans hload hask

/-- Asking modules in turn respects the relation, by induction along the list. -/
theorem offerTo (hopen : s.closed = false) (el : Element) (uris : List String) :
    R el s ((Host.offerTo reenter el uris).run.runFrom s).2 := by
  induction uris generalizing s with
  | nil => exact h.refl el s
  | cons uri rest ih =>
    simp only [Host.offerTo, HostM.runFrom_run_bind, HostM.runFrom_run_getThe]
    cases hfind : s.modules.find? uri with
    | none => exact ih hopen
    | some l =>
      have hask := h.ask hr hopen hfind (some el) el
      simp only [HostM.runFrom_run_bind, HostM.runFrom_run_liftM]
      split
      · exact hask
      · exact h.trans hask (ih ((h.closed_eq hask).trans hopen))
      · exact hask

theorem offerAround (el : Element) : (Host.offerAround reenter el).run.Leads (R el) := by
  intro s
  cases hclosed : s.closed with
  | true =>
    rw [runFrom_offerAround_of_closed hclosed]
    exact h.refl el s
  | false =>
    rw [runFrom_offerAround hclosed]
    exact h.offerTo hr hclosed el (accepting s)

/-- Finding out what the session makes of an element respects the relation. -/
theorem reaction (el : Element) : (host.reaction reenter el).run.Leads (R el) := by
  unfold Host.reaction
  split
  · exact h.route hr el
  · exact h.offerAround hr el

end

/-! ### Executing elements -/

mutual

/-- Executing an element respects the relation, by induction over the tree. -/
theorem executeWith (h : host.Admits R) (hr : ∀ el, (reenter el).run.Leads (R el)) :
    ∀ el : Element, (host.executeWith reenter el).run.Leads (R el)
  | ⟨tag, ns, attributes, children⟩ => by
      rw [Host.executeWith]
      have hreact : (liftM (host.reaction reenter ⟨tag, ns, attributes, children⟩).run :
          ActionM (Except HostError Reaction)).run.Leads (R ⟨tag, ns, attributes, children⟩) :=
        h.reaction hr _
      refine h.bindExcept hreact ?_
      intro answer
      cases answer with
      | error e => exact h.pure _
      | ok reaction => cases reaction with
        | declined =>
          dsimp only
          split
          · next hassign => exact h.assign _ hassign
          · split
            · exact h.log _
            · split
              · exact h.pure _
              · exact executeEach h hr passOn _ children fun _ => id
        | handled result => exact h.ofExcept result
        | children wrap => exact executeEach h hr wrap _ children fun _ => id
        | failed e => exact h.pure _

/-- Executing children of an element does what may be done for that element. -/
theorem executeEach (h : host.Admits R) (hr : ∀ el, (reenter el).run.Leads (R el))
    (wrap : Element → ActionError → ActionError) (parent : Element) :
    ∀ els : List Element, (∀ c ∈ els, c ∈ parent.children) →
      (host.executeEach reenter wrap els).run.Leads (R parent)
  | [], _ => by rw [Host.executeEach]; exact h.pure _
  | c :: rest, hels => by
      obtain ⟨hc, hrest⟩ := List.forall_mem_cons.1 hels
      rw [Host.executeEach]
      have hfirst : ((host.executeWith reenter c).adapt (wrap c)).run.Leads (R parent) :=
        fun s => h.ofChild hc (executeWith h hr c s)
      exact h.bindExcept hfirst fun _ => executeEach h hr wrap parent rest hrest

end

include h

/-- Executing an element on behalf of a module respects the relation, by induction on how deep that
may be nested. -/
theorem executeAt (depth : Nat) (el : Element) : (host.executeAt depth el).run.Leads (R el) := by
  induction depth generalizing el with
  | zero => exact h.pure _
  | succ depth ih => exact h.executeWith ih el

theorem onBehalf (el : Element) : (host.onBehalf el).run.Leads (R el) :=
  h.executeAt host.nesting el

theorem execute (el : Element) : (host.execute el).run.Leads (R el) := h.executeWith h.onBehalf el

/-! ### The steps of a run -/

/-- Loading some namespaces respects the relation, by induction along the list. -/
theorem loadAll (e : Element) (uris : List String) : (host.loadAll host.onBehalf uris).run.Leads (R e) := by
  induction uris with
  | nil => exact h.pure _
  | cons uri rest ih => exact h.bindExcept (h.module? h.onBehalf uri e) fun _ => ih

theorem preload (e : Element) : (host.preload host.onBehalf).run.Leads (R e) :=
  h.loadAll e host.usedUris

theorem run : host.run.run.Leads (R host.document.root) := by
  have hexecute : ((host.execute host.document.root).adapt HostError.action).run.Leads
      (R host.document.root) := h.execute host.document.root
  exact h.bindExcept (h.preload _) fun _ => hexecute

theorem settle (el : Element) (r : Reaction) : (host.settle el r).run.Leads (R el) := by
  cases r with
  | declined | handled | failed => exact h.pure _
  | children wrap =>
    have hchildren : (liftM (host.executeEach host.onBehalf wrap el.children).outcome :
        SessionM (Except ActionError Unit)).run.Leads (R el) :=
      h.executeEach h.onBehalf wrap el el.children fun _ => id
    exact h.bindExcept hchildren fun _ => h.pure _

theorem dispatch (el : Element) : (host.dispatch el).run.Leads (R el) := by
  unfold Host.dispatch
  split
  · exact h.pure _
  · exact h.bindExcept (h.route h.onBehalf el) fun _ => h.settle el _

theorem offer (el : Element) : (host.offer el).run.Leads (R el) :=
  h.bindExcept (h.offerAround h.onBehalf el) fun _ => h.settle el _

theorem handle (uri : String) (el : Option Element) :
    (host.handle uri el).run.Leads (R (el.getD default)) := by
  intro s
  have hload := h.module? h.onBehalf uri (el.getD default) s
  rw [Host.handle, HostM.runFrom_run_bind]
  rcases hmodule : (host.module? host.onBehalf uri).run.runFrom s with ⟨e | _ | l, t⟩
  · rw [hmodule] at hload
    exact hload
  · rw [hmodule] at hload
    exact hload
  · rw [hmodule] at hload
    obtain ⟨hopen, hfind⟩ := h.find?_of_module? h.onBehalf hmodule
    have hask := h.trans hload (h.ask h.onBehalf hopen hfind el _)
    simp only [HostM.runFrom_run_bind, HostM.runFrom_run_liftM]
    generalize (Host.ask host.onBehalf uri l el).runFrom t = r at hask ⊢
    obtain ⟨answer, u⟩ := r
    refine h.trans hask ?_
    cases answer with
    | failed e => exact h.refl _ u
    | declined | handled | children =>
      exact h.bindExcept (h.settle (el.getD default) _) (fun _ => h.pure _) u

end Host.Admits

/-! ### Calls -/

/-- What can be asked of a session, or of the host around it, any number of times. -/
inductive Call where
  /-- The module of a namespace. -/
  | module (uri : String)
  /-- The modules of all namespaces that the document uses. -/
  | preload
  /-- Giving an element to the module of its namespace. -/
  | dispatch (el : Element)
  /-- Offering an element to the modules that accept elements outside any namespace. -/
  | offer (el : Element)
  /-- Giving an element, or the absence of one, to the module of some namespace. -/
  | handle (uri : String) (el : Option Element)
  /-- Executing an element. -/
  | execute (el : Element)

namespace Call

/-- The element that is given with a call; an empty one if none is. -/
def element : Call → Element
  | .module _ | .preload => default
  | .dispatch el | .offer el | .execute el => el
  | .handle _ el => el.getD default

/-- Do what is asked. What comes of it is seen in the state. -/
def perform (host : Host) : Call → HostM Unit
  | .module uri => do let _ ← (host.module? host.onBehalf uri).run
  | .preload => do let _ ← (host.preload host.onBehalf).run
  | .dispatch el => do let _ ← (host.dispatch el).run
  | .offer el => do let _ ← (host.offer el).run
  | .handle uri el => do let _ ← (host.handle uri el).run
  | .execute el => do let _ ← (host.execute el).run

/-- Do one thing after the other. -/
def performAll (host : Host) : List Call → HostM Unit
  | [] => pure ()
  | c :: rest => do
      c.perform host
      performAll host rest

end Call

namespace Host.Admits

variable {host : Host}

/-- Every call to a host respects the relation. -/
theorem perform {R : Element → HostState → HostState → Prop} (h : host.Admits R) (c : Call) :
    (c.perform host).Leads (R c.element) := by
  cases c with
  | module uri => exact h.module? h.onBehalf uri _
  | preload => exact h.preload _
  | dispatch el => exact h.dispatch el
  | offer el => exact h.offer el
  | handle uri el => exact h.handle uri el
  | execute el => exact h.execute el

/-- Any sequence of calls leads to a related state, if the relation is the same for all elements. -/
theorem performAll {R : HostState → HostState → Prop} (h : host.Admits fun _ => R)
    (calls : List Call) : (Call.performAll host calls).Leads R := by
  induction calls with
  | nil => exact h.pure (e := default) ()
  | cons c rest ih => exact h.bind (e := default) (h.perform c) fun _ => ih

end Host.Admits

end MarkupActions
