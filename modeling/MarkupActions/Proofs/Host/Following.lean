import Mathlib.Data.List.Forall2
import MarkupActions.Proofs.Host.BuiltIn

/-!
# MarkupActions.Proofs.Host.Following

**Two executions side by side.** Two computations are compared from states that are related in some
way: they give related answers, and leave states that are related in the same way
(`HostM.Follows`). Where this is known of what a session does with single elements, it holds of
executing whole trees (`Host.Tracks.executeWith_follows`), since nothing but the answer to an element
decides what becomes of its children.

What is related to what is left open: states, elements and failures each come with a relation of
their own.
-/

namespace MarkupActions

variable {ε ε' δ δ' α β α' β' : Type}

/-! ### Results -/

/-- Two results that are both values or both failures, and related as such. -/
inductive Results (E : ε → ε' → Prop) (A : α → β → Prop) : Except ε α → Except ε' β → Prop where
  | ok {a : α} {b : β} (h : A a b) : Results E A (.ok a) (.ok b)
  | error {e : ε} {e' : ε'} (h : E e e') : Results E A (.error e) (.error e')

namespace Results

variable {E : ε → ε' → Prop} {A : α → β → Prop} {B : α' → β' → Prop} {x : Except ε α}
  {y : Except ε' β}

theorem refl {E : ε → ε → Prop} (hE : ∀ e, E e e) (x : Except ε α) : Results E (· = ·) x x := by
  cases x with
  | ok a => exact .ok rfl
  | error e => exact .error (hE e)

/-- Related results go on to related results. -/
theorem bind {f : α → Except ε α'} {g : β → Except ε' β'} (h : Results E A x y)
    (hf : ∀ a b, A a b → Results E B (f a) (g b)) : Results E B (x >>= f) (y >>= g) := by
  cases h with
  | ok h => exact hf _ _ h
  | error h => exact .error h

theorem map {f : α → α'} {g : β → β'} (h : Results E A x y)
    (hf : ∀ a b, A a b → B (f a) (g b)) : Results E B (x.map f) (y.map g) := by
  cases h with
  | ok h => exact .ok (hf _ _ h)
  | error h => exact .error h

theorem imp {C : α → β → Prop} (h : Results E A x y) (hC : ∀ a b, A a b → C a b) :
    Results E C x y := by
  cases h with
  | ok h => exact .ok (hC _ _ h)
  | error h => exact .error h

/-- Failures may be reworded on both sides. -/
theorem mapError {F : δ → δ' → Prop} {f : ε → δ} {g : ε' → δ'} (h : Results E A x y)
    (hf : ∀ e e', E e e' → F (f e) (g e')) : Results F A (x.mapError f) (y.mapError g) := by
  cases h with
  | ok h => exact .ok h
  | error h => exact .error (hf _ _ h)

/-- Results that are related by equality are equal. -/
theorem eq_of_eq {x y : Except ε α} (h : Results (· = ·) (· = ·) x y) : x = y := by
  cases h with
  | ok h => exact congrArg _ h
  | error h => exact congrArg _ h

end Results

/-! ### Computations -/

/-- From related states the computations give related answers and leave related states. -/
def HostM.Follows (R : HostState → HostState → Prop) (A : α → β → Prop) (x : HostM α)
    (y : HostM β) : Prop :=
  ∀ s t, R s t → A (x.runFrom s).1 (y.runFrom t).1 ∧ R (x.runFrom s).2 (y.runFrom t).2

namespace HostM.Follows

variable {R : HostState → HostState → Prop} {A : α → β → Prop} {B : α' → β' → Prop}
  {E : ε → ε' → Prop}

theorem pure {a : α} {b : β} (h : A a b) : (Pure.pure a : HostM α).Follows R A (Pure.pure b) := by
  intro s t hst
  exact ⟨h, hst⟩

/-- Computations that follow each other may be continued by computations that do. -/
theorem bind {x : HostM α} {y : HostM β} {f : α → HostM α'} {g : β → HostM β'}
    (hx : x.Follows R A y) (hf : ∀ a b, A a b → (f a).Follows R B (g b)) :
    (x >>= f).Follows R B (y >>= g) := by
  intro s t hst
  obtain ⟨hanswer, hleft⟩ := hx s t hst
  exact hf _ _ hanswer _ _ hleft

/-- A failure ends both. -/
theorem bindExcept {x : ExceptT ε HostM α} {y : ExceptT ε' HostM β} {f : α → ExceptT ε HostM α'}
    {g : β → ExceptT ε' HostM β'} (hx : x.run.Follows R (Results E A) y.run)
    (hf : ∀ a b, A a b → (f a).run.Follows R (Results E B) (g b).run) :
    (x >>= f).run.Follows R (Results E B) (y >>= g).run := by
  intro s t hst
  obtain ⟨hanswer, hleft⟩ := hx s t hst
  rw [runFrom_run_bind, runFrom_run_bind]
  rcases hs : x.run.runFrom s with ⟨a, s'⟩
  rcases ht : y.run.runFrom t with ⟨b, t'⟩
  rw [hs, ht] at hanswer hleft
  cases hanswer with
  | ok h => exact hf _ _ h s' t' hleft
  | error h => exact ⟨.error h, hleft⟩

/-- Failures may be reworded on both sides of two computations. -/
theorem adapt {F : δ → δ' → Prop} {x : ExceptT ε HostM α} {y : ExceptT ε' HostM β} {f : ε → δ}
    {g : ε' → δ'} (hx : x.run.Follows R (Results E A) y.run)
    (hf : ∀ e e', E e e' → F (f e) (g e')) :
    (x.adapt f).run.Follows R (Results F A) (y.adapt g).run := by
  intro s t hst
  obtain ⟨hanswer, hleft⟩ := hx s t hst
  rw [runFrom_run_adapt, runFrom_run_adapt]
  exact ⟨hanswer.mapError hf, hleft⟩

end HostM.Follows

/-! ### Executing elements -/

section

variable {R : HostState → HostState → Prop} {L : Element → Element → Prop}
  {E : ActionError → ActionError → Prop}

/-- Two answers to elements that come to the same. Neither is a failure to answer. -/
inductive Reaction.Related (L : Element → Element → Prop) (E : ActionError → ActionError → Prop) :
    Reaction → Reaction → Prop where
  | declined : Related L E .declined .declined
  | handled {result result' : Except ActionError Unit} (h : Results E (· = ·) result result') :
      Related L E (.handled result) (.handled result')
  | children {wrap wrap' : Element → ActionError → ActionError}
      (h : ∀ c c' e e', L c c' → E e e' → E (wrap c e) (wrap' c' e')) :
      Related L E (.children wrap) (.children wrap')

/-- An answer other than a failure to give one is related to itself, as far as failures of related
children are passed on as related ones. -/
theorem Reaction.Related.of_ne_failed {L : Element → Element → Prop}
    {E : ActionError → ActionError → Prop} (hE : ∀ e, E e e)
    (hwrap : ∀ (wrap : Element → ActionError → ActionError) (c c' : Element) (e e' : ActionError),
      L c c' → E e e' → E (wrap c e) (wrap c' e'))
    {r : Reaction} (hnot : ∀ e, r ≠ .failed e) : Related L E r r := by
  cases r with
  | declined => exact .declined
  | handled result => exact .handled (.refl hE result)
  | children wrap => exact .children (hwrap wrap)
  | failed e => exact absurd rfl (hnot e)

namespace Host

/-- Whatever is done with one of two related elements in one host is done with the other in the
other: their sessions react alike, and so does default processing. -/
structure Tracks (host host' : Host) (reenter reenter' : Reenter)
    (R : HostState → HostState → Prop) (L : Element → Element → Prop)
    (E : ActionError → ActionError → Prop) : Prop where
  children : ∀ {el el'}, L el el' → List.Forall₂ L el.children el'.children
  assigns : ∀ {el el'}, L el el' → (el.action = "assign" ↔ el'.action = "assign")
  logs : ∀ {el el'}, L el el' → (el.action = "log" ↔ el'.action = "log")
  transitions : ∀ {el el'}, L el el' → (el.action = "transition" ↔ el'.action = "transition")
  reaction : ∀ {el el'}, L el el' → (host.reaction reenter el).run.Follows R
    (Results (fun _ _ => False) (Reaction.Related L E)) (host'.reaction reenter' el').run
  assign : ∀ {el el'}, L el el' →
    (assignElement el).run.Follows R (Results E (· = ·)) (assignElement el').run
  log : ∀ {el el'}, L el el' →
    (logElement el).run.Follows R (Results E (· = ·)) (logElement el').run

namespace Tracks

variable {host host' : Host} {reenter reenter' : Reenter}

/-- What no module takes is left to default processing in both hosts. -/
theorem byDefault_follows (h : Tracks host host' reenter reenter' R L E) {el el' : Element}
    (hel : L el el')
    (hchildren : (host.executeEach reenter passOn el.children).run.Follows R (Results E (· = ·))
      (host'.executeEach reenter' passOn el'.children).run) :
    (host.byDefault reenter el).run.Follows R (Results E (· = ·))
      (host'.byDefault reenter' el').run := by
  unfold byDefault
  by_cases hassign : el.action = "assign"
  · rw [if_pos hassign, if_pos ((h.assigns hel).1 hassign)]
    exact h.assign hel
  · rw [if_neg hassign, if_neg (mt (h.assigns hel).2 hassign)]
    by_cases hlog : el.action = "log"
    · rw [if_pos hlog, if_pos ((h.logs hel).1 hlog)]
      exact h.log hel
    · rw [if_neg hlog, if_neg (mt (h.logs hel).2 hlog)]
      by_cases htransition : el.action = "transition"
      · rw [if_pos htransition, if_pos ((h.transitions hel).1 htransition)]
        exact .pure (.ok rfl)
      · rw [if_neg htransition, if_neg (mt (h.transitions hel).2 htransition)]
        exact hchildren

mutual

/-- Related elements are executed alike. -/
theorem executeWith_follows (h : Tracks host host' reenter reenter' R L E) :
    ∀ el el' : Element, L el el' →
      (host.executeWith reenter el).run.Follows R (Results E (· = ·))
        (host'.executeWith reenter' el').run
  | ⟨tag, ns, attributes, children⟩, el', hel => by
      have hchildren := h.children hel
      have hdefault := h.byDefault_follows hel (executeEach_follows h passOn passOn
        (fun _ _ _ _ _ he => he) children el'.children hchildren)
      intro s t hst
      obtain ⟨hanswer, hleft⟩ := h.reaction hel s t hst
      rw [runFrom_executeWith, runFrom_executeWith]
      rcases hs : (host.reaction reenter ⟨tag, ns, attributes, children⟩).run.runFrom s with ⟨a, s'⟩
      rcases ht : (host'.reaction reenter' el').run.runFrom t with ⟨b, t'⟩
      rw [hs, ht] at hanswer hleft
      cases hanswer with
      | error h => exact h.elim
      | ok h =>
        cases h with
        | declined => exact hdefault s' t' hleft
        | handled hresult => exact ⟨hresult, hleft⟩
        | children hwrap =>
          exact executeEach_follows h _ _ hwrap children el'.children hchildren s' t' hleft

/-- Related lists of elements are executed alike, by induction along the lists. -/
theorem executeEach_follows (h : Tracks host host' reenter reenter' R L E)
    (wrap wrap' : Element → ActionError → ActionError)
    (hwrap : ∀ c c' e e', L c c' → E e e' → E (wrap c e) (wrap' c' e')) :
    ∀ els els' : List Element, List.Forall₂ L els els' →
      (host.executeEach reenter wrap els).run.Follows R (Results E (· = ·))
        (host'.executeEach reenter' wrap' els').run
  | [], els', hels => by
      cases hels
      rw [executeEach, executeEach]
      exact .pure (.ok rfl)
  | c :: rest, els', hels => by
      obtain ⟨c', rest', hc, hrest, rfl⟩ := List.forall₂_cons_left_iff.1 hels
      rw [executeEach, executeEach]
      exact ((executeWith_follows h c c' hc).adapt fun e e' => hwrap c c' e e' hc).bindExcept
        fun _ _ _ => executeEach_follows h wrap wrap' hwrap rest rest' hrest

end

end Tracks

end Host

end

/-! ### Sessions of built-in modules -/

/-- An open session of built-in modules. -/
structure HostState.Plain (store : Store) (sink : PromptSink) (s : HostState) : Prop where
  isOpen : s.closed = false
  builtIn : s.AllBuiltIn store sink

/-- Two such sessions that are related in some way. -/
structure HostState.PlainPair (store : Store) (sink : PromptSink)
    (Q : HostState → HostState → Prop) (s t : HostState) : Prop where
  left : s.Plain store sink
  right : t.Plain store sink
  related : Q s t

section

variable {host host' : Host} {store : Store} {input : InputStream} {sink : PromptSink}
  {s t : HostState}

/-- A run keeps a state plain. -/
theorem HostState.Plain.of_run (hreg : host.registry = .ofBuiltIn store input sink)
    (hs : s.Plain store sink) (h : Run host s t) : t.Plain store sink :=
  ⟨h.closed_eq.trans hs.isOpen, h.allBuiltIn hreg hs.builtIn⟩

/-- Runs stay inside such sessions, so that only the relation between two of them is to be shown. -/
theorem HostM.Follows.of_runs (hreg : host.registry = .ofBuiltIn store input sink)
    (hreg' : host'.registry = .ofBuiltIn store input sink)
    {Q : HostState → HostState → Prop} {A : α → β → Prop} {x : HostM α} {y : HostM β}
    (hx : x.Runs host fun _ => True) (hy : y.Runs host' fun _ => True)
    (h : ∀ s t, s.PlainPair store sink Q t →
      A (x.runFrom s).1 (y.runFrom t).1 ∧ Q (x.runFrom s).2 (y.runFrom t).2) :
    x.Follows (HostState.PlainPair store sink Q) A y := by
  intro s t hst
  obtain ⟨hanswer, hleft⟩ := h s t hst
  exact ⟨hanswer, hst.left.of_run hreg (hx s trivial), hst.right.of_run hreg' (hy t trivial), hleft⟩

end

end MarkupActions
