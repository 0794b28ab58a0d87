import MarkupActions.Proofs.Host.Following

/-!
# MarkupActions.Proofs.Host.Twins

**Two ways of being outside any namespace.** An element that has no namespace is outside any, and so
is one for which the default namespace has been reset; a reader of documents gives the latter the
empty namespace. Two trees that differ in nothing else are twins (`Element.Twins`).

All that modules and default processing look at is the same for twins. What they differ in decides
where they go, and no more. So executing twins comes to the same as far as the session's answers come
to the same (`Host.Equates.executeWith_twins`): an element that `agent` announces and one that is left
to default processing differ in what is said about it, but both have their children executed.
-/

namespace MarkupActions

/-- Two trees that are the same but for elements outside any namespace: where one has no namespace,
the other may have the empty one. Elements in which the two differ are of some kind. -/
inductive Element.Twins (Kind : Element → Prop) : Element → Element → Prop where
  | of {tag : String} {ns ns' : Option String} {attributes : List (String × String)}
      {children children' : List Element} (place : ns.getD "" = ns'.getD "")
      (kind : ns ≠ ns' → Kind ⟨tag, ns, attributes, children⟩ ∧
        Kind ⟨tag, ns', attributes, children'⟩)
      (below : List.Forall₂ (Twins Kind) children children') :
      Twins Kind ⟨tag, ns, attributes, children⟩ ⟨tag, ns', attributes, children'⟩

variable {Kind : Element → Prop}

mutual

theorem Element.Twins.refl : ∀ el : Element, el.Twins Kind el
  | ⟨_, _, _, children⟩ => .of rfl (fun h => absurd rfl h) (reflAll children)

theorem Element.Twins.reflAll : ∀ els : List Element, List.Forall₂ (Twins Kind) els els
  | [] => .nil
  | c :: rest => .cons (refl c) (reflAll rest)

end

/-! ### What is the same for twins -/

section

variable {el el' : Element} (h : el.Twins Kind el')
include h

namespace Element.Twins

theorem tag_eq : el.tag = el'.tag := by
  cases h
  rfl

theorem attributes_eq : el.attributes = el'.attributes := by
  cases h
  rfl

theorem children : List.Forall₂ (Twins Kind) el.children el'.children := by
  cases h with
  | of _ _ below => exact below

/-- Without a namespace or with the empty one, failures name the same place. -/
theorem place_eq : el.namespaceUri.getD "" = el'.namespaceUri.getD "" := by
  cases h with
  | of place => exact place

/-- Elements in which twins differ are of the kind. -/
theorem kind (hne : el.namespaceUri ≠ el'.namespaceUri) : Kind el ∧ Kind el' := by
  cases h with
  | of _ kind => exact kind hne

theorem localName_eq : el.localName = el'.localName := by
  rw [localName, localName, h.tag_eq]

/-- Twins are met under the same names. -/
theorem action_eq : el.action = el'.action := by
  rw [action, action, h.localName_eq]

theorem attributeD_eq (name : String) : el.attributeD name = el'.attributeD name := by
  rw [attributeD, attributeD, attribute?, attribute?, h.attributes_eq]

/-- A namespace that has a name is the same for both. -/
theorem namespaceUri_iff {uri : String} (hne : uri ≠ "") :
    el.namespaceUri = some uri ↔ el'.namespaceUri = some uri := by
  have hplace := h.place_eq
  cases hns : el.namespaceUri with
  | none =>
    cases hns' : el'.namespaceUri with
    | none => exact Iff.rfl
    | some uri' =>
      simp only [hns, hns', Option.getD_none, Option.getD_some] at hplace
      simp [← hplace, hne.symm]
  | some uri' =>
    cases hns' : el'.namespaceUri with
    | none =>
      simp only [hns, hns', Option.getD_none, Option.getD_some] at hplace
      simp [hplace, hne.symm]
    | some uri'' =>
      simp only [hns, hns', Option.getD_some] at hplace
      rw [hplace]

end Element.Twins

/-- Default processing does the same for twins. -/
theorem assignElement_twins : assignElement el = assignElement el' := by
  cases h
  rfl

theorem logElement_twins : logElement el = logElement el' := by
  cases h
  rfl

/-- Modules of the store do the same for twins. -/
theorem Env.react_twins (uri : String) (store : Store) :
    react uri store (some el) = react uri store (some el') := by
  cases h
  rfl

theorem Stdin.react_twins (uri : String) (input : InputStream) (sink : PromptSink) :
    react uri input sink (some el) = react uri input sink (some el') := by
  cases h
  rfl

end

/-! ### What `agent` does with twins -/

namespace Agent

mutual

/-- The same schemas are noted. -/
theorem scan_twins (uri : String) : ∀ {el el' : Element}, el.Twins Kind el' →
    scan uri el = scan uri el'
  | ⟨tag, ns, attributes, children⟩, el', h => by
      cases h with
      | @of _ _ ns' _ _ children' _ _ below =>
        have hown : scanOne uri ⟨tag, ns, attributes, children⟩ =
            scanOne uri ⟨tag, ns', attributes, children'⟩ := rfl
        rw [scan, scan, hown, scanAll_twins uri below]

theorem scanAll_twins (uri : String) : ∀ {els els' : List Element},
    List.Forall₂ (Element.Twins Kind) els els' → scanAll uri els = scanAll uri els'
  | [], els', h => by
      cases h
      rfl
  | c :: rest, els', h => by
      obtain ⟨c', rest', hc, hrest, rfl⟩ := List.forall₂_cons_left_iff.1 h
      rw [scanAll, scanAll, scan_twins uri hc, scanAll_twins uri hrest]

end

section

variable {el el' : Element} (h : el.Twins Kind el')
include h

/-- Twins that are document roots are announced in the same words. -/
theorem announce_twins (uri : String) : announce uri el = announce uri el' := by
  simp only [announce, Element.aliases, h.attributeD_eq, h.attributes_eq, scan_twins uri h]

theorem noteTransition_twins (uri : String) : noteTransition uri el = noteTransition uri el' := by
  simp only [noteTransition, h.attributeD_eq]

/-- The failure of a child reads the same, whichever twin is named. -/
theorem childFailure_twins {c c' : Element} (hc : c.Twins Kind c') (e : ActionError) :
    childFailure el c e = childFailure el' c' e := by
  rw [childFailure, childFailure, hc.tag_eq, h.attributeD_eq]

end

end Agent

/-! ### Answers that come to the same -/

/-- Two answers to an element, and to its twin, that come to the same in the end. An element of the
name `agent` has its children executed whether `agent` asks for it or nobody does. -/
inductive Reaction.Meets (Kind : Element → Prop) (E : ActionError → ActionError → Prop)
    (el : Element) : Reaction → Reaction → Prop where
  | related {r r' : Reaction} (h : Related (Element.Twins Kind) E r r') : Meets Kind E el r r'
  | announcedFirst {wrap : Element → ActionError → ActionError} (hagent : el.action = "agent")
      (h : ∀ c e e', E e e' → E (wrap c e) e') : Meets Kind E el (.children wrap) .declined
  | announcedSecond {wrap : Element → ActionError → ActionError} (hagent : el.action = "agent")
      (h : ∀ c e e', E e e' → E e (wrap c e')) : Meets Kind E el .declined (.children wrap)

namespace Host

variable {host : Host} {reenter : Reenter} {R : HostState → HostState → Prop}
  {E : ActionError → ActionError → Prop} {F : HostError → HostError → Prop}

theorem byDefault_of_agent {el : Element} (h : el.action = "agent") :
    host.byDefault reenter el = host.executeEach reenter passOn el.children := by
  simp [byDefault, h]

/-- From related states the session gives twins answers that come to the same, and default processing
does the same. -/
structure Equates (host : Host) (reenter : Reenter) (Kind : Element → Prop)
    (R : HostState → HostState → Prop) (E : ActionError → ActionError → Prop)
    (F : HostError → HostError → Prop) : Prop where
  reaction : ∀ {el el'}, el.Twins Kind el' → (host.reaction reenter el).run.Follows R
    (Results F (Reaction.Meets Kind E el)) (host.reaction reenter el').run
  raised : ∀ {e e'}, F e e' → ∀ tag name uri, E (e.forElement tag name uri) (e'.forElement tag name uri)
  assign : ∀ el, (assignElement el).run.Follows R (Results E (· = ·)) (assignElement el).run
  log : ∀ el, (logElement el).run.Follows R (Results E (· = ·)) (logElement el).run

namespace Equates

/-- What no module takes is left to default processing, which does the same with twins. -/
theorem byDefault_twins (h : Equates host reenter Kind R E F) {el el' : Element}
    (hel : el.Twins Kind el')
    (hchildren : (host.executeEach reenter passOn el.children).run.Follows R (Results E (· = ·))
      (host.executeEach reenter passOn el'.children).run) :
    (host.byDefault reenter el).run.Follows R (Results E (· = ·))
      (host.byDefault reenter el').run := by
  unfold byDefault
  rw [← hel.action_eq, ← assignElement_twins hel, ← logElement_twins hel]
  split
  · exact h.assign el
  · split
    · exact h.log el
    · split
      · exact .pure (.ok rfl)
      · exact hchildren

mutual

/-- Twins are executed alike. -/
theorem executeWith_twins (h : Equates host reenter Kind R E F) :
    ∀ el el' : Element, el.Twins Kind el' →
      (host.executeWith reenter el).run.Follows R (Results E (· = ·))
        (host.executeWith reenter el').run
  | ⟨tag, ns, attributes, children⟩, el', hel => by
      have hchildren : List.Forall₂ (Element.Twins Kind) children el'.children := hel.children
      have hdefault := h.byDefault_twins hel (executeEach_twins h passOn passOn
        (fun _ _ _ _ _ he => he) children el'.children hchildren)
      intro s t hst
      obtain ⟨hanswer, hleft⟩ := h.reaction hel s t hst
      rw [runFrom_executeWith, runFrom_executeWith]
      rcases hs : (host.reaction reenter ⟨tag, ns, attributes, children⟩).run.runFrom s with ⟨a, s'⟩
      rcases ht : (host.reaction reenter el').run.runFrom t with ⟨b, t'⟩
      rw [hs, ht] at hanswer hleft
      cases hanswer with
      | error he =>
        dsimp only
        rw [← hel.tag_eq, ← hel.localName_eq, ← hel.place_eq]
        exact ⟨.error (h.raised he ..), hleft⟩
      | ok hmeets =>
        cases hmeets with
        | related hrelated =>
          cases hrelated with
          | declined => exact hdefault s' t' hleft
          | handled hresult => exact ⟨hresult, hleft⟩
          | children hwrap =>
            exact executeEach_twins h _ _ hwrap children el'.children hchildren s' t' hleft
        | announcedFirst hagent hwrap =>
          dsimp only
          rw [byDefault_of_agent (hel.action_eq ▸ hagent)]
          exact executeEach_twins h _ passOn (fun c _ e e' _ => hwrap c e e') children el'.children
            hchildren s' t' hleft
        | announcedSecond hagent hwrap =>
          dsimp only
          rw [byDefault_of_agent hagent]
          exact executeEach_twins h passOn _ (fun _ c' e e' _ => hwrap c' e e') children el'.children
            hchildren s' t' hleft

/-- Lists of twins are executed alike, by induction along the lists. -/
theorem executeEach_twins (h : Equates host reenter Kind R E F)
    (wrap wrap' : Element → ActionError → ActionError)
    (hwrap : ∀ c c' e e', c.Twins Kind c' → E e e' → E (wrap c e) (wrap' c' e')) :
    ∀ els els' : List Element, List.Forall₂ (Element.Twins Kind) els els' →
      (host.executeEach reenter wrap els).run.Follows R (Results E (· = ·))
        (host.executeEach reenter wrap' els').run
  | [], els', hels => by
      cases hels
      rw [executeEach, executeEach]
      exact .pure (.ok rfl)
  | c :: rest, els', hels => by
      obtain ⟨c', rest', hc, hrest, rfl⟩ := List.forall₂_cons_left_iff.1 hels
      rw [executeEach, executeEach]
      exact ((executeWith_twins h c c' hc).adapt fun e e' => hwrap c c' e e' hc).bindExcept
        fun _ _ _ => executeEach_twins h wrap wrap' hwrap rest rest' hrest

end

end Equates

end Host

end MarkupActions
