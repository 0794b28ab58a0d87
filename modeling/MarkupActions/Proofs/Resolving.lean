import Mathlib.Data.List.DropRight
import MarkupActions.Resolver

/-!
# MarkupActions.Proofs.Resolving

**What resolving a parameter comes to.** A parameter is given by the attributes that stand on an
element, and by what the data model makes of an expression. `Resolver.Resolves` says so rule by rule,
in terms of the attributes as they are written: the answer, which expressions were evaluated for it,
and how the data model is left. The resolver does what the rules say and nothing else
(`Resolver.outcome_resolves`).

The data model is anything that evaluates expressions, and may change as it does so. To see what it
is asked for, its evaluator is made to keep a list.
-/

namespace MarkupActions

variable {σ : Type}

/-! ### What a parameter reads -/

/-- Blanks taken off the end leave the beginning as it is, if that is no blank. -/
theorem Text.dropWhile_trimEnd {cs : List Char} (h : cs.dropWhile isBlank = cs) :
    (trimEnd cs).dropWhile isBlank = trimEnd cs := by
  rw [List.dropWhile_eq_self_iff] at h ⊢
  intro hpos
  have hpre : trimEnd cs <+: cs := List.rdropWhile_prefix isBlank cs
  rw [hpre.getElem hpos]
  exact h (hpos.trans_le hpre.length_le)

/-- A text that has been trimmed has nothing left to trim. -/
theorem Text.trim_trim (s : String) : trim (trim s) = trim s := by
  have hchars : trimChars (trimChars s.toList) = trimChars s.toList :=
    calc trimChars (trimChars s.toList)
      _ = trimEnd (trimEnd (s.toList.dropWhile isBlank)) := by
        rw [trimChars, trimChars, dropWhile_trimEnd (List.dropWhile_idempotent _ _)]
      _ = trimChars s.toList := List.rdropWhile_idempotent _ _
  rw [trim, toList_trim, hchars, trim]

namespace Parameter

variable (p : Parameter) (el : Element)

/-- What the parameter makes of a text, be it an attribute or a result. -/
def reads (s : String) : String := if p.trims then Text.trim s else s

theorem trim_reads (h : p.trims = true) (s : String) : Text.trim (p.reads s) = p.reads s := by
  rw [reads, if_pos h, Text.trim_trim]

/-- An attribute that counts as there, with what is read of it. -/
structure Given (name text : String) : Prop where
  written : ∃ v, el.attribute? name = some v ∧ p.reads v = text
  nonempty : text ≠ ""

/-- The literal, under its first name, or else under its second. -/
inductive ByLiteral : String → Prop where
  | first {text : String} (h : p.Given el p.literal text) : ByLiteral text
  | second {name text : String} (hfirst : ∀ t, ¬ p.Given el p.literal t)
      (hname : p.alternative = some name) (h : p.Given el name text) : ByLiteral text

theorem ByLiteral.read {p : Parameter} {el : Element} {text : String} (h : p.ByLiteral el text) :
    text ≠ "" ∧ ∃ v, p.reads v = text := by
  cases h with
  | first h | second _ _ h =>
    obtain ⟨⟨v, -, hv⟩, hne⟩ := h
    exact ⟨hne, v, hv⟩

/-- The expression, with the name of its attribute. -/
structure ByExpression (name text : String) : Prop where
  named : p.expression = some name
  given : p.Given el name text

/-- The parameter is given in both ways at once, and may not be. -/
structure Conflict (literal name text : String) : Prop where
  exclusive : p.precedence = .exclusive
  byLiteral : p.ByLiteral el literal
  byExpression : p.ByExpression el name text

/-- An empty result counts only where one way to give the parameter rules out the other and
blanks matter. -/
structure KeepsEmpty : Prop where
  exclusive : p.precedence = .exclusive
  untrimmed : p.trims = false

/-- A value that gives the parameter, with its text. -/
structure Takes (v : Value) (text : String) : Prop where
  read : ∃ s, v.attributeText? = some s ∧ p.reads s = text
  kept : text ≠ "" ∨ p.KeepsEmpty

/-- A value that counts as none. -/
inductive Drops : Value → Prop where
  | null : Drops .null
  | empty {v : Value} {s : String} (hs : v.attributeText? = some s) (hempty : p.reads s = "")
      (hkeep : ¬ p.KeepsEmpty) : Drops v

end Parameter

/-- An evaluator that keeps the expressions it has been asked for, in order. -/
def Evaluator.recorded (evaluate : Evaluator (StateM σ)) :
    Evaluator (StateM (σ × List String)) := fun expression state =>
  let (answer, after) := evaluate expression state.1
  (answer, (after, state.2 ++ [expression]))

namespace Resolver

/-! ### Attributes and values, as they are looked up -/

section

variable {m : Type → Type} (r : Resolver m) (p : Parameter)

/-- A literal is found just if the attribute counts as given. -/
theorem literal?_eq_some_iff (name text : String) :
    r.literal? name p.trims = some text ↔ p.Given r.element name text := by
  rw [literal?, Option.filter_eq_some_iff, Option.map_eq_some_iff, decide_eq_true_iff]
  exact ⟨fun ⟨h, hne⟩ => ⟨h, hne⟩, fun ⟨h, hne⟩ => ⟨h, hne⟩⟩

theorem literal?_eq_none_iff (name : String) :
    r.literal? name p.trims = none ↔ ∀ text, ¬ p.Given r.element name text := by
  rw [Option.eq_none_iff_forall_ne_some]
  exact forall_congr' fun text => not_congr (r.literal?_eq_some_iff p name text)

/-- The literal of a parameter is what the rules say it is given by. -/
theorem literalOf?_eq_some_iff (text : String) :
    r.literalOf? p = some text ↔ p.ByLiteral r.element text := by
  rw [literalOf?, Option.or_eq_some_iff, Option.bind_eq_some_iff, literal?_eq_some_iff,
    literal?_eq_none_iff]
  constructor
  · rintro (h | ⟨hfirst, name, hname, h⟩)
    · exact .first h
    · exact .second hfirst hname ((r.literal?_eq_some_iff p name text).mp h)
  · rintro (h | ⟨hfirst, hname, h⟩)
    · exact .inl h
    · exact .inr ⟨hfirst, _, hname, (r.literal?_eq_some_iff p _ text).mpr h⟩

theorem literalOf?_eq_none_iff :
    r.literalOf? p = none ↔ ∀ text, ¬ p.ByLiteral r.element text := by
  rw [Option.eq_none_iff_forall_ne_some]
  exact forall_congr' fun text => not_congr (r.literalOf?_eq_some_iff p text)

/-- The expression of a parameter is what the rules say it is given by. -/
theorem expressionOf?_eq_some_iff (name text : String) :
    r.expressionOf? p = some (name, text) ↔ p.ByExpression r.element name text := by
  simp only [expressionOf?, Option.bind_eq_some_iff, Option.map_eq_some_iff, Prod.mk.injEq]
  constructor
  · rintro ⟨_, hname, _, h, rfl, rfl⟩
    exact ⟨hname, (r.literal?_eq_some_iff p _ _).mp h⟩
  · rintro ⟨hname, h⟩
    exact ⟨name, hname, text, (r.literal?_eq_some_iff p name text).mpr h, rfl, rfl⟩

theorem expressionOf?_eq_none_iff :
    r.expressionOf? p = none ↔ ∀ name text, ¬ p.ByExpression r.element name text := by
  rw [Option.eq_none_iff_forall_ne_some, Prod.forall]
  exact forall_congr' fun name => forall_congr' fun text =>
    not_congr (r.expressionOf?_eq_some_iff p name text)

end

section

variable (p : Parameter)

theorem keepsEmpty_iff : p.keepsEmpty = true ↔ p.KeepsEmpty := by
  rw [Parameter.keepsEmpty, Bool.and_eq_true, decide_eq_true_iff, Bool.not_eq_true']
  exact ⟨fun ⟨h, h'⟩ => ⟨h, h'⟩, fun ⟨h, h'⟩ => ⟨h, h'⟩⟩

/-- A result is accepted just if the rules let the parameter take it. -/
theorem accepted?_eq_some_iff (v : Value) (text : String) :
    accepted? p v = some text ↔ p.Takes v text := by
  rw [accepted?, Option.filter_eq_some_iff, Option.map_eq_some_iff, Bool.or_eq_true,
    keepsEmpty_iff, decide_eq_true_iff, or_comm]
  exact ⟨fun ⟨h, hkept⟩ => ⟨h, hkept⟩, fun ⟨h, hkept⟩ => ⟨h, hkept⟩⟩

/-- A result is not accepted just if the rules let the parameter drop it. -/
theorem accepted?_eq_none_iff (v : Value) : accepted? p v = none ↔ p.Drops v := by
  rw [Option.eq_none_iff_forall_ne_some]
  constructor
  · intro h
    cases hs : v.attributeText? with
    | none => exact (v.attributeText?_eq_none_iff.mp hs) ▸ .null
    | some s =>
      have hno : ¬ p.Takes v (p.reads s) := fun htakes =>
        h _ ((accepted?_eq_some_iff p v _).mpr htakes)
      refine .empty hs (Decidable.byContradiction fun hne => hno ⟨⟨s, hs, rfl⟩, .inl hne⟩) fun hkeep =>
        hno ⟨⟨s, hs, rfl⟩, .inr hkeep⟩
  · intro h text htext
    obtain ⟨⟨s, hs, hread⟩, hkept⟩ := (accepted?_eq_some_iff p v text).mp htext
    cases h with
    | null => cases hs
    | empty hs' hempty hkeep =>
      rw [hs', Option.some.injEq] at hs
      rw [← hs, hempty] at hread
      exact hkept.elim (fun hne => hne hread.symm) hkeep

end

/-! ### The rules -/

/-- What a parameter comes to that nothing gives. -/
inductive Unfilled {m : Type → Type} (r : Resolver m) (p : Parameter) :
    Except ActionError (Option String) → Prop where
  | required (h : p.isRequired = true) : Unfilled r p (.error (r.missing p))
  | optional (h : p.isRequired = false) : Unfilled r p (.ok none)

/-- What resolving a parameter comes to when the data model is in a state: the answer, the
expressions that were evaluated for it, and the state afterwards. -/
inductive Resolves (r : Resolver (StateM σ)) (p : Parameter) (s : σ) :
    Except ActionError (Option String) → List String → σ → Prop where
  | conflict {literal name text : String} (h : p.Conflict r.element literal name text) :
      Resolves r p s (.error (r.conflict p literal name text)) [] s
  | literal {text : String} (h : p.ByLiteral r.element text)
      (hno : ∀ literal name text, ¬ p.Conflict r.element literal name text) :
      Resolves r p s (.ok (some text)) [] s
  | noDataModel {name text : String} (hliteral : ∀ t, ¬ p.ByLiteral r.element t)
      (h : p.ByExpression r.element name text) (hmodel : r.evaluator = none) :
      Resolves r p s (.error r.noDataModel) [] s
  | refused {name text reason : String} {evaluate : Evaluator (StateM σ)} {t : σ}
      (hliteral : ∀ t, ¬ p.ByLiteral r.element t) (h : p.ByExpression r.element name text)
      (hmodel : r.evaluator = some evaluate) (hvalue : evaluate text s = (.error reason, t)) :
      Resolves r p s (.error (r.refused name text reason)) [text] t
  | expression {name text result : String} {evaluate : Evaluator (StateM σ)} {v : Value} {t : σ}
      (hliteral : ∀ t, ¬ p.ByLiteral r.element t) (h : p.ByExpression r.element name text)
      (hmodel : r.evaluator = some evaluate) (hvalue : evaluate text s = (.ok v, t))
      (hresult : p.Takes v result) :
      Resolves r p s (.ok (some result)) [text] t
  | dropped {name text : String} {evaluate : Evaluator (StateM σ)} {v : Value} {t : σ}
      {answer : Except ActionError (Option String)}
      (hliteral : ∀ t, ¬ p.ByLiteral r.element t) (h : p.ByExpression r.element name text)
      (hmodel : r.evaluator = some evaluate) (hvalue : evaluate text s = (.ok v, t))
      (hresult : p.Drops v) (hanswer : r.Unfilled p answer) :
      Resolves r p s answer [text] t
  | absent {answer : Except ActionError (Option String)} (hliteral : ∀ t, ¬ p.ByLiteral r.element t)
      (hexpression : ∀ name text, ¬ p.ByExpression r.element name text)
      (hanswer : r.Unfilled p answer) :
      Resolves r p s answer [] s

/-- The resolver with an evaluator that keeps what it is asked for. -/
def recorded (r : Resolver (StateM σ)) : Resolver (StateM (σ × List String)) where
  element := r.element
  evaluator := r.evaluator.map Evaluator.recorded
  action := r.action

/-- What the resolver does: its answer, the expressions that are evaluated for it, in order, and the
state of the data model afterwards. -/
def outcome (r : Resolver (StateM σ)) (p : Parameter) (s : σ) :
    Except ActionError (Option String) × List String × σ :=
  let (answer, after) := (r.recorded.resolve p).run (s, [])
  (answer, after.2, after.1)

/-- What is answered for a parameter that comes to nothing depends on whether it is required. -/
theorem unfilled_iff {m : Type → Type} (r : Resolver m) (p : Parameter)
    (answer : Except ActionError (Option String)) : r.Unfilled p answer ↔ r.absent p = answer := by
  rw [absent]
  constructor
  · rintro (h | h)
    · rw [if_pos h]
    · rw [if_neg (by rw [h]; decide)]
  · rintro rfl
    split
    · next h => exact .required h
    · next h => exact .optional (Bool.eq_false_iff.mpr h)

section

variable (r : Resolver (StateM σ)) (p : Parameter) (s : σ)

@[simp] theorem recorded_literalOf? : r.recorded.literalOf? p = r.literalOf? p := rfl

@[simp] theorem recorded_expressionOf? : r.recorded.expressionOf? p = r.expressionOf? p := rfl

@[simp] theorem recorded_evaluator :
    r.recorded.evaluator = r.evaluator.map Evaluator.recorded := rfl

/-! ### The outcome, by what the attributes give -/

variable {r p s}

/-- With a literal and an expression it depends on the precedence whether this is a conflict. -/
theorem outcome_of_both {literal name text : String} (hliteral : r.literalOf? p = some literal)
    (hexpression : r.expressionOf? p = some (name, text)) : r.outcome p s =
      (if p.precedence = .exclusive then .error (r.conflict p literal name text)
        else .ok (some literal), [], s) := by
  rw [outcome, resolve, recorded_literalOf?, recorded_expressionOf?, hliteral, hexpression]
  rfl

/-- A literal alone is the answer, and nothing is evaluated. -/
theorem outcome_of_literal {literal : String} (hliteral : r.literalOf? p = some literal)
    (hexpression : r.expressionOf? p = none) : r.outcome p s = (.ok (some literal), [], s) := by
  rw [outcome, resolve, recorded_literalOf?, recorded_expressionOf?, hliteral, hexpression]
  rfl

/-- Without literal and expression nothing is evaluated. -/
theorem outcome_of_neither (hliteral : r.literalOf? p = none)
    (hexpression : r.expressionOf? p = none) : r.outcome p s = (r.absent p, [], s) := by
  rw [outcome, resolve, recorded_literalOf?, recorded_expressionOf?, hliteral, hexpression]
  rfl

theorem outcome_without_model {name text : String} (hliteral : r.literalOf? p = none)
    (hexpression : r.expressionOf? p = some (name, text)) (hmodel : r.evaluator = none) :
    r.outcome p s = (.error r.noDataModel, [], s) := by
  rw [outcome, resolve, recorded_literalOf?, recorded_expressionOf?, hliteral, hexpression]
  dsimp only
  rw [evaluate, recorded_evaluator, hmodel]
  rfl

/-- The record grows by the expression that is evaluated. -/
theorem run_evaluate_recorded {name text : String} {evaluate : Evaluator (StateM σ)}
    (hmodel : r.evaluator = some evaluate) (asked : List String) :
    (r.recorded.evaluate name text).run (s, asked) =
      ((evaluate text s).1.mapError (r.refused name text),
        ((evaluate text s).2, asked ++ [text])) := by
  simp only [Resolver.evaluate, recorded_evaluator, hmodel, Option.map_some, StateT.run, bind,
    StateT.bind, Evaluator.recorded]
  cases hvalue : evaluate text s with
  | mk answer t => cases answer <;> rfl

/-- An expression alone is evaluated once, and its result is taken or dropped. -/
theorem outcome_of_expression {name text : String} {evaluate : Evaluator (StateM σ)}
    (hliteral : r.literalOf? p = none) (hexpression : r.expressionOf? p = some (name, text))
    (hmodel : r.evaluator = some evaluate) :
    r.outcome p s =
      (((evaluate text s).1.mapError (r.refused name text)).bind fun v =>
          (accepted? p v).elim (r.absent p) fun result => .ok (some result),
        [text], (evaluate text s).2) := by
  rw [outcome, resolve, recorded_literalOf?, recorded_expressionOf?, hliteral, hexpression]
  dsimp only
  rw [StateT.run_bind, run_evaluate_recorded hmodel]
  cases (evaluate text s).1 with
  | error reason => rfl
  | ok v =>
    dsimp only [Except.mapError, Except.bind, bind]
    cases accepted? p v <;> rfl

/-! ### The same resolving in two monads -/

/-- What goes together of two monads: it is closed under what a computation is put together from. -/
structure Related {m n : Type → Type} [Monad m] [Monad n] (R : (α : Type) → m α → n α → Prop) :
    Prop where
  pure {α : Type} (a : α) : R α (pure a) (pure a)
  bind {α β : Type} {x : m α} {y : n α} {f : α → m β} {g : α → n β} (hx : R α x y)
    (hf : ∀ a, R β (f a) (g a)) : R β (x >>= f) (y >>= g)

/-- Two resolvers for the same action on the same element do the same if their evaluators do. -/
theorem resolve_related {m n : Type → Type} [Monad m] [Monad n]
    {R : (α : Type) → m α → n α → Prop} (hR : Related R) {x : Resolver m} {y : Resolver n}
    (helement : y.element = x.element) (haction : y.action = x.action)
    (hevaluate : ∀ name text, R _ (x.evaluate name text) (y.evaluate name text)) (p : Parameter) :
    R _ (x.resolve p) (y.resolve p) := by
  -- What is found on the element, and what the failures say, is not up to the evaluator.
  have hliteral : y.literalOf? p = x.literalOf? p := by simp only [literalOf?, literal?, helement]
  have hexpression : y.expressionOf? p = x.expressionOf? p := by
    simp only [expressionOf?, literal?, helement]
  have hconflict : y.conflict p = x.conflict p := by
    funext literal name text
    simp only [conflict, elementName, helement, haction]
  have habsent : y.absent p = x.absent p := by
    simp only [absent, missing, elementName, helement, haction]
  rw [resolve, resolve, hliteral, hexpression, hconflict, habsent]
  cases x.literalOf? p with
  | some literal => cases x.expressionOf? p <;> exact hR.pure _
  | none =>
    cases x.expressionOf? p with
    | none => exact hR.pure _
    | some expression =>
      refine hR.bind (hevaluate _ _) fun answer => ?_
      cases answer with
      | error e => exact hR.pure _
      | ok v =>
        dsimp only
        cases accepted? p v <;> exact hR.pure _

/-! ### The rules are what the resolver does -/

/-- The rules leave no choice: what they allow is what the resolver does. -/
theorem Resolves.outcome_eq {answer : Except ActionError (Option String)} {asked : List String}
    {t : σ} (h : r.Resolves p s answer asked t) : r.outcome p s = (answer, asked, t) := by
  cases h with
  | @conflict literal name text h =>
    rw [outcome_of_both ((r.literalOf?_eq_some_iff p literal).mpr h.byLiteral)
      ((r.expressionOf?_eq_some_iff p name text).mpr h.byExpression), if_pos h.exclusive]
  | @literal text h hno =>
    have hliteral := (r.literalOf?_eq_some_iff p text).mpr h
    cases hexpression : r.expressionOf? p with
    | none => exact outcome_of_literal hliteral hexpression
    | some expression =>
      obtain ⟨name, source⟩ := expression
      have hby := (r.expressionOf?_eq_some_iff p name source).mp hexpression
      rw [outcome_of_both hliteral hexpression,
        if_neg fun hexclusive => hno text name source ⟨hexclusive, h, hby⟩]
  | @noDataModel name text hliteral h hmodel =>
    exact outcome_without_model ((r.literalOf?_eq_none_iff p).mpr hliteral)
      ((r.expressionOf?_eq_some_iff p name text).mpr h) hmodel
  | @refused name text reason evaluate t hliteral h hmodel hvalue =>
    rw [outcome_of_expression ((r.literalOf?_eq_none_iff p).mpr hliteral)
      ((r.expressionOf?_eq_some_iff p name text).mpr h) hmodel, hvalue]
    rfl
  | @expression name text result evaluate v t hliteral h hmodel hvalue hresult =>
    rw [outcome_of_expression ((r.literalOf?_eq_none_iff p).mpr hliteral)
      ((r.expressionOf?_eq_some_iff p name text).mpr h) hmodel, hvalue]
    dsimp only [Except.mapError, Except.bind]
    rw [(accepted?_eq_some_iff p v result).mpr hresult, Option.elim_some]
  | @dropped name text evaluate v t answer hliteral h hmodel hvalue hresult hanswer =>
    rw [outcome_of_expression ((r.literalOf?_eq_none_iff p).mpr hliteral)
      ((r.expressionOf?_eq_some_iff p name text).mpr h) hmodel, hvalue]
    dsimp only [Except.mapError, Except.bind]
    rw [(accepted?_eq_none_iff p v).mpr hresult, Option.elim_none,
      (r.unfilled_iff p answer).mp hanswer]
  | @absent answer hliteral hexpression hanswer =>
    rw [outcome_of_neither ((r.literalOf?_eq_none_iff p).mpr hliteral)
      ((r.expressionOf?_eq_none_iff p).mpr hexpression), (r.unfilled_iff p answer).mp hanswer]

variable (r p s)

theorem unfilled_absent {m : Type → Type} (r : Resolver m) : r.Unfilled p (r.absent p) :=
  (r.unfilled_iff p _).mpr rfl

/-- Some rule applies, whatever the attributes are and whatever the data model makes of them. -/
theorem exists_resolves : ∃ answer asked t, r.Resolves p s answer asked t := by
  cases hliteral : r.literalOf? p with
  | some literal =>
    have hby := (r.literalOf?_eq_some_iff p literal).mp hliteral
    by_cases hconflict : ∃ literal name text, p.Conflict r.element literal name text
    · obtain ⟨_, _, _, h⟩ := hconflict
      exact ⟨_, _, _, .conflict h⟩
    · exact ⟨_, _, _, .literal hby fun l name text h => hconflict ⟨l, name, text, h⟩⟩
  | none =>
    have hno := (r.literalOf?_eq_none_iff p).mp hliteral
    cases hexpression : r.expressionOf? p with
    | none =>
      have hnone := (r.expressionOf?_eq_none_iff p).mp hexpression
      exact ⟨_, _, _, .absent hno hnone (unfilled_absent p r)⟩
    | some expression =>
      obtain ⟨name, text⟩ := expression
      have hby := (r.expressionOf?_eq_some_iff p name text).mp hexpression
      cases hmodel : r.evaluator with
      | none => exact ⟨_, _, _, .noDataModel hno hby hmodel⟩
      | some evaluate =>
        cases hvalue : evaluate text s with
        | mk answer t =>
          cases answer with
          | error reason => exact ⟨_, _, _, .refused hno hby hmodel hvalue⟩
          | ok v =>
            cases haccepted : accepted? p v with
            | some result =>
              have htakes := (accepted?_eq_some_iff p v result).mp haccepted
              exact ⟨_, _, _, .expression hno hby hmodel hvalue htakes⟩
            | none =>
              have hdrops := (accepted?_eq_none_iff p v).mp haccepted
              exact ⟨_, _, _, .dropped hno hby hmodel hvalue hdrops (unfilled_absent p r)⟩

/-- What the resolver does the rules allow. -/
theorem outcome_resolves :
    r.Resolves p s (r.outcome p s).1 (r.outcome p s).2.1 (r.outcome p s).2.2 := by
  obtain ⟨answer, asked, t, h⟩ := exists_resolves r p s
  rw [h.outcome_eq]
  exact h

/-- A computation, and the same with a list kept beside its state. -/
def Forgets (α : Type) (x : StateM σ α) (y : StateM (σ × List String) α) : Prop :=
  ∀ s asked, x.run s = ((y.run (s, asked)).1, (y.run (s, asked)).2.1)

theorem forgets_related : Related (@Forgets σ) where
  pure _ _ _ := rfl
  bind hx hf s asked := by
    rw [StateT.run_bind, StateT.run_bind]
    dsimp only [Bind.bind]
    rw [hx s asked]
    exact hf _ _ _

/-- That a list is kept of what is evaluated changes nothing. -/
theorem run_resolve :
    (r.resolve p).run s = ((r.outcome p s).1, (r.outcome p s).2.2) := by
  refine resolve_related forgets_related (y := r.recorded) rfl rfl (fun name text s asked => ?_)
    p s []
  cases hmodel : r.evaluator with
  | none =>
    rw [evaluate, evaluate, recorded_evaluator, hmodel]
    rfl
  | some evaluate =>
    rw [run_evaluate_recorded hmodel, Resolver.evaluate, hmodel, StateT.run_bind]
    dsimp only [StateT.run, Bind.bind]
    cases (evaluate text s).1 <;> rfl

/-! ### What follows from the rules -/

variable {r p s} {answer : Except ActionError (Option String)} {asked : List String} {t : σ}

/-- A parameter that comes to nothing fails as missing, if it fails. -/
theorem Unfilled.kind {m : Type → Type} {r : Resolver m} (h : r.Unfilled p answer)
    {e : ActionError} (he : answer = .error e) : e.kind = .missingParameter := by
  cases h with
  | required => cases he; rfl
  | optional => cases he

theorem Unfilled.not_required {m : Type → Type} {r : Resolver m} (h : r.Unfilled p answer)
    (hnone : answer = .ok none) : p.isRequired = false := by
  cases h with
  | required => cases hnone
  | optional h => exact h

theorem Unfilled.ne_text {m : Type → Type} {r : Resolver m} (h : r.Unfilled p answer)
    (text : String) : answer ≠ .ok (some text) := by
  cases h <;> nofun

/-- Only a conflict is reported as one. -/
theorem Resolves.conflict_of_kind (h : r.Resolves p s answer asked t) {e : ActionError}
    (he : answer = .error e) (hkind : e.kind = .conflictingParameters) :
    ∃ literal name text, p.Conflict r.element literal name text := by
  cases h with
  | conflict h => exact ⟨_, _, _, h⟩
  | literal | expression => cases he
  | noDataModel | refused => cases he; cases hkind
  | dropped _ _ _ _ _ hanswer => cases (hanswer.kind he).symm.trans hkind
  | absent _ _ hanswer => cases (hanswer.kind he).symm.trans hkind

theorem Resolves.not_required (h : r.Resolves p s answer asked t) (hnone : answer = .ok none) :
    p.isRequired = false := by
  cases h with
  | conflict | literal | noDataModel | refused | expression => cases hnone
  | dropped _ _ _ _ _ hanswer => exact hanswer.not_required hnone
  | absent _ _ hanswer => exact hanswer.not_required hnone

/-- At most one expression is evaluated. -/
theorem Resolves.length_asked_le (h : r.Resolves p s answer asked t) : asked.length ≤ 1 := by
  cases h with
  | conflict | literal | noDataModel | absent => exact Nat.zero_le 1
  | refused | expression | dropped => exact Nat.le_refl 1

/-- A text that is returned has been read by the parameter, and is empty only as a result that
counts although it is empty. -/
theorem Resolves.text (h : r.Resolves p s answer asked t) {text : String}
    (htext : answer = .ok (some text)) :
    (∃ v, p.reads v = text) ∧ (text = "" → p.KeepsEmpty ∧ asked ≠ []) := by
  cases h with
  | conflict | noDataModel | refused => cases htext
  | literal h =>
    cases htext
    obtain ⟨hne, hread⟩ := h.read
    exact ⟨hread, fun hempty => absurd hempty hne⟩
  | expression _ _ _ _ hresult =>
    cases htext
    obtain ⟨⟨v, -, hread⟩, hkept⟩ := hresult
    exact ⟨⟨v, hread⟩, fun hempty => ⟨hkept.resolve_left (absurd hempty), List.cons_ne_nil _ _⟩⟩
  | dropped _ _ _ _ _ hanswer => exact absurd htext (hanswer.ne_text text)
  | absent _ _ hanswer => exact absurd htext (hanswer.ne_text text)

end

/-- **The resolver does what the rules say.** For every element, parameter and data model, and in
every state of that: the rules that apply decide the answer, what is evaluated for it, and the state
afterwards. A conflict is reported just when there is one. At most one expression is evaluated, and
that once. Nothing is returned only for an optional parameter; a text that is returned is trimmed if
the parameter trims, and empty only as the result of an expression where an empty one counts. -/
theorem resolves_by_rules (r : Resolver (StateM σ)) (p : Parameter) (s : σ) :
    (r.resolve p).run s = ((r.outcome p s).1, (r.outcome p s).2.2) ∧
    (∀ answer asked t, r.outcome p s = (answer, asked, t) ↔ r.Resolves p s answer asked t) ∧
    ((∃ e, (r.outcome p s).1 = .error e ∧ e.kind = .conflictingParameters) ↔
      ∃ literal name text, p.Conflict r.element literal name text) ∧
    (r.outcome p s).2.1.length ≤ 1 ∧
    ((r.outcome p s).1 = .ok none → p.isRequired = false) ∧
    ∀ text, (r.outcome p s).1 = .ok (some text) →
      (p.trims = true → Text.trim text = text) ∧
      (text = "" → p.KeepsEmpty ∧ (r.outcome p s).2.1 ≠ []) := by
  have hrules := outcome_resolves r p s
  refine ⟨run_resolve r p s, fun answer asked t => ⟨fun h => ?_, Resolves.outcome_eq⟩,
    ⟨fun ⟨e, he, hkind⟩ => hrules.conflict_of_kind he hkind, fun ⟨literal, name, text, h⟩ => ?_⟩,
    hrules.length_asked_le, hrules.not_required, fun text htext => ?_⟩
  · rw [h] at hrules
    exact hrules
  · rw [(Resolves.conflict h).outcome_eq]
    exact ⟨_, rfl, rfl⟩
  · obtain ⟨⟨v, hread⟩, hempty⟩ := hrules.text htext
    exact ⟨fun htrims => hread ▸ p.trim_reads htrims v, hempty⟩

end Resolver

end MarkupActions
