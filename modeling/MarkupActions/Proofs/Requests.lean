import MarkupActions.Vocabulary.Env
import MarkupActions.Vocabulary.Stdin

/-!
# MarkupActions.Proofs.Requests

**Why a request is refused.** An action resolves all that it is asked for before it does anything.
When this fails, the failure is of a kind of its own (`ErrorKind.isRefusal`), by which it can be told
from the failure to store a value, or to reach the world outside.
-/

namespace MarkupActions

variable {α β : Type}

/-- Whether a failure is one to resolve what is asked for. -/
def ErrorKind.isRefusal : ErrorKind → Bool
  | .missingDataModel | .missingParameter | .conflictingParameters | .evaluation => true
  | _ => false

/-- When a request fails, it is refused: nothing has been done for it. -/
def Refuses (x : Except ActionError α) : Prop := ∀ e, x = .error e → e.kind.isRefusal = true

namespace Refuses

theorem ok (a : α) : Refuses (.ok a) := nofun

theorem error {e : ActionError} (h : e.kind.isRefusal = true) :
    Refuses (.error e : Except ActionError α) := by
  intro e' he
  cases he
  exact h

/-- What refuses only for a good reason may be continued by the like. -/
theorem bind {x : Except ActionError α} {f : α → Except ActionError β} (hx : Refuses x)
    (hf : ∀ a, Refuses (f a)) : Refuses (x >>= f) := by
  cases x with
  | ok a => exact hf a
  | error e => exact .error (hx e rfl)

theorem map {x : Except ActionError α} (hx : Refuses x) (f : α → β) : Refuses (x.map f) := by
  cases x with
  | ok a => exact .ok (f a)
  | error e => exact .error (hx e rfl)

/-- More diagnostic data does not make another failure of it. -/
theorem withData {x : Except ActionError α} (hx : Refuses x) (key : String) (value : Value) :
    Refuses (x.mapError (·.withData key value)) := by
  cases x with
  | ok a => exact .ok a
  | error e => exact .error (hx e rfl)

/-- A refusal is not a failure to store a value. -/
theorem kind_ne {x : Except ActionError α} (hx : Refuses x) {e : ActionError} (h : x = .error e) :
    e.kind ≠ .assignment := by
  intro hkind
  have hrefusal := hx e h
  rw [hkind] at hrefusal
  cases hrefusal

end Refuses

namespace Resolver

variable (r : Resolver Id) (p : Parameter)

theorem evaluatorOrFail_refuses : Refuses r.evaluatorOrFail := by
  rw [evaluatorOrFail]
  cases r.evaluator with
  | none => exact .error rfl
  | some evaluate => exact .ok evaluate

theorem absent_refuses : Refuses (r.absent p) := by
  rw [absent]
  split
  · exact .error rfl
  · exact .ok none

theorem evaluate_refuses (attr expression : String) :
    Refuses (r.evaluate attr expression : Except ActionError Value) := by
  rw [evaluate]
  cases r.evaluator with
  | none => exact .error rfl
  | some evaluate =>
    simp only [pure, bind]
    cases evaluate expression with
    | ok v => exact .ok v
    | error reason => exact .error rfl

/-- Resolving a parameter fails only for what is wrong with the parameter. -/
theorem text?_refuses : Refuses (r.text? p) := by
  rw [text?, resolve]
  cases r.literalOf? p with
  | some literal =>
    cases r.expressionOf? p with
    | none => exact .ok (some literal)
    | some expression =>
      dsimp only
      split
      · exact .error rfl
      · exact .ok (some literal)
  | none =>
    cases r.expressionOf? p with
    | none => exact r.absent_refuses p
    | some expression =>
      obtain ⟨name, text⟩ := expression
      simp only [pure, bind]
      cases hvalue : r.evaluate name text with
      | error e => exact .error (r.evaluate_refuses name text e hvalue)
      | ok v =>
        dsimp only
        cases accepted? p v with
        | none => exact r.absent_refuses p
        | some s => exact .ok (some s)

theorem textD_refuses : Refuses (r.textD p) := (r.text?_refuses p).map _

end Resolver

/-- An attribute that is not trimmed is taken as it stands, unless that is empty. -/
theorem Element.literal?_untrimmed (el : Element) (model : Option DataModel)
    (action name : String) : (el.resolver model action).literal? name false =
      (el.attribute? name).filter (· ≠ "") :=
  congrArg (Option.filter _) Option.map_id'

/-- An optional literal is the attribute as it stands, unless that is empty. -/
theorem Element.text?_optional (el : Element) (model : Option DataModel) (action name : String) :
    (el.resolver model action).text? (.optional name) =
      .ok ((el.attribute? name).filter (· ≠ "")) := by
  have hliteral : (el.resolver model action).literalOf? (.optional name) =
      (el.attribute? name).filter (· ≠ "") := by
    simp only [Resolver.literalOf?, Element.literal?_untrimmed, Parameter.optional,
      Parameter.required, Option.bind_none, Option.or_none]
  have hexpression : (el.resolver model action).expressionOf? (.optional name) = none := rfl
  rw [Resolver.text?, Resolver.resolve, hliteral, hexpression]
  cases (el.attribute? name).filter (· ≠ "") <;> rfl

/-! ### Single requests -/

theorem Stdin.request_refuses (el : Element) (model : Option DataModel) :
    Refuses (Stdin.request el model) :=
  (Resolver.evaluatorOrFail_refuses _).bind fun _ =>
    (Resolver.textD_refuses _ _).bind fun _ =>
      (Resolver.text?_refuses _ _).bind fun _ => .ok _

theorem Env.getRequest_refuses (el : Element) (model : Option DataModel) :
    Refuses (Env.getRequest el model) :=
  (Resolver.evaluatorOrFail_refuses _).bind fun _ =>
    (Resolver.textD_refuses _ _).bind fun name =>
      ((Resolver.textD_refuses _ _).withData "name" (.string name)).bind fun _ =>
        (Resolver.text?_refuses _ _).bind fun _ => .ok _

/-- What `get` asks for it can only ask for with a data model. -/
theorem Env.getRequest_ok {el : Element} {model : Option DataModel} {q : GetRequest}
    (h : getRequest el model = .ok q) :
    (∃ m, model = some m) ∧ q.default = (el.attribute? "default").filter (· ≠ "") := by
  cases model with
  | none => cases h
  | some m =>
    simp only [Env.getRequest, bind, Except.bind] at h
    split at h
    · cases h
    · split at h
      · cases h
      · split at h
        · cases h
        · rw [defaultParameter, Element.text?_optional] at h
          cases h
          exact ⟨⟨m, rfl⟩, rfl⟩

end MarkupActions
