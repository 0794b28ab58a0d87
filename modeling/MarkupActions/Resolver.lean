import MarkupActions.ActionError
import MarkupActions.Element
import MarkupActions.Expression

/-!
# MarkupActions.Resolver

**The parameters of an action, out of the attributes of its element.** A parameter is given by a
literal attribute, possibly under a second name, or by an expression attribute that the data model
evaluates. Names and places prefer the literal (`literalFirst`); contents must be given in one way
only (`exclusive`). An attribute that is present but empty counts as absent.

The evaluator may work in any monad, so that what it does, and how often it is asked, stays
visible; the data model of this library works in none.
-/

namespace MarkupActions

/-- How a literal and its expression go together. -/
inductive Precedence where
  /-- The literal wins, and the expression is then not evaluated. -/
  | literalFirst
  /-- At most one of the two may be there. -/
  | exclusive
  deriving DecidableEq

/-- A parameter that an action asks for. -/
structure Parameter where
  literal : String
  /-- A second name of the literal attribute, used when the first is absent. -/
  alternative : Option String
  expression : Option String
  /-- Whether it is an error that none of them is there. -/
  isRequired : Bool
  precedence : Precedence
  /-- Whether blanks around the attributes and the result do not count. -/
  trims : Bool
  deriving DecidableEq

namespace Parameter

/-- A parameter that must be given. -/
def required (literal : String) : Parameter := ⟨literal, none, none, true, .literalFirst, false⟩

/-- A parameter that may be missing. -/
def optional (literal : String) : Parameter := { required literal with isRequired := false }

/-- The expression is used when the literal is absent. -/
def orExpression (p : Parameter) (name : String) : Parameter :=
  { p with expression := some name, precedence := .literalFirst }

/-- The literal or the expression, but not both. -/
def xorExpression (p : Parameter) (name : String) : Parameter :=
  { p with expression := some name, precedence := .exclusive }

/-- A second name for the literal. -/
def orLiteral (p : Parameter) (name : String) : Parameter := { p with alternative := some name }

/-- Blanks at the ends do not count. -/
def trimmed (p : Parameter) : Parameter := { p with trims := true }

/-- The attributes that can give the parameter, for a message. -/
def describe (p : Parameter) : String :=
  " or ".intercalate (p.literal :: (p.alternative.toList ++ p.expression.toList))

/-- Whether an empty result counts: only what is neither a name nor trimmed may be empty. -/
def keepsEmpty (p : Parameter) : Bool := p.precedence = .exclusive && !p.trims

end Parameter

/-- Something that evaluates expressions, or says in words why it does not. -/
abbrev Evaluator (m : Type → Type) := String → m (Except String Value)

/-- The evaluator that a data model is. -/
def DataModel.evaluator (model : DataModel) : Evaluator Id := fun expression =>
  (model.evaluate expression).mapError DataModelError.message

/-- One action at work on one element. -/
structure Resolver (m : Type → Type) where
  element : Element
  /-- What evaluates expressions, if anything does. -/
  evaluator : Option (Evaluator m)
  /-- The action's name, for messages. -/
  action : String

namespace Resolver

variable {m : Type → Type}

/-- The element's name without prefix, for diagnosis. -/
def elementName (r : Resolver m) : String := r.element.localName

/-- The failure of asking for a data model where there is none. The vocabulary is the part of the
action's name before its colon. -/
def noDataModel (r : Resolver m) : ActionError :=
  let vocabulary := (r.action.toList.splitOn ':').headD []
  (ActionError.missingDataModel (String.ofList vocabulary) r.elementName).becauseText "no datamodel"

/-- What evaluates expressions, or the failure that nothing does. -/
def evaluatorOrFail (r : Resolver m) : Except ActionError (Evaluator m) :=
  match r.evaluator with
  | some evaluate => .ok evaluate
  | none => .error r.noDataModel

/-- An attribute that is present and not empty, after trimming if asked for. -/
def literal? (r : Resolver m) (name : String) (trims : Bool) : Option String :=
  ((r.element.attribute? name).map fun v => if trims then Text.trim v else v).filter (· ≠ "")

/-- The literal of a parameter under its first or second name. -/
def literalOf? (r : Resolver m) (p : Parameter) : Option String :=
  (r.literal? p.literal p.trims).or (p.alternative.bind fun name => r.literal? name p.trims)

/-- The expression attribute of a parameter, with its name. -/
def expressionOf? (r : Resolver m) (p : Parameter) : Option (String × String) :=
  p.expression.bind fun name => (r.literal? name p.trims).map fun text => (name, text)

/-- The failure that a parameter is given in two ways. -/
def conflict (r : Resolver m) (p : Parameter) (literal name text : String) : ActionError :=
  let message := r.action ++ " cannot have both " ++ p.literal ++ " and " ++ name ++ " attributes"
  (((ActionError.of .conflictingParameters r.elementName message).withData
    p.literal (.string literal)).withData name (.string text)).becauseText "conflicting attributes"

/-- The failure that a required parameter came to nothing. -/
def missing (r : Resolver m) (p : Parameter) : ActionError :=
  (ActionError.of .missingParameter r.elementName
    (r.action ++ " requires " ++ p.describe ++ " attribute")).becauseText ("missing " ++ p.literal)

/-- The failure that the data model refused an expression. -/
def refused (r : Resolver m) (attr expression reason : String) : ActionError :=
  ((ActionError.of .evaluation r.elementName ("Failed to evaluate " ++ attr)).withData
    attr (.string expression)).becauseText reason

/-- What is left when neither literal nor expression gave anything. -/
def absent (r : Resolver m) (p : Parameter) : Except ActionError (Option String) :=
  if p.isRequired then .error (r.missing p) else .ok none

/-- What a value counts for as a parameter. -/
def accepted? (p : Parameter) (v : Value) : Option String :=
  (v.attributeText?.map fun s => if p.trims then Text.trim s else s).filter
    fun s => p.keepsEmpty || s ≠ ""

variable [Monad m]

/-- The value of the expression in an attribute. Without a data model, or where the data model
refuses, the failure names the attribute. -/
def evaluate (r : Resolver m) (attr expression : String) : m (Except ActionError Value) :=
  match r.evaluator with
  | none => pure (.error r.noDataModel)
  | some evaluate => do
      match ← evaluate expression with
      | .ok v => pure (.ok v)
      | .error reason => pure (.error (r.refused attr expression reason))

/-- The text of a parameter; none only when it is optional and absent. -/
def resolve (r : Resolver m) (p : Parameter) : m (Except ActionError (Option String)) :=
  match r.literalOf? p, r.expressionOf? p with
  | some literal, some (name, text) =>
      -- The expression is not evaluated either way.
      pure (if p.precedence = .exclusive then .error (r.conflict p literal name text)
            else .ok (some literal))
  | some literal, none => pure (.ok (some literal))
  | none, none => pure (r.absent p)
  | none, some (name, text) => do
      match ← r.evaluate name text with
      | .error e => pure (.error e)
      | .ok v =>
          match accepted? p v with
          | some s => pure (.ok (some s))
          | none => pure (r.absent p)

end Resolver

/-- A resolver over a data model, or over none. -/
def Element.resolver (el : Element) (model : Option DataModel) (action : String) :
    Resolver Id where
  element := el
  evaluator := model.map DataModel.evaluator
  action := action

end MarkupActions
