import MarkupActions.Proofs.CanonicalText
import MarkupActions.Proofs.Resolving
import MarkupActions.Vocabulary.Handling

/-!
# MarkupActions.Proofs.Quoting

**A literal, and the same text as a quoted expression.** Between quotes every text is an expression
for itself, whatever it looks like and whatever the variables are (`DataModel.evaluate_enclosed`). So
a parameter may be given as a literal, or as an expression in quotes, and comes to the same. There
are two ways in which it does not: an empty text counts as absent for a literal, but not for an
expression where empty results are kept; and an attribute that is the expression of a parameter and
its literal at once is taken for the literal, quotes included. `Resolver.text?_enclosed_iff` says that
there are no others.
-/

namespace MarkupActions

/-! ### Texts between quotes -/

/-- A text between two quotes. -/
def Text.enclosed (quote : Char) (s : String) : String :=
  String.ofList (quote :: s.toList ++ [quote])

/-- The characters that make a text out of what stands between two of them. -/
def Expression.IsQuote (quote : Char) : Prop := quote = '\'' ∨ quote = '"'

variable {quote : Char}

@[simp] theorem Text.toList_enclosed (quote : Char) (s : String) :
    (enclosed quote s).toList = quote :: s.toList ++ [quote] := String.toList_ofList

theorem Text.enclosed_ne_empty (quote : Char) (s : String) : enclosed quote s ≠ "" := by
  intro h
  have hchars := congrArg String.toList h
  rw [toList_enclosed] at hchars
  cases hchars

theorem Text.length_enclosed (quote : Char) (s : String) :
    (enclosed quote s).length = s.length + 2 := by
  rw [← String.length_toList, toList_enclosed, List.length_append, List.length_cons,
    String.length_toList, List.length_singleton]

theorem Text.length_trim_le (s : String) : (trim s).length ≤ s.length := by
  have hstart := (List.dropWhile_sublist (l := s.toList) isBlank).length_le
  have hend : trimEnd (s.toList.dropWhile isBlank) <+: s.toList.dropWhile isBlank :=
    List.rdropWhile_prefix isBlank _
  rw [← String.length_toList, ← String.length_toList, toList_trim, trimChars]
  exact hend.length_le.trans hstart

namespace Expression.IsQuote

variable (h : IsQuote quote)
include h

/-- A quote is no blank, so that quoted text is not trimmed. -/
theorem not_isBlank : Text.isBlank quote = false := by
  rcases h with rfl | rfl <;> rfl

/-- Blanks between the quotes stay. -/
theorem trim_enclosed (s : String) : Text.trim (Text.enclosed quote s) = Text.enclosed quote s := by
  rw [Text.trim, Text.toList_enclosed, Text.trimChars_between h.not_isBlank h.not_isBlank,
    Text.enclosed]

omit h in
theorem unquote?_enclosed (cs : List Char) : unquote? quote (quote :: cs ++ [quote]) = some cs := by
  rw [List.cons_append, unquote?, if_pos ⟨rfl, List.getLast?_concat⟩, List.dropLast_concat]

/-- Text between quotes is a literal that stands for the text, whatever that holds. -/
theorem literal?_enclosed (cs : List Char) :
    literal? (quote :: cs ++ [quote]) = some (.string (String.ofList cs)) := by
  have hunquote : unquote? quote (quote :: cs ++ [quote]) = some cs := unquote?_enclosed cs
  rcases h with rfl | rfl
  · rw [literal?, hunquote]
  · -- The other quote is asked for first, and does not stand there.
    have hother : unquote? '\'' ('"' :: cs ++ ['"']) = none := unquote?_cons (by decide) _
    rw [literal?, hother, hunquote]

end Expression.IsQuote

/-- A text between quotes is an expression for itself, whatever it looks like. -/
theorem DataModel.evaluate_enclosed (m : DataModel) (h : Expression.IsQuote quote) (s : String) :
    m.evaluate (Text.enclosed quote s) = .ok (.string s) := by
  simp only [DataModel.evaluate, h.trim_enclosed, Text.toList_enclosed, h.literal?_enclosed,
    String.ofList_toList]

/-! ### Elements with one attribute -/

/-- The element with one attribute and no other. -/
def Element.bearing (el : Element) (name value : String) : Element :=
  { el with attributes := [(name, value)] }

theorem Element.attribute?_bearing (el : Element) (name value other : String) :
    (el.bearing name value).attribute? other = if name = other then some value else none := by
  by_cases h : name = other <;> simp [attribute?, bearing, h]

namespace Parameter

variable (p : Parameter)

/-- What is read of a text, unless nothing is. -/
def kept (s : String) : Option String := (some (p.reads s)).filter (· ≠ "")

/-- An attribute does not count if nothing of it is left to read. -/
theorem kept_eq_none_iff (s : String) : p.kept s = none ↔ p.reads s = "" := by
  simp [kept, Option.filter_eq_none_iff]

theorem eq_of_kept {s t : String} (h : p.kept s = some t) : p.reads s = t ∧ t ≠ "" := by
  rw [kept, Option.filter_eq_some_iff, decide_eq_true_iff, Option.some_inj] at h
  exact h

/-- An attribute stands for the parameter itself, under its first or its second name. -/
def IsLiteral (name : String) : Prop := name = p.literal ∨ p.alternative = some name

instance (name : String) : Decidable (p.IsLiteral name) :=
  inferInstanceAs (Decidable (name = p.literal ∨ p.alternative = some name))

theorem length_reads_le (s : String) : (p.reads s).length ≤ s.length := by
  rw [reads]
  split
  · exact Text.length_trim_le s
  · exact Nat.le_refl _

/-- Text between quotes is kept as it is. -/
theorem kept_enclosed (h : Expression.IsQuote quote) (s : String) :
    p.kept (Text.enclosed quote s) = some (Text.enclosed quote s) := by
  have hreads : p.reads (Text.enclosed quote s) = Text.enclosed quote s := by
    rw [reads, h.trim_enclosed, ite_self]
  rw [kept, hreads, Option.filter_some, if_pos (decide_eq_true (Text.enclosed_ne_empty quote s))]

/-- The quotes do not get lost when they are read. -/
theorem reads_ne_enclosed (s : String) : p.reads s ≠ Text.enclosed quote s := by
  intro h
  have hlength := p.length_reads_le s
  rw [h, Text.length_enclosed] at hlength
  omega

end Parameter

namespace Resolver

variable (el : Element) (m : DataModel) (action : String) {p : Parameter} (s : String)

/-- The resolver for an element with one attribute. -/
abbrev ofOne (name value : String) : Resolver Id := (el.bearing name value).resolver (some m) action

theorem literal?_ofOne (p : Parameter) (name value other : String) :
    (ofOne el m action name value).literal? other p.trims =
      if name = other then p.kept value else none := by
  rw [literal?, ofOne, Element.resolver, Element.attribute?_bearing]
  by_cases h : name = other
  · rw [if_pos h, if_pos h]
    rfl
  · rw [if_neg h, if_neg h]
    rfl

/-! ### The literal alone -/

/-- The second name of the literal adds nothing to the first. -/
theorem literalOf?_ofOne_literal (p : Parameter) :
    (ofOne el m action p.literal s).literalOf? p = p.kept s := by
  rw [literalOf?, literal?_ofOne, if_pos rfl]
  cases hkept : p.kept s with
  | some t => rfl
  | none =>
    rw [Option.none_or, Option.bind_eq_none_iff]
    intro name _
    rw [literal?_ofOne, hkept, ite_self]

variable {name : String} (hname : p.expression = some name)
include hname

theorem expressionOf?_ofOne (other value : String) :
    (ofOne el m action other value).expressionOf? p =
      if other = name then (p.kept value).map fun text => (name, text) else none := by
  rw [expressionOf?, hname, Option.bind_some, literal?_ofOne, apply_ite (Option.map _), Option.map_none]

/-- A literal that is the expression of its parameter as well is given in both ways. -/
theorem text?_literal : (ofOne el m action p.literal s).text? p =
    (p.kept s).elim ((ofOne el m action p.literal s).absent p) fun t =>
      if p.literal = name ∧ p.precedence = .exclusive then
        .error ((ofOne el m action p.literal s).conflict p t name t)
      else .ok (some t) := by
  rw [text?, resolve, literalOf?_ofOne_literal, expressionOf?_ofOne _ _ _ hname]
  by_cases hsame : p.literal = name
  · rw [if_pos hsame]
    cases p.kept s with
    | none => rfl
    | some t => exact congrArg pure (if_congr (and_iff_right hsame).symm rfl rfl)
  · rw [if_neg hsame]
    cases p.kept s with
    | none => rfl
    | some t => exact (if_neg fun h => hsame h.1).symm

/-! ### The quoted expression alone -/

variable {quote : Char} (hquote : Expression.IsQuote quote)
include hquote

/-- An attribute that holds quoted text gives it as the expression. -/
theorem expressionOf?_enclosed :
    (ofOne el m action name (Text.enclosed quote s)).expressionOf? p =
      some (name, Text.enclosed quote s) := by
  rw [expressionOf?_ofOne _ _ _ hname, if_pos rfl, p.kept_enclosed hquote, Option.map_some]

/-- The text between the quotes is what the expression comes to. -/
theorem text?_enclosed (hnot : ¬ p.IsLiteral name) :
    (ofOne el m action name (Text.enclosed quote s)).text? p = (accepted? p (.string s)).elim
      ((ofOne el m action p.literal s).absent p) fun t => .ok (some t) := by
  have hliteral : (ofOne el m action name (Text.enclosed quote s)).literalOf? p = none := by
    rw [literalOf?, literal?_ofOne, if_neg fun h => hnot (.inl h), Option.none_or,
      Option.bind_eq_none_iff]
    intro other hother
    rw [literal?_ofOne, if_neg]
    rintro rfl
    exact hnot (.inr hother)
  have hvalue : (ofOne el m action name (Text.enclosed quote s)).evaluate name
      (Text.enclosed quote s) = (pure (.ok (.string s)) : Id _) := by
    simp only [evaluate, ofOne, Element.resolver, Option.map_some, DataModel.evaluator,
      m.evaluate_enclosed hquote]
    rfl
  rw [text?, resolve, hliteral, expressionOf?_enclosed _ _ _ _ hname hquote]
  dsimp only
  rw [hvalue, pure_bind]
  dsimp only
  cases accepted? p (.string s) <;> rfl

/-- Where the attribute stands for the literal, the quotes are part of the text. -/
theorem text?_enclosed_literal (h : p.IsLiteral name) :
    (ofOne el m action name (Text.enclosed quote s)).text? p =
      if p.precedence = .exclusive then
        .error ((ofOne el m action p.literal s).conflict p (Text.enclosed quote s) name
          (Text.enclosed quote s))
      else .ok (some (Text.enclosed quote s)) := by
  have hliteral : (ofOne el m action name (Text.enclosed quote s)).literalOf? p =
      some (Text.enclosed quote s) := by
    rw [literalOf?, literal?_ofOne, p.kept_enclosed hquote]
    split
    · rfl
    · next hne =>
      rw [h.resolve_left hne, Option.none_or, Option.bind_some, literal?_ofOne, if_pos rfl,
        p.kept_enclosed hquote]
  rw [text?, resolve, hliteral, expressionOf?_enclosed _ _ _ _ hname hquote]
  rfl

omit hname hquote

/-! ### Both of them -/

/-- A conflict tells which expression it is about. -/
theorem find?_data_conflict (r : Resolver Id) (p : Parameter) (literal name text : String) :
    (r.conflict p literal name text).data.find? name = some (.string text) :=
  Dict.find?_insert_self ..

/-- An empty text between quotes counts where empty results do, which it never does as a literal. -/
theorem kept_eq_accepted?_iff (p : Parameter) :
    p.kept s = accepted? p (.string s) ↔ ¬ (s = "" ∧ p.KeepsEmpty) := by
  cases htaken : accepted? p (.string s) with
  | none =>
    have hdrops := (accepted?_eq_none_iff p _).mp htaken
    cases hdrops with
    | empty hs hempty hkeep =>
      cases hs
      exact iff_of_true ((p.kept_eq_none_iff s).mpr hempty) fun h => hkeep h.2
  | some t =>
    obtain ⟨⟨_, hs, rfl⟩, hkept⟩ := (accepted?_eq_some_iff p _ t).mp htaken
    cases hs
    by_cases hempty : p.reads s = ""
    · have hkeep : p.KeepsEmpty := hkept.resolve_left fun hne => hne hempty
      have hreads : p.reads s = s := by rw [Parameter.reads, hkeep.untrimmed]; rfl
      rw [(p.kept_eq_none_iff s).mpr hempty]
      exact iff_of_false (Option.some_ne_none _).symm fun h => h ⟨hreads.symm.trans hempty, hkeep⟩
    · have hsome : p.kept s = some (p.reads s) := by
        rw [Parameter.kept, Option.filter_some, if_pos (decide_eq_true hempty)]
      refine iff_of_true hsome fun h => hempty ?_
      rw [Parameter.reads, h.2.untrimmed]
      exact h.1

/-- What counts as none gives no text, so only the same text gives the same. -/
theorem elim_absent_inj {r : Resolver Id} {x y : Option String} :
    x.elim (r.absent p) (fun t => .ok (some t)) = y.elim (r.absent p) (fun t => .ok (some t)) ↔
      x = y := by
  have habsent := unfilled_absent p r
  refine ⟨fun h => ?_, fun h => by rw [h]⟩
  cases x with
  | none =>
    cases y with
    | none => rfl
    | some t => exact absurd h (habsent.ne_text t)
  | some t =>
    cases y with
    | none => exact absurd h.symm (habsent.ne_text t)
    | some u => cases h; rfl

/-- An attribute that stands for the literal as well shows that there are quotes. -/
theorem text?_ne_enclosed_literal {name : String} (hname : p.expression = some name) {quote : Char}
    (hquote : Expression.IsQuote quote) (h : p.IsLiteral name) :
    (ofOne el m action p.literal s).text? p ≠
      (ofOne el m action name (Text.enclosed quote s)).text? p := by
  have habsent := unfilled_absent p (ofOne el m action p.literal s)
  rw [text?_literal _ _ _ _ hname, text?_enclosed_literal _ _ _ _ hname hquote h]
  intro hsame
  cases hkept : p.kept s with
  | none =>
    rw [hkept, Option.elim_none] at hsame
    split at hsame
    · cases habsent.kind hsame
    · exact habsent.ne_text _ hsame
  | some t =>
    obtain ⟨hread, -⟩ := p.eq_of_kept hkept
    rw [hkept, Option.elim_some] at hsame
    have htext : t = Text.enclosed quote s := by
      split at hsame <;> split at hsame
      · have hdata := congrArg (fun e : ActionError => e.data.find? name) (Except.error.inj hsame)
        rw [find?_data_conflict, find?_data_conflict, Option.some_inj] at hdata
        exact Value.string.inj hdata
      · cases hsame
      · cases hsame
      · exact Option.some.inj (Except.ok.inj hsame)
    exact p.reads_ne_enclosed s (hread.trans htext)

/-- **A literal and a quoted expression come to the same.** A parameter that has an expression is
resolved to the same for an element that carries only its literal, whatever the text is, and for one
that carries only the expression, with that text in single or in double quotes. This fails just in
two cases: where the attribute of the expression stands for the literal as well, and where the text
is empty and an empty result counts. -/
theorem text?_enclosed_iff {name : String} (hname : p.expression = some name) {quote : Char}
    (hquote : Expression.IsQuote quote) :
    ((el.bearing p.literal s).resolver (some m) action).text? p =
        ((el.bearing name (Text.enclosed quote s)).resolver (some m) action).text? p ↔
      ¬ p.IsLiteral name ∧ ¬ (s = "" ∧ p.KeepsEmpty) := by
  by_cases h : p.IsLiteral name
  · exact iff_of_false (text?_ne_enclosed_literal el m action s hname hquote h) fun both => both.1 h
  · have hother : p.literal ≠ name := fun heq => h (.inl heq.symm)
    have hliteral : (ofOne el m action p.literal s).text? p = (p.kept s).elim
        ((ofOne el m action p.literal s).absent p) fun t => .ok (some t) := by
      rw [text?_literal _ _ _ _ hname]
      simp only [hother, false_and, if_false]
    rw [hliteral, text?_enclosed _ _ _ _ hname hquote h, elim_absent_inj, kept_eq_accepted?_iff,
      and_iff_right h]

/-- A text with a quote, with blanks at its ends, and with what looks like JSON inside. -/
def oddLiteral : String := " \x7b\"it's\": null\x7d\t"

/-- A parameter that is a content: a literal or an expression, but not both. -/
def oddParameter : Parameter := (Parameter.required "value").xorExpression "expr"

theorem text?_enclosed_oddLiteral :
    (((Element.named "t").bearing "value" oddLiteral).resolver (some .empty) "x:y").text?
        oddParameter =
      (((Element.named "t").bearing "expr" (Text.enclosed '"' oddLiteral)).resolver (some .empty)
        "x:y").text? oddParameter :=
  (text?_enclosed_iff _ _ _ oddLiteral (p := oddParameter) rfl (.inr rfl)).mpr
    ⟨by decide, fun h => absurd h.1 (by decide)⟩

/-- One attribute for both: the quotes become part of the text. -/
theorem text?_enclosed_of_isLiteral :
    (((Element.named "t").bearing "a" "x").resolver (some .empty) "x:y").text?
        ((Parameter.required "a").orExpression "a") = .ok (some "x") ∧
      (((Element.named "t").bearing "a" (Text.enclosed '\'' "x")).resolver (some .empty)
        "x:y").text? ((Parameter.required "a").orExpression "a") = .ok (some "'x'") :=
  ⟨rfl, rfl⟩

end Resolver

end MarkupActions
