import MarkupActions.Expression
import MarkupActions.Proofs.Json.RoundTrip

/-!
# MarkupActions.Proofs.CanonicalText

**Canonical texts are expressions.** The text that an attribute takes from a boolean, an integer, an
array or an object is a literal of its own kind, and no rule for expressions that is asked earlier
takes it for something else: it has no blanks and no quotes at its ends, and neither a word nor a
number begins like JSON. So the text is an expression for the value, whatever the variables are
(`DataModel.evaluate_attributeText`), and values with one text are one value.

The text of a string is the string itself, which may be any expression, and that of a floating-point
number may be an integer's. Inside arrays and objects strings are quoted; only the numbers have to be
left out there.
-/

namespace MarkupActions

/-! ### Texts without blanks at their ends -/

namespace Text

theorem dropWhile_isBlank {cs : List Char} (h : ∀ c ∈ cs.head?, isBlank c = false) :
    cs.dropWhile isBlank = cs := by
  cases cs with
  | nil => rfl
  | cons c cs => simp [h c rfl]

/-- What neither begins nor ends with a blank is not trimmed. -/
theorem trimChars_of_ends {cs : List Char} (hfirst : ∀ c ∈ cs.head?, isBlank c = false)
    (hlast : ∀ c ∈ cs.getLast?, isBlank c = false) : trimChars cs = cs := by
  have hreverse : cs.reverse.dropWhile isBlank = cs.reverse :=
    dropWhile_isBlank (by rwa [List.head?_reverse])
  rw [trimChars, dropWhile_isBlank hfirst, trimEnd, hreverse, List.reverse_reverse]

/-- What stands between two characters that are not blank keeps its blanks. -/
theorem trimChars_between {a b : Char} (ha : isBlank a = false) (hb : isBlank b = false)
    (cs : List Char) : trimChars (a :: cs ++ [b]) = a :: cs ++ [b] := by
  refine trimChars_of_ends (fun c hc => ?first) fun c hc => ?last
  case first => cases hc; exact ha
  case last =>
    rw [List.getLast?_append] at hc
    cases hc
    exact hb

theorem isBlank_of_isNumberChar {c : Char} (h : Json.isNumberChar c = true) :
    isBlank c = false := by
  simp only [Json.isNumberChar, isAsciiDigit, Bool.or_eq_true, Bool.and_eq_true,
    decide_eq_true_eq, Char.le_def, UInt32.le_iff_toNat_le, Char.toNat_val, ← Char.toNat_inj,
    Char.reduceToNat] at h
  simp only [isBlank, Bool.or_eq_false_iff, Bool.and_eq_false_iff, decide_eq_false_iff_not,
    beq_eq_false_iff_ne]
  omega

end Text

/-! ### Literals -/

namespace Expression

theorem unquote?_cons {quote c : Char} (h : c ≠ quote) (rest : List Char) :
    unquote? quote (c :: rest) = none := by
  rw [unquote?, if_neg fun both => h both.1]

/-- What begins like JSON is JSON. -/
theorem literal?_of_opening {c : Char} (h : c = '[' ∨ c = '\x7b') (rest : List Char) :
    literal? (c :: rest) = Json.ofChars? (c :: rest) := by
  have hquote : c ≠ '\'' ∧ c ≠ '"' := by rcases h with rfl | rfl <;> decide
  have hword : word? (c :: rest) = none := by rcases h with rfl | rfl <;> rfl
  have hnumber : number? (c :: rest) = none := by rcases h with rfl | rfl <;> rfl
  rw [literal?, unquote?_cons hquote.1, unquote?_cons hquote.2, hword, hnumber]
  exact if_pos h

theorem literal?_bool (b : Bool) : literal? (Value.bool b).textChars = some (.bool b) := by
  cases b <;> rfl

/-- Integers are read before anything else that begins with a digit or a minus. -/
theorem literal?_int (i : Int64) : literal? (Value.int i).textChars = some (.int i) := by
  have hnumeric := Json.numeric_signedDigits i.toInt
  have hread := Decimal.readInt?_signedDigits i
  rw [Value.textChars]
  generalize Decimal.signedDigits i.toInt = cs at hnumeric hread ⊢
  have hne : ∀ word : String, word.toList.all Json.isNumberChar = false → cs ≠ word.toList := by
    rintro word hother rfl
    exact Bool.eq_false_iff.1 hother (List.all_eq_true.2 hnumeric.2)
  have hword : word? cs = none := by
    rw [word?, if_neg (not_or_intro (hne _ (by decide)) (hne _ (by decide))),
      if_neg (hne _ (by decide)), if_neg (hne _ (by decide))]
  have hnumber : number? cs = some (.int i) := by simp only [number?, hread]
  obtain ⟨c, w, rfl⟩ := List.exists_cons_of_ne_nil hnumeric.1
  have hc := hnumeric.2 c List.mem_cons_self
  have hquote : c ≠ '\'' ∧ c ≠ '"' := by
    constructor <;> rintro rfl <;> exact absurd hc (by decide)
  rw [literal?, unquote?_cons hquote.1, unquote?_cons hquote.2, hword, hnumber]

end Expression

/-! ### Canonical texts -/

/-- A value with an expression in its canonical text: a boolean, an integer, or an array or object
that holds no floating-point number and is no deeper than JSON is read. -/
structure Value.Expressible (v : Value) : Prop where
  ordered : v.Ordered
  /-- The absence of a value has no text. -/
  notNull : v ≠ .null
  /-- The text of a string is not quoted. -/
  notText : ∀ s, v ≠ .string s
  hasNoFloat : v.hasFloat = false
  depth_le : v.depth ≤ 127

namespace Value.Expressible

variable {v : Value} (h : v.Expressible)
include h

/-- The text of a value is a literal that stands for the value. -/
theorem literal?_textChars : Expression.literal? v.textChars = some v := by
  have hread := Json.ofChars?_compact h.ordered h.hasNoFloat h.depth_le
  cases v with
  | null => exact absurd rfl h.notNull
  | bool b => exact Expression.literal?_bool b
  | int i => exact Expression.literal?_int i
  | float x => cases h.hasNoFloat
  | string s => exact absurd rfl (h.notText s)
  | array items =>
    rw [textChars, Json.compactChars, List.cons_append, Expression.literal?_of_opening (.inl rfl)]
    exact hread
  | object members =>
    rw [textChars, Json.compactChars, List.cons_append, Expression.literal?_of_opening (.inr rfl)]
    exact hread

/-- There are no blanks around the text. -/
theorem trimChars_textChars : Text.trimChars v.textChars = v.textChars := by
  cases v with
  | null => exact absurd rfl h.notNull
  | bool b => cases b <;> rfl
  | int i =>
    have hnumeric := Json.numeric_signedDigits i.toInt
    exact Text.trimChars_of_ends
      (fun c hc => Text.isBlank_of_isNumberChar (hnumeric.2 c (List.mem_of_mem_head? hc)))
      (fun c hc => Text.isBlank_of_isNumberChar (hnumeric.2 c (List.mem_of_getLast? hc)))
  | float x => cases h.hasNoFloat
  | string s => exact absurd rfl (h.notText s)
  | array items => exact Text.trimChars_between (by decide) (by decide) _
  | object members => exact Text.trimChars_between (by decide) (by decide) _

/-- Its text is the value's, over any variables. -/
theorem evaluate_text (m : DataModel) : m.evaluate v.text = .ok v := by
  have htext : v.text = String.ofList v.textChars := by
    cases v with
    | string s => exact absurd rfl (h.notText s)
    | _ => rfl
  have htrim : (Text.trim v.text).toList = v.textChars := by
    rw [Text.toList_trim, htext, String.toList_ofList, h.trimChars_textChars]
  simp only [DataModel.evaluate, htrim, h.literal?_textChars]

end Value.Expressible

/-- **Canonical texts are expressions.** A boolean, an integer, or an array or object without
floating-point numbers gives an attribute a text that is an expression for this very value, whatever
the variables are. So no other such value has the same text. -/
theorem DataModel.evaluate_attributeText {v : Value} (h : v.Expressible) :
    ∃ text, v.attributeText? = some text ∧ (∀ m : DataModel, m.evaluate text = .ok v) ∧
      ∀ w : Value, w.Expressible → w.attributeText? = some text → w = v := by
  have htext : ∀ w : Value, w.Expressible → w.attributeText? = some w.text := by
    intro w hw
    cases w with
    | null => exact absurd rfl hw.notNull
    | _ => rfl
  refine ⟨v.text, htext v h, h.evaluate_text, ?_⟩
  intro w hw hsame
  rw [htext w hw, Option.some.injEq] at hsame
  have hvalue : (.ok w : Except DataModelError Value) = .ok v := by
    rw [← hw.evaluate_text .empty, hsame, h.evaluate_text]
  exact Except.ok.inj hvalue

/-- Members with the least integer, the absence of a value, a key that needs an escape, and strings
that look like other things. -/
def Value.oddMembers : Entries Value :=
  [("", .int Int64.minValue), ("\"", .array [.null, .string " 'a' ", .string "\x01[1.5]"])]

/-- The text of an object with these members. The control character is named by its number. -/
def Value.oddText : String :=
  "\x7b\"\":-9223372036854775808,\"\\\"\":[null,\" 'a' \",\"\\u0001[1.5]\"]\x7d"

theorem DataModel.evaluate_attributeText_odd :
    (Value.object Value.oddMembers).Expressible ∧
      (Value.object Value.oddMembers).attributeText? = some Value.oddText ∧
      ∀ m : DataModel, m.evaluate Value.oddText = .ok (.object Value.oddMembers) := by
  have hascending : Value.oddMembers.Ascending := List.pairwise_pair.2 (by decide)
  have hordered : (Value.object Value.oddMembers).Ordered :=
    ⟨hascending, trivial, ⟨trivial, trivial, trivial, trivial⟩, trivial⟩
  have hexpressible : (Value.object Value.oddMembers).Expressible :=
    ⟨hordered, nofun, nofun, rfl, by decide⟩
  have htext : (Value.object Value.oddMembers).attributeText? = some Value.oddText := rfl
  obtain ⟨text, hsame, hevaluate, -⟩ := evaluate_attributeText hexpressible
  cases htext.symm.trans hsame
  exact ⟨hexpressible, htext, hevaluate⟩

end MarkupActions
