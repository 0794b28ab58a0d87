import Mathlib.Data.List.Forall2
import Mathlib.Tactic.IntervalCases
import MarkupActions.Json.Reader
import MarkupActions.Proofs.Json.Printing

/-!
# MarkupActions.Proofs.Json.RoundTrip

**Compact JSON reads back.** A value without floating-point numbers is read from its compact JSON as
the value it was (`ofChars?_compact`), up to the depth that the reader admits. The text is cut into
tokens as it is cut into lexemes, one for one, since every word in it is read to its end and no
further. The machine that reads the tokens needs no more open arrays and objects than the value has
levels, and inserts members in ascending order, each behind those that are there.
-/

namespace MarkupActions

/-! ### Integers -/

namespace Decimal

/-- The digits of a number are read back as the number. -/
theorem natOfDigits_digits (n : Nat) : natOfDigits (digits n) = n := Nat.ofDigitChars_ten_toDigits

theorem isDigits_digits (n : Nat) : isDigits (digits n) = true := by
  have hne : digits n ≠ [] := Nat.toDigits_ne_nil
  rw [isDigits, Bool.and_eq_true, Bool.not_eq_true', List.isEmpty_eq_false_iff, List.all_eq_true]
  exact ⟨hne, fun c hc => Json.isAsciiDigit_of_mem_digits hc⟩

/-- The digits of a positive number do not begin with a zero. -/
theorem head?_digits_ne_zero {n : Nat} (h : 0 < n) : (digits n).head? ≠ some '0' := by
  induction n using Nat.strongRecOn with
  | _ n ih =>
    by_cases hsmall : n < 10
    · rw [digits, Nat.toDigits_of_lt_base hsmall]
      interval_cases n <;> decide
    · have happend : digits n = digits (n / 10) ++ [(n % 10).digitChar] :=
        Nat.toDigits_of_base_le (by decide) (by omega)
      have hne : digits (n / 10) ≠ [] := Nat.toDigits_ne_nil
      rw [happend, List.head?_append_of_ne_nil _ hne]
      exact ih (n / 10) (by omega) (by omega)

theorem takeSign_digits (n : Nat) : takeSign (digits n) = (false, digits n) := by
  have hdigit : ∀ c ∈ digits n, Text.isAsciiDigit c = true :=
    fun c hc => Json.isAsciiDigit_of_mem_digits hc
  unfold takeSign
  split
  · next heq => exact absurd (hdigit '-' (heq ▸ List.mem_cons_self)) (by decide)
  · next heq => exact absurd (hdigit '+' (heq ▸ List.mem_cons_self)) (by decide)
  · rfl

theorem takeSign_signedDigits (i : Int) :
    takeSign (signedDigits i) = (decide (i < 0), digits i.natAbs) := by
  unfold signedDigits
  split
  · next h => rw [decide_eq_true h]; rfl
  · next h => rw [decide_eq_false h, takeSign_digits]

/-- A sign and the digits of the magnitude stand for the integer. -/
theorem ofDigits_natAbs (i : Int) :
    (if decide (i < 0) then -(natOfDigits (digits i.natAbs) : Int)
      else natOfDigits (digits i.natAbs)) = i := by
  rw [natOfDigits_digits]
  split
  · next h => have := of_decide_eq_true h; omega
  · next h => have := of_decide_eq_false (Bool.eq_false_iff.2 h); omega

theorem fitsInt64_toInt (i : Int64) : fitsInt64 i.toInt = true := by
  rw [fitsInt64, Bool.and_eq_true, decide_eq_true_eq, decide_eq_true_eq]
  exact ⟨i.minValue_le_toInt, i.toInt_le⟩

/-- An integer is read from its digits. -/
theorem readInt?_signedDigits (i : Int64) : readInt? (signedDigits i.toInt) = some i := by
  rw [readInt?, takeSign_signedDigits]
  simp only [isDigits_digits, if_true, ofDigits_natAbs, fitsInt64_toInt, Int64.ofInt_toInt]

end Decimal

namespace Json

variable {c : Char} {w rest : List Char}

theorem EndsWord.not_digit (h : EndsWord rest) : ∀ c ∈ rest.head?, Text.isAsciiDigit c = false := by
  intro c hc
  have hword := h c hc
  rw [Bool.eq_false_iff] at hword ⊢
  exact fun hdigit => hword (isWordChar_of_isNumberChar (by simp [isNumberChar, hdigit]))

/-- Digits are taken off a text that goes on with something else. -/
theorem spanDigits_digits (n : Nat) (hrest : EndsWord rest) :
    spanDigits (Decimal.digits n ++ rest) = (Decimal.digits n, rest) := by
  have hdigits : ∀ c ∈ Decimal.digits n, Text.isAsciiDigit c = true :=
    fun c hc => isAsciiDigit_of_mem_digits hc
  have hnone : rest.takeWhile Text.isAsciiDigit = [] ∧ rest.dropWhile Text.isAsciiDigit = rest := by
    cases rest with
    | nil => exact ⟨rfl, rfl⟩
    | cons c rest => simp [hrest.not_digit c rfl]
  rw [spanDigits, List.takeWhile_append_of_pos hdigits, List.dropWhile_append_of_pos hdigits,
    hnone.1, hnone.2, List.append_nil]

theorem scanWhole?_digits (n : Nat) (hrest : EndsWord rest) :
    scanWhole? (Decimal.digits n ++ rest) = some (Decimal.digits n, rest) := by
  have hne : Decimal.digits n ≠ [] := Nat.toDigits_ne_nil
  unfold scanWhole?
  split
  · next after heq =>
    -- Only zero itself begins with a zero.
    rcases Nat.eq_zero_or_pos n with rfl | hpos
    · cases heq
      rfl
    · refine absurd ?_ (Decimal.head?_digits_ne_zero hpos)
      rw [← List.head?_append_of_ne_nil _ hne, heq]
      rfl
  · rw [spanDigits_digits n hrest, List.isEmpty_eq_false_iff.2 hne]
    rfl

theorem scanFraction?_of_endsWord (hrest : EndsWord rest) :
    scanFraction? rest = some (none, rest) := by
  unfold scanFraction?
  split
  · exact absurd (hrest '.' rfl) (by decide)
  · rfl

theorem scanExponent?_of_endsWord (hrest : EndsWord rest) :
    scanExponent? rest = some (none, rest) := by
  unfold scanExponent?
  split
  · next c after =>
    have hmark : ¬ (c = 'e' ∨ c = 'E') := by
      rintro (rfl | rfl) <;> exact absurd (hrest _ rfl) (by decide)
    rw [if_neg hmark]
  · rfl

/-- An integer is scanned to the end of its digits. -/
theorem scanNumber?_signedDigits (i : Int) (hrest : EndsWord rest) :
    scanNumber? (Decimal.signedDigits i ++ rest) =
      some (⟨decide (i < 0), Decimal.digits i.natAbs, none, none⟩, rest) := by
  have hwhole := scanWhole?_digits i.natAbs hrest
  have hfraction := scanFraction?_of_endsWord hrest
  have hexponent := scanExponent?_of_endsWord hrest
  unfold Decimal.signedDigits
  split
  · next h => simp [scanNumber?, hwhole, hfraction, hexponent, h]
  · next h =>
    have hhead : ∀ after, Decimal.digits i.natAbs ++ rest ≠ '-' :: after := by
      intro after heq
      have hminus : '-' ∈ Decimal.digits i.natAbs := by
        have hne : Decimal.digits i.natAbs ≠ [] := Nat.toDigits_ne_nil
        refine List.mem_of_mem_head? ?_
        rw [← List.head?_append_of_ne_nil _ hne, heq]
        rfl
      exact absurd (isAsciiDigit_of_mem_digits hminus) (by decide)
    simp [scanNumber?, hwhole, hfraction, hexponent, h]

/-- What was scanned stands for the integer. -/
theorem value?_signedDigits (i : Int64) :
    Parts.value? ⟨decide (i.toInt < 0), Decimal.digits i.toInt.natAbs, none, none⟩ =
      some (.int i) := by
  have hzero : (decide (i.toInt < 0) &&
      Decimal.natOfDigits (Decimal.digits i.toInt.natAbs) == 0) = false := by
    rw [Decimal.natOfDigits_digits, Bool.and_eq_false_iff, decide_eq_false_iff_not,
      beq_eq_false_iff_ne]
    omega
  have hint : Parts.int? ⟨decide (i.toInt < 0), Decimal.digits i.toInt.natAbs, none, none⟩ =
      some i := by
    simp only [Parts.int?, Decimal.ofDigits_natAbs, Decimal.fitsInt64_toInt, hzero,
      Option.isNone_none, Bool.and_self, Bool.not_false, if_true, Int64.ofInt_toInt]
  rw [Parts.value?, hint]

/-! ### Lexemes as tokens -/

/-- Whether a lexeme is scanned as the token. A word is, if it is read to its end wherever none goes
on behind it. -/
inductive Lexeme.Is : Lexeme → Token → Prop where
  | mark {c : Char} {t : Token} (h : Token.ofMark? c = some t) : Is (.mark c) t
  | text (s : String) : Is (.text s) (.text s)
  | word {c : Char} {w : List Char} {v : Value} (h : ∀ rest, EndsWord rest →
      Token.scanOne? c (w ++ rest) = some (.scalar v, rest)) : Is (.word (c :: w)) (.scalar v)

theorem endsWord_dropWhile (cs : List Char) : EndsWord (cs.dropWhile isWordChar) := by
  intro c hc
  have hhead := List.head?_dropWhile_not isWordChar cs
  rw [Option.mem_def.1 hc] at hhead
  exact Bool.eq_false_iff.2 (by simpa using hhead)

/-- Where a lexeme is taken off, so is the token that it is. -/
theorem Lexeme.Is.scanOne? {l : Lexeme} {t : Token} {after : List Char} (h : l.Is t)
    (hscan : Lexeme.scanOne? c rest = some (l, after)) :
    Token.scanOne? c rest = some (t, after) := by
  unfold Lexeme.scanOne? at hscan
  split at hscan
  · cases hscan
    cases h with
    | mark hmark => rw [Token.scanOne?, hmark]
  · next hmark =>
    have hnone : Token.ofMark? c = none := by simpa [isMark] using hmark
    split at hscan
    · next hquote =>
      simp only [bind, Option.bind_eq_some_iff, pure, Option.some.injEq, Prod.mk.injEq] at hscan
      obtain ⟨⟨parts, r⟩, hparts, cs, hjoin, rfl, rfl⟩ := hscan
      cases h with
      | text =>
        rw [Token.scanOne?, hnone]
        simp [hquote, hparts, hjoin]
    · cases hscan
      cases h with
      | word hword =>
        have hread := hword _ (endsWord_dropWhile rest)
        rwa [List.takeWhile_append_dropWhile] at hread

/-- A text is cut into tokens where it is cut into lexemes. -/
theorem Token.scan?_of_lexemes {cs : List Char} {ls : List Lexeme} {ts : List Token}
    (hscan : Lexeme.scan? cs = some ls) (hsame : List.Forall₂ Lexeme.Is ls ts) :
    Token.scan? cs = some ts := by
  fun_induction Lexeme.scan? cs generalizing ls ts with
  | case1 =>
    cases hscan
    cases hsame
    simp [Token.scan?]
  | case2 c rest hspace ih => rw [Token.scan?, if_pos hspace, ih hscan hsame]
  | case3 => cases hscan
  | case4 c rest hspace l after hone hle ih =>
    obtain ⟨others, hothers, rfl⟩ := Option.map_eq_some_iff.1 hscan
    cases hsame with
    | @cons _ t _ ts hfirst hrest =>
      have htoken := hfirst.scanOne? hone
      rw [Token.scan?, if_neg hspace]
      split
      · next hnone => cases htoken.symm.trans hnone
      · next hsome =>
        cases htoken.symm.trans hsome
        rw [ih hothers hrest, Option.map_some]

/-- The words of JSON are read to their ends. -/
theorem Lexeme.is_null : Is (.word "null".toList) (.scalar .null) :=
  .word (c := 'n') (w := ['u', 'l', 'l']) fun _ _ => rfl

theorem Lexeme.is_true : Is (.word "true".toList) (.scalar (.bool true)) :=
  .word (c := 't') (w := ['r', 'u', 'e']) fun _ _ => rfl

theorem Lexeme.is_false : Is (.word "false".toList) (.scalar (.bool false)) :=
  .word (c := 'f') (w := ['a', 'l', 's', 'e']) fun _ _ => rfl

/-- So are the digits of an integer. -/
theorem Lexeme.is_int (i : Int64) :
    Is (.word (Decimal.signedDigits i.toInt)) (.scalar (.int i)) := by
  have hnumeric := numeric_signedDigits i.toInt
  have hscan : ∀ rest, EndsWord rest → scanNumber? (Decimal.signedDigits i.toInt ++ rest) = _ :=
    fun rest => scanNumber?_signedDigits i.toInt
  obtain ⟨c, w, hw⟩ := List.exists_cons_of_ne_nil hnumeric.1
  rw [hw] at hscan ⊢
  have hnumber : isNumberChar c = true := hnumeric.2 c (hw ▸ List.mem_cons_self)
  have hword := isWordChar_of_isNumberChar hnumber
  simp only [isWordChar, isMark, Bool.and_eq_true, Bool.not_eq_true', Option.isSome_eq_false_iff,
    Option.isNone_iff_eq_none, decide_eq_true_eq] at hword
  -- No word of JSON begins like a number.
  have hnone : ∀ after, scanWord? (c :: after) = none := by
    intro after
    unfold scanWord?
    split
    · next heq => cases heq; exact absurd hnumber (by decide)
    · next heq => cases heq; exact absurd hnumber (by decide)
    · next heq => cases heq; exact absurd hnumber (by decide)
    · rfl
  refine .word fun rest hrest => ?_
  have hread := hscan rest hrest
  rw [List.cons_append] at hread
  rw [Token.scanOne?, hword.1.2, if_neg hword.2, hnone, hread]
  simp [value?_signedDigits]

end Json

/-! ### The tokens of a value -/

namespace Value

open Json (Token)

mutual

/-- Whether there is a floating-point number in the value. -/
def hasFloat : Value → Bool
  | .float _ => true
  | .array items => hasFloatItems items
  | .object members => hasFloatMembers members
  | .null | .bool _ | .int _ | .string _ => false

/-- Whether there is a floating-point number in the items of an array. -/
def hasFloatItems : List Value → Bool
  | [] => false
  | v :: rest => v.hasFloat || hasFloatItems rest

/-- Whether there is one in the members of an object. -/
def hasFloatMembers : List (String × Value) → Bool
  | [] => false
  | (_, v) :: rest => v.hasFloat || hasFloatMembers rest

end

mutual

/-- How many arrays and objects are nested in each other, this one included. -/
def depth : Value → Nat
  | .array items => depthOfItems items + 1
  | .object members => depthOfMembers members + 1
  | .null | .bool _ | .int _ | .float _ | .string _ => 0

/-- The depth of the deepest item. -/
def depthOfItems : List Value → Nat
  | [] => 0
  | v :: rest => max v.depth (depthOfItems rest)

/-- The depth of the deepest member. -/
def depthOfMembers : List (String × Value) → Nat
  | [] => 0
  | (_, v) :: rest => max v.depth (depthOfMembers rest)

end

mutual

/-- The tokens of the JSON of a value without floating-point numbers. -/
def tokens : Value → List Token
  | .array items => .openArray :: tokensOfItems items ++ [.closeArray]
  | .object members => .openObject :: tokensOfMembers members ++ [.closeObject]
  | .string s => [.text s]
  | .null => [.scalar .null]
  | .bool b => [.scalar (.bool b)]
  | .int i => [.scalar (.int i)]
  | .float x => [.scalar (.float x)]

/-- The tokens of the items of an array, with commas between them. -/
def tokensOfItems : List Value → List Token
  | [] => []
  | [v] => v.tokens
  | v :: rest => v.tokens ++ .comma :: tokensOfItems rest

/-- The tokens of the members of an object, with their keys and with commas between them. -/
def tokensOfMembers : List (String × Value) → List Token
  | [] => []
  | [(k, v)] => .text k :: .colon :: v.tokens
  | (k, v) :: rest => .text k :: .colon :: v.tokens ++ .comma :: tokensOfMembers rest

end

open Json (Lexeme)

mutual

/-- They are the lexemes of its tree, one for one. -/
theorem is_tokens : ∀ v : Value, v.hasFloat = false →
    List.Forall₂ Lexeme.Is v.tree.lexemes v.tokens
  | .null, _ => .cons Lexeme.is_null .nil
  | .bool true, _ => .cons Lexeme.is_true .nil
  | .bool false, _ => .cons Lexeme.is_false .nil
  | .int i, _ => .cons (Lexeme.is_int i) .nil
  | .float x, h => by cases h
  | .string s, _ => .cons (.text s) .nil
  | .array items, h => by
      rw [tree, Json.Tree.lexemes, tokens]
      exact .cons (.mark rfl) (List.rel_append (is_tokensOfItems items h) (.cons (.mark rfl) .nil))
  | .object members, h => by
      rw [tree, Json.Tree.lexemes, tokens]
      exact .cons (.mark rfl)
        (List.rel_append (is_tokensOfMembers members h) (.cons (.mark rfl) .nil))

theorem is_tokensOfItems : ∀ vs : List Value, hasFloatItems vs = false →
    List.Forall₂ Lexeme.Is (Json.Tree.lexemesOfItems (treesOfItems vs)) (tokensOfItems vs)
  | [], _ => .nil
  | [v], h => is_tokens v (by simpa [hasFloatItems] using h)
  | v :: v' :: vs, h => by
      rw [hasFloatItems, Bool.or_eq_false_iff] at h
      exact List.rel_append (is_tokens v h.1) (.cons (.mark rfl) (is_tokensOfItems (v' :: vs) h.2))

theorem is_tokensOfMembers : ∀ ms : List (String × Value), hasFloatMembers ms = false →
    List.Forall₂ Lexeme.Is (Json.Tree.lexemesOfMembers (treesOfMembers ms)) (tokensOfMembers ms)
  | [], _ => .nil
  | [(k, v)], h =>
      .cons (.text k) (.cons (.mark rfl) (is_tokens v (by simpa [hasFloatMembers] using h)))
  | (k, v) :: m :: ms, h => by
      rw [hasFloatMembers, Bool.or_eq_false_iff] at h
      exact .cons (.text k) (.cons (.mark rfl) (List.rel_append (is_tokens v h.1)
        (.cons (.mark rfl) (is_tokensOfMembers (m :: ms) h.2))))

end

end Value

/-! ### Reading the tokens -/

namespace Json.Machine

open Value

/-- No value begins with the end of an array. -/
theorem run?_firstItem (v : Value) (vs : List Value) (stack : List Frame) (rest : List Token) :
    run? ⟨.firstItem, stack⟩ (tokensOfItems (v :: vs) ++ rest) =
      run? ⟨.value, stack⟩ (tokensOfItems (v :: vs) ++ rest) := by
  cases vs <;> cases v <;> simp [tokensOfItems, tokens, run?, step]

/-- An object with members begins with a key. -/
theorem run?_firstKey (m : String × Value) (ms : List (String × Value)) (stack : List Frame)
    (rest : List Token) :
    run? ⟨.firstKey, stack⟩ (tokensOfMembers (m :: ms) ++ rest) =
      run? ⟨.key [], stack⟩ (tokensOfMembers (m :: ms) ++ rest) := by
  obtain ⟨k, v⟩ := m
  cases ms <;> simp [tokensOfMembers, run?, step]

mutual

/-- The machine reads a value off its tokens, whatever follows, if there is room on the stack for as
many levels as the value has. -/
theorem run?_tokens : ∀ (v : Value) (stack : List Frame) (rest : List Token), v.Ordered →
    stack.length + v.depth ≤ maxDepth →
    run? ⟨.value, stack⟩ (v.tokens ++ rest) = run? ⟨.after v, stack⟩ rest
  | .null, stack, rest, _, _ => rfl
  | .bool b, stack, rest, _, _ => rfl
  | .int i, stack, rest, _, _ => rfl
  | .float x, stack, rest, _, _ => rfl
  | .string s, stack, rest, _, _ => rfl
  | .array [], stack, rest, _, hroom => by
      rw [depth] at hroom
      have hlt : stack.length < maxDepth := by omega
      simp [tokens, tokensOfItems, run?, step, beginValue, hlt]
  | .array (v :: vs), stack, rest, hord, hroom => by
      rw [depth] at hroom
      have hlt : stack.length < maxDepth := by omega
      have hitems := run?_tokensOfItems (v :: vs) (List.cons_ne_nil v vs) [] stack rest hord
        (by omega)
      have hfirst := run?_firstItem v vs (.items [] :: stack) (.closeArray :: rest)
      simpa [tokens, run?, step, beginValue, hlt] using hfirst.trans hitems
  | .object [], stack, rest, _, hroom => by
      rw [depth] at hroom
      have hlt : stack.length < maxDepth := by omega
      simp [tokens, tokensOfMembers, run?, step, beginValue, hlt]
  | .object (m :: ms), stack, rest, hord, hroom => by
      rw [depth] at hroom
      have hlt : stack.length < maxDepth := by omega
      have hmembers := run?_tokensOfMembers (m :: ms) (List.cons_ne_nil m ms) [] stack rest hord.1
        hord.2 (by omega)
      have hfirst := run?_firstKey m ms stack (.closeObject :: rest)
      simpa [tokens, run?, step, beginValue, hlt] using hfirst.trans hmembers

/-- The items of an array that has been begun, and its end. -/
theorem run?_tokensOfItems : ∀ vs : List Value, vs ≠ [] → ∀ (done : List Value)
    (stack : List Frame) (rest : List Token), OrderedItems vs →
    stack.length + 1 + depthOfItems vs ≤ maxDepth →
    run? ⟨.value, .items done :: stack⟩ (tokensOfItems vs ++ .closeArray :: rest) =
      run? ⟨.after (.array (done.reverse ++ vs)), stack⟩ rest
  | [], hne, done, stack, rest, _, _ => absurd rfl hne
  | [v], _, done, stack, rest, hord, hroom => by
      rw [depthOfItems] at hroom
      rw [tokensOfItems, run?_tokens v _ _ hord.1 (by rw [List.length_cons]; omega)]
      simp [run?, step, continueAfter]
  | v :: v' :: vs, _, done, stack, rest, hord, hroom => by
      rw [depthOfItems] at hroom
      have hrest := run?_tokensOfItems (v' :: vs) (List.cons_ne_nil v' vs) (v :: done) stack rest
        hord.2 (by omega)
      rw [tokensOfItems, List.append_assoc,
        run?_tokens v _ _ hord.1 (by rw [List.length_cons]; omega)]
      · simpa [run?, step, continueAfter] using hrest
      · exact List.cons_ne_nil v' vs

/-- The members of an object that has been begun, and its end. They are in order with those that are
there already. -/
theorem run?_tokensOfMembers : ∀ ms : List (String × Value), ms ≠ [] →
    ∀ (done : Entries Value) (stack : List Frame) (rest : List Token),
    Entries.Ascending (done ++ ms) → OrderedMembers ms →
    stack.length + 1 + depthOfMembers ms ≤ maxDepth →
    run? ⟨.key done, stack⟩ (tokensOfMembers ms ++ .closeObject :: rest) =
      run? ⟨.after (.object (done ++ ms)), stack⟩ rest
  | [], hne, done, stack, rest, _, _, _ => absurd rfl hne
  | [(k, v)], _, done, stack, rest, hasc, hord, hroom => by
      rw [depthOfMembers] at hroom
      have hvalue := run?_tokens v (.members done k :: stack) (.closeObject :: rest) hord.1
        (by rw [List.length_cons]; omega)
      have hinsert := Entries.Ascending.insert_next hasc
      simpa [tokensOfMembers, run?, step, continueAfter, hinsert] using hvalue
  | (k, v) :: m :: ms, _, done, stack, rest, hasc, hord, hroom => by
      rw [depthOfMembers] at hroom
      have hvalue := run?_tokens v (.members done k :: stack)
        (.comma :: (tokensOfMembers (m :: ms) ++ .closeObject :: rest)) hord.1
        (by rw [List.length_cons]; omega)
      have hcomma : run? ⟨.after v, .members done k :: stack⟩
          (.comma :: (tokensOfMembers (m :: ms) ++ .closeObject :: rest)) =
          run? ⟨.key (done ++ [(k, v)]), stack⟩
            (tokensOfMembers (m :: ms) ++ .closeObject :: rest) := by
        simp [run?, step, continueAfter, Entries.Ascending.insert_next hasc]
      have hrest := run?_tokensOfMembers (m :: ms) (List.cons_ne_nil m ms) (done ++ [(k, v)]) stack
        rest (by simpa using hasc) hord.2 (by omega)
      simpa [tokensOfMembers, run?, step] using (hvalue.trans hcomma).trans hrest

end

end Json.Machine

/-- **Compact JSON reads back.** A value without floating-point numbers is what its compact JSON
stands for, if it is no deeper than the reader admits. -/
theorem Json.ofChars?_compact {v : Value} (hord : v.Ordered) (hfloat : v.hasFloat = false)
    (hdepth : v.depth ≤ maxDepth) : ofChars? (compactChars v) = some v := by
  have hlexemes : Lexeme.scan? (compactChars v) = some v.tree.lexemes := by
    have hcuts := cuts_compact v [] .nil
    rw [List.append_nil] at hcuts
    simp [hcuts, Lexeme.scan?]
  have htokens := Token.scan?_of_lexemes hlexemes (v.is_tokens hfloat)
  have hrun := Machine.run?_tokens v [] [] hord (by simpa using hdepth)
  rw [List.append_nil] at hrun
  simp [ofChars?, htokens, ofTokens?, hrun, Machine.run?]

end MarkupActions
