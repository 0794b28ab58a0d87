import MarkupActions.Proofs.Json.Escaping
import MarkupActions.Proofs.Json.Tree

/-!
# MarkupActions.Proofs.Json.Printing

**What is printed has the shape of the value.** The compact and the indented JSON of a value are cut
into the same lexemes, those of one tree (`Value.tree`): the marks stand between the parts, white
space counts for nothing, texts read back, and every scalar is a word of its own. So what a printed
text holds at a path is told by what the value holds there.

A number that has no JSON is printed like `null`. Every other number is printed in digits, so it is
never mistaken for it (`HoldsNull` of both forms, `holdsNull_compact_iff` and
`holdsNull_pretty_iff`).
-/

namespace MarkupActions

namespace Json

variable {c : Char} {cs ds rest : List Char} {ls ms : List Lexeme}

/-! ### Cutting -/

/-- A text that does not go on with a word. -/
def EndsWord (cs : List Char) : Prop := ∀ c ∈ cs.head?, isWordChar c = false

theorem EndsWord.nil : EndsWord [] := nofun

theorem EndsWord.cons (h : isWordChar c = false) : EndsWord (c :: cs) := by
  intro d hd
  cases hd
  exact h

theorem EndsWord.append (h : EndsWord cs) (hrest : EndsWord rest) : EndsWord (cs ++ rest) := by
  cases cs with
  | nil => exact hrest
  | cons c cs => exact .cons (h c rfl)

/-- Where no word goes on, the characters are cut into the lexemes. -/
def Cuts (cs : List Char) (ls : List Lexeme) : Prop :=
  ∀ rest, EndsWord rest → Lexeme.scan? (cs ++ rest) = (Lexeme.scan? rest).map (ls ++ ·)

theorem scan?_cons (hspace : isSpace c = false) : Lexeme.scan? (c :: rest) =
    match Lexeme.scanOne? c rest with
    | none => none
    | some (l, after) => (Lexeme.scan? after).map (l :: ·) := by
  rw [Lexeme.scan?, hspace]
  simp only [Bool.false_eq_true, if_false]
  split
  · next h => rw [h]
  · next l after h => rw [h]

namespace Cuts

theorem nil : Cuts [] [] := by
  intro rest _
  simp

/-- Texts that are cut can be put together, where the second ends a word of the first. -/
theorem append (h : Cuts cs ls) (h' : Cuts ds ms) (hends : EndsWord ds) :
    Cuts (cs ++ ds) (ls ++ ms) := by
  intro rest hrest
  rw [List.append_assoc, h _ (hends.append hrest), h' _ hrest, Option.map_map]
  congr 1
  funext ns
  exact (List.append_assoc ls ms ns).symm

/-- Nothing is cut at white space. -/
theorem space (hspace : isSpace c = true) (h : Cuts cs ls) : Cuts (c :: cs) ls := by
  intro rest hrest
  rw [List.cons_append, Lexeme.scan?, if_pos hspace]
  exact h rest hrest

/-- A mark is a lexeme by itself. -/
theorem mark (hmark : isMark c = true) (hspace : isSpace c = false) (h : Cuts cs ls) :
    Cuts (c :: cs) (.mark c :: ls) := by
  intro rest hrest
  rw [List.cons_append, scan?_cons hspace, Lexeme.scanOne?, if_pos hmark]
  simp [h rest hrest, Function.comp_def]

/-- A text between quotes is a lexeme by itself, whatever it holds. -/
theorem text (s : String) (h : Cuts cs ls) : Cuts (Json.text s ++ cs) (.text s :: ls) := by
  intro rest hrest
  have hscan : Lexeme.scanOne? '"' (s.toList.flatMap escapeChar ++ '"' :: (cs ++ rest)) =
      some (.text s, cs ++ rest) := by
    rw [Lexeme.scanOne?, if_neg (by decide), if_pos rfl, scanText?_escaped]
    simp [joinParts?_partOf]
  have htext : Json.text s ++ cs ++ rest =
      '"' :: (s.toList.flatMap escapeChar ++ '"' :: (cs ++ rest)) := by
    simp [Json.text]
  rw [htext, scan?_cons (by decide), hscan]
  simp [h rest hrest, Function.comp_def]

/-- A run of word characters is one lexeme. -/
theorem word (hne : cs ≠ []) (hword : ∀ c ∈ cs, isWordChar c = true) : Cuts cs [.word cs] := by
  intro rest hrest
  obtain ⟨c, w, rfl⟩ := List.exists_cons_of_ne_nil hne
  have hw : ∀ d ∈ w, isWordChar d = true := fun d hd => hword d (List.mem_cons_of_mem c hd)
  have hc := hword c List.mem_cons_self
  simp only [isWordChar, Bool.and_eq_true, Bool.not_eq_true', decide_eq_true_eq] at hc
  have htake : (w ++ rest).takeWhile isWordChar = w := by
    rw [List.takeWhile_append_of_pos hw]
    cases rest with
    | nil => simp
    | cons d rest => simp [hrest d rfl]
  have hdrop : (w ++ rest).dropWhile isWordChar = rest := by
    rw [List.dropWhile_append_of_pos hw]
    cases rest with
    | nil => rfl
    | cons d rest => simp [hrest d rfl]
  rw [List.cons_append, scan?_cons hc.1.1, Lexeme.scanOne?, hc.1.2, if_neg Bool.false_ne_true,
    if_neg hc.2, htake, hdrop]
  rfl

end Cuts

/-! ### Numbers -/

/-- The characters that numbers are written in. -/
def isNumberChar (c : Char) : Bool :=
  Text.isAsciiDigit c || c = '-' || c = '+' || c = '.' || c = 'e'

theorem isWordChar_of_isNumberChar (h : isNumberChar c = true) : isWordChar c = true := by
  by_cases hother : c ∈ [' ', '\t', '\n', '\r', '[', ']', '\x7b', '\x7d', ',', ':', '"']
  · simp only [List.mem_cons, List.not_mem_nil, or_false] at hother
    rcases hother with rfl | rfl | rfl | rfl | rfl | rfl | rfl | rfl | rfl | rfl | rfl <;>
      exact absurd h (by decide)
  · simp only [List.mem_cons, List.not_mem_nil, or_false, not_or] at hother
    simp [isWordChar, isSpace, isMark, Token.ofMark?, hother]

/-- What is written without white space, as a number is. -/
def Numeric (cs : List Char) : Prop := cs ≠ [] ∧ ∀ c ∈ cs, isNumberChar c = true

/-- A number is one word. -/
theorem Numeric.cuts (h : Numeric cs) : Cuts cs [.word cs] :=
  .word h.1 fun c hc => isWordChar_of_isNumberChar (h.2 c hc)

/-- No number is written as a word is. -/
theorem Numeric.ne_null (h : Numeric cs) : cs ≠ "null".toList := by
  intro heq
  exact absurd (h.2 'n' (heq ▸ by decide)) (by decide)

theorem isAsciiDigit_of_mem_digits {n : Nat} (h : c ∈ Decimal.digits n) :
    Text.isAsciiDigit c = true := by
  have hdigit := Nat.isDigit_of_mem_toDigits (by decide) (by decide) h
  simpa [Char.isDigit, Text.isAsciiDigit, Char.le_def] using hdigit

theorem numeric_digits (n : Nat) : Numeric (Decimal.digits n) := by
  refine ⟨Nat.toDigits_ne_nil, ?_⟩
  intro c hc
  simp [isNumberChar, isAsciiDigit_of_mem_digits hc]

theorem Numeric.minus (h : Numeric cs) : Numeric ('-' :: cs) :=
  ⟨List.cons_ne_nil _ _, List.forall_mem_cons.2 ⟨rfl, h.2⟩⟩

theorem numeric_signedDigits (i : Int) : Numeric (Decimal.signedDigits i) := by
  unfold Decimal.signedDigits
  split
  · exact (numeric_digits _).minus
  · exact numeric_digits _

theorem numeric_layOut (x : Decimal.Scaled) : Numeric (numberStyle.layOut x) := by
  obtain ⟨hne, hdigits⟩ := numeric_digits x.coefficient
  unfold Decimal.Style.layOut
  dsimp only
  generalize Decimal.digits x.coefficient = ds at hne hdigits ⊢
  have hzeros : ∀ n, ∀ c ∈ List.replicate n '0', isNumberChar c = true := by
    intro n c hc
    rw [List.eq_of_mem_replicate hc]
    rfl
  have htake : ∀ n, ∀ c ∈ ds.take n, isNumberChar c = true :=
    fun n c hc => hdigits c (List.mem_of_mem_take hc)
  have hdrop : ∀ n, ∀ c ∈ ds.drop n, isNumberChar c = true :=
    fun n c hc => hdigits c (List.mem_of_mem_drop hc)
  have hmark : isNumberChar '.' = true ∧ isNumberChar 'e' = true ∧ isNumberChar '0' = true := by
    decide
  split
  · split
    · have hend : ∀ c ∈ numberStyle.wholeEnd, isNumberChar c = true :=
        List.all_eq_true.1 (by decide)
      exact ⟨by simp [hne], by simp only [List.forall_mem_append]; exact ⟨⟨hdigits, hzeros _⟩, hend⟩⟩
    · split
      · refine ⟨List.cons_ne_nil _ _, ?_⟩
        simp only [List.cons_append, List.forall_mem_cons, List.forall_mem_append]
        exact ⟨hmark.2.2, hmark.1, hzeros _, hdigits⟩
      · refine ⟨by simp, ?_⟩
        simp only [List.forall_mem_append, List.forall_mem_cons]
        exact ⟨htake _, hmark.1, hdrop _⟩
  · have hfraction : ∀ c ∈ (if ds.length ≤ 1 then [] else '.' :: ds.drop 1),
        isNumberChar c = true := by
      split
      · nofun
      · exact List.forall_mem_cons.2 ⟨hmark.1, hdrop 1⟩
    have hsign : ∀ e : Int, isNumberChar (if e < 0 then '-' else '+') = true := by
      intro e
      split <;> rfl
    refine ⟨by simp, ?_⟩
    simp only [List.forall_mem_append, List.forall_mem_cons]
    exact ⟨⟨htake 1, hfraction⟩, hmark.2.1, hsign _, (numeric_digits _).2⟩

/-- A finite number is written in digits. -/
theorem numeric_write {x : Float} (h : Decimal.isFinite x.toBits = true) :
    Numeric (numberStyle.write x) := by
  simp only [Decimal.Style.write, h, if_true]
  split
  · exact (numeric_layOut _).minus
  · exact numeric_layOut _

/-- What is no finite number is written as nothing. -/
theorem write_of_not_isFinite {x : Float} (h : Decimal.isFinite x.toBits = false) :
    numberStyle.write x = "null".toList := by
  simp [Decimal.Style.write, h, numberStyle]

end Json

/-! ### The tree of a value -/

namespace Value

mutual

/-- The tree of the JSON of a value. -/
def tree : Value → Json.Tree
  | .null => .null
  | .bool true => .word "true".toList
  | .bool false => .word "false".toList
  | .int i => .word (Decimal.signedDigits i.toInt)
  | .float x => .word (Json.numberStyle.write x)
  | .string s => .text s
  | .array items => .array (treesOfItems items)
  | .object members => .object (treesOfMembers members)

/-- The trees of the items of an array. -/
def treesOfItems : List Value → List Json.Tree
  | [] => []
  | v :: rest => v.tree :: treesOfItems rest

/-- The trees of the members of an object, under the same keys. -/
def treesOfMembers : List (String × Value) → List (String × Json.Tree)
  | [] => []
  | (k, v) :: rest => (k, v.tree) :: treesOfMembers rest

end

/-- Whether a value is printed like `null`: it is `null`, or a number that is not finite. -/
def PrintsNull : Value → Prop
  | .null => True
  | .float x => Decimal.isFinite x.toBits = false
  | _ => False

/-- The tree is that of `null` for these values only. -/
theorem tree_eq_null_iff (v : Value) : v.tree = .null ↔ v.PrintsNull := by
  cases v with
  | null => exact iff_of_true rfl trivial
  | bool b => cases b <;> simp [tree, Json.Tree.null, PrintsNull]
  | int i =>
    simp only [tree, Json.Tree.null, PrintsNull, Json.Tree.word.injEq, iff_false]
    exact (Json.numeric_signedDigits i.toInt).ne_null
  | float x =>
    simp only [tree, Json.Tree.null, PrintsNull, Json.Tree.word.injEq]
    cases h : Decimal.isFinite x.toBits with
    | true => simpa using (Json.numeric_write h).ne_null
    | false => simpa using Json.write_of_not_isFinite h
  | string s => simp [tree, Json.Tree.null, PrintsNull]
  | array items => simp [tree, Json.Tree.null, PrintsNull]
  | object members => simp [tree, Json.Tree.null, PrintsNull]

end Value

namespace Json

/-! ### Cutting what is printed -/

theorem cuts_true : Cuts "true".toList [.word "true".toList] :=
  .word (by decide) (List.all_eq_true.1 (by decide))

theorem cuts_false : Cuts "false".toList [.word "false".toList] :=
  .word (by decide) (List.all_eq_true.1 (by decide))

theorem cuts_null : Cuts "null".toList [.word "null".toList] :=
  .word (by decide) (List.all_eq_true.1 (by decide))

/-- A floating-point number is one word, finite or not. -/
theorem cuts_float (x : Float) : Cuts (numberStyle.write x) [.word (numberStyle.write x)] := by
  cases h : Decimal.isFinite x.toBits with
  | true => exact (numeric_write h).cuts
  | false => rw [write_of_not_isFinite h]; exact cuts_null

mutual

/-- The compact form has the lexemes of the value's tree. -/
theorem cuts_compact : ∀ v : Value, Cuts (compactChars v) v.tree.lexemes
  | .null => cuts_null
  | .bool true => cuts_true
  | .bool false => cuts_false
  | .int i => (numeric_signedDigits i.toInt).cuts
  | .float x => cuts_float x
  | .string s => by
      simpa [compactChars, Value.tree, Tree.lexemes] using Cuts.text s .nil
  | .array items => by
      rw [compactChars, Value.tree, Tree.lexemes]
      exact .mark rfl rfl ((cuts_compactItems items).append (.mark rfl rfl .nil) (.cons rfl))
  | .object members => by
      rw [compactChars, Value.tree, Tree.lexemes]
      exact .mark rfl rfl ((cuts_compactMembers members).append (.mark rfl rfl .nil) (.cons rfl))

theorem cuts_compactItems : ∀ vs : List Value,
    Cuts (compactItems vs) (Tree.lexemesOfItems (Value.treesOfItems vs))
  | [] => .nil
  | [v] => cuts_compact v
  | v :: v' :: vs =>
      (cuts_compact v).append (.mark rfl rfl (cuts_compactItems (v' :: vs))) (.cons rfl)

theorem cuts_compactMembers : ∀ ms : List (String × Value),
    Cuts (compactMembers ms) (Tree.lexemesOfMembers (Value.treesOfMembers ms))
  | [] => .nil
  | [(k, v)] => .text k (.mark rfl rfl (cuts_compact v))
  | (k, v) :: (k', v') :: ms => by
      have hrest := (cuts_compact v).append
        (.mark rfl rfl (cuts_compactMembers ((k', v') :: ms))) (.cons (c := ',') rfl)
      simpa [compactMembers, Value.treesOfMembers, Tree.lexemesOfMembers]
        using Cuts.text k (.mark (c := ':') rfl rfl hrest)

end

/-- A line end and an indentation are white space. -/
theorem Cuts.newline (level : Nat) (h : Cuts cs ls) : Cuts (Json.newline level ++ cs) ls := by
  have hindent : ∀ n, Cuts (List.replicate n ' ' ++ cs) ls := by
    intro n
    induction n with
    | zero => exact h
    | succ n ih => exact .space rfl ih
  exact .space rfl (hindent (2 * level))

theorem EndsWord.newline (level : Nat) (cs : List Char) : EndsWord (Json.newline level ++ cs) :=
  .cons rfl

mutual

/-- So has the indented form. -/
theorem cuts_pretty : ∀ (level : Nat) (v : Value), Cuts (prettyChars level v) v.tree.lexemes
  | level, .array [] => .mark rfl rfl (.mark rfl rfl .nil)
  | level, .array (v :: vs) => by
      have hend : Cuts (newline level ++ [']']) [.mark ']'] := .newline level (.mark rfl rfl .nil)
      have hitems := (cuts_prettyItems (level + 1) (v :: vs)).append hend (.newline level _)
      simpa [prettyChars, Value.tree, Tree.lexemes]
        using Cuts.mark (c := '[') rfl rfl (hitems.newline (level + 1))
  | level, .object [] => .mark rfl rfl (.mark rfl rfl .nil)
  | level, .object ((k, v) :: ms) => by
      have hend : Cuts (newline level ++ ['\x7d']) [.mark '\x7d'] :=
        .newline level (.mark rfl rfl .nil)
      have hmembers := (cuts_prettyMembers (level + 1) ((k, v) :: ms)).append hend (.newline level _)
      simpa [prettyChars, Value.tree, Tree.lexemes]
        using Cuts.mark (c := '\x7b') rfl rfl (hmembers.newline (level + 1))
  | _, .null => cuts_compact .null
  | _, .bool b => cuts_compact (.bool b)
  | _, .int i => cuts_compact (.int i)
  | _, .float x => cuts_compact (.float x)
  | _, .string s => cuts_compact (.string s)

theorem cuts_prettyItems : ∀ (level : Nat) (vs : List Value),
    Cuts (prettyItems level vs) (Tree.lexemesOfItems (Value.treesOfItems vs))
  | _, [] => .nil
  | level, [v] => cuts_pretty level v
  | level, v :: v' :: vs => by
      have hmore := (cuts_prettyItems level (v' :: vs)).newline level
      have hrest := (cuts_pretty level v).append (.mark (c := ',') rfl rfl hmore) (.cons rfl)
      simpa [prettyItems, Value.treesOfItems, Tree.lexemesOfItems] using hrest

theorem cuts_prettyMembers : ∀ (level : Nat) (ms : List (String × Value)),
    Cuts (prettyMembers level ms) (Tree.lexemesOfMembers (Value.treesOfMembers ms))
  | _, [] => .nil
  | level, [(k, v)] => .text k (.mark rfl rfl (.space rfl (cuts_pretty level v)))
  | level, (k, v) :: (k', v') :: ms => by
      have hmore := (cuts_prettyMembers level ((k', v') :: ms)).newline level
      have hrest := (cuts_pretty level v).append (.mark (c := ',') rfl rfl hmore) (.cons rfl)
      simpa [prettyMembers, Value.treesOfMembers, Tree.lexemesOfMembers]
        using Cuts.text k (.mark (c := ':') rfl rfl (.space (c := ' ') rfl hrest))

end

/-- A text that is cut into the lexemes of a tree has the tree. -/
theorem ofChars?_of_cuts {t : Tree} (h : Cuts cs t.lexemes) : Tree.ofChars? cs = some t := by
  have hscan := h [] .nil
  rw [List.append_nil] at hscan
  simp [Tree.ofChars?, hscan, Lexeme.scan?, Tree.ofLexemes?_lexemes]

end Json

/-! ### Paths -/

namespace Value

open Json (Key)

/-- The part of a value at the end of a path. -/
def at? : Value → List Key → Option Value
  | v, [] => some v
  | .object members, .member name :: path =>
      match Entries.find? name members with
      | some v => v.at? path
      | none => none
  | .array items, .item index :: path =>
      match items[index]? with
      | some v => v.at? path
      | none => none
  | _, _ :: _ => none

theorem getElem?_treesOfItems (vs : List Value) (i : Nat) :
    (treesOfItems vs)[i]? = vs[i]?.map tree := by
  induction vs generalizing i with
  | nil => rfl
  | cons v vs ih => cases i <;> simp [treesOfItems, ih]

/-- The tree of a member is found under its key. -/
theorem find?_treesOfMembers (ms : List (String × Value)) (name : String) :
    Entries.find? name (treesOfMembers ms) = (Entries.find? name ms).map tree := by
  induction ms with
  | nil => rfl
  | cons m ms ih =>
    obtain ⟨k, v⟩ := m
    rw [treesOfMembers, Entries.find?_cons, Entries.find?_cons, ih]
    split <;> rfl

/-- The tree of a value has, at every path, the tree of what the value has there. -/
theorem at?_tree (v : Value) (path : List Key) : v.tree.at? path = (v.at? path).map tree := by
  induction path generalizing v with
  | nil => cases v <;> rfl
  | cons key path ih =>
    cases v with
    | array items =>
      cases key with
      | member name => rfl
      | item index =>
        simp only [tree, Json.Tree.at?, at?, getElem?_treesOfItems]
        cases items[index]? with
        | none => rfl
        | some v => exact ih v
    | object members =>
      cases key with
      | item index => rfl
      | member name =>
        simp only [tree, Json.Tree.at?, at?, find?_treesOfMembers]
        cases Entries.find? name members with
        | none => rfl
        | some v => exact ih v
    | bool b => cases b <;> cases key <;> rfl
    | _ => cases key <;> rfl

end Value

namespace Json

/-- A text that has the tree of a value holds `null` where the value is printed like it. -/
theorem holdsNull_iff_of_cuts {cs : List Char} {v : Value} (h : Cuts cs v.tree.lexemes)
    (path : List Key) :
    HoldsNull (String.ofList cs) path ↔ ∃ w, v.at? path = some w ∧ w.PrintsNull := by
  simp only [HoldsNull, String.toList_ofList, ofChars?_of_cuts h, Option.bind_some, Value.at?_tree,
    Option.map_eq_some_iff, Value.tree_eq_null_iff]

/-- The compact JSON of a value holds `null` where the value is `null` or a number that is not
finite, and nowhere else. -/
theorem holdsNull_compact_iff (v : Value) (path : List Key) :
    HoldsNull (compact v) path ↔ ∃ w, v.at? path = some w ∧ w.PrintsNull :=
  holdsNull_iff_of_cuts (cuts_compact v) path

/-- The indented JSON holds `null` in the same places. -/
theorem holdsNull_pretty_iff (v : Value) (path : List Key) :
    HoldsNull (pretty v) path ↔ ∃ w, v.at? path = some w ∧ w.PrintsNull :=
  holdsNull_iff_of_cuts (cuts_pretty 0 v) path

end Json

end MarkupActions
