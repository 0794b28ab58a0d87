import Mathlib.Data.List.SplitBy
import MarkupActions.InputStream
import MarkupActions.Proofs.Text.Utf8

/-!
# MarkupActions.Proofs.Lines

**The lines of an input.** Cutting bytes behind every newline gives the lines; reading line by line
gives the same lines one after the other, and leaves the rest of them in the stream
(`readLine_after`). When the bytes are those of a text, its lines are the bytes of the lines of the
text, and so are they without their ends: no character is cut in two.
-/

namespace MarkupActions

/-! ### Cutting behind an element -/

section

variable {α : Type} [DecidableEq α] {last : α}

/-- The pieces of a list that is cut behind every occurrence of an element. -/
def cutBehind (last : α) (l : List α) : List (List α) := l.splitBy fun a _ => a ≠ last

/-- The pieces make up the list. -/
theorem flatten_cutBehind (last : α) (l : List α) : (cutBehind last l).flatten = l :=
  List.flatten_splitBy _ l

/-- In a piece the element can stand at the end only. -/
theorem isChain_iff_not_mem_dropLast (l : List α) :
    (l.IsChain fun a _ => (decide (a ≠ last)) = true) ↔ last ∉ l.dropLast := by
  induction l with
  | nil => simp
  | cons a rest ih =>
    cases rest with
    | nil => simp
    | cons b rest =>
      rw [List.isChain_cons_cons, ih, List.dropLast_cons_cons, List.mem_cons, not_or,
        decide_eq_true_iff, ne_comm]

theorem cutBehind_append {l m : List α} (hne : l ≠ []) (hl : last ∉ l.dropLast)
    (hm : m = [] ∨ l.getLast? = some last) : cutBehind last (l ++ m) = l :: cutBehind last m := by
  have hpiece : cutBehind last l = [l] :=
    List.splitBy_of_isChain hne ((isChain_iff_not_mem_dropLast l).2 hl)
  have hcut : cutBehind last (l ++ m) = cutBehind last l ++ cutBehind last m := by
    refine List.splitBy_append ?_
    intro x hx y hy
    rcases hm with rfl | hlast
    · cases hy
    · rw [hlast] at hx
      simpa using hx.symm
  rw [hcut, hpiece, List.singleton_append]

theorem not_mem_dropLast_of_mem_cutBehind {l piece : List α} (h : piece ∈ cutBehind last l) :
    last ∉ piece.dropLast :=
  (isChain_iff_not_mem_dropLast piece).1 (List.isChain_of_mem_splitBy h)

theorem getLast?_cutBehind (l : List α) :
    (cutBehind last l).IsChain fun piece _ => piece.getLast? = some last := by
  refine (List.isChain_getLast_head_splitBy (fun a _ => decide (a ≠ last)) l).imp ?_
  rintro piece _ ⟨hne, -, h⟩
  rw [List.getLast?_eq_some_getLast hne]
  simpa using h

/-- Pieces that are cut in the right places are the pieces of what they make together. -/
theorem cutBehind_flatten {pieces : List (List α)} (hne : [] ∉ pieces)
    (hpieces : ∀ piece ∈ pieces, last ∉ piece.dropLast)
    (hends : pieces.IsChain fun piece _ => piece.getLast? = some last) :
    cutBehind last pieces.flatten = pieces := by
  induction pieces with
  | nil => rfl
  | cons piece rest ih =>
    rw [List.mem_cons, not_or] at hne
    have hrest := ih hne.2 (fun p hp => hpieces p (List.mem_cons_of_mem _ hp)) hends.tail
    rw [List.flatten_cons, cutBehind_append (Ne.symm hne.1) (hpieces piece (List.mem_cons_self ..)),
      hrest]
    cases rest with
    | nil => exact .inl rfl
    | cons second rest => exact .inr (List.isChain_cons_cons.1 hends).1

/-- The pieces from some place on are those of the list from there on. -/
theorem cutBehind_drop (l : List α) (k : Nat) :
    cutBehind last ((cutBehind last l).drop k).flatten = (cutBehind last l).drop k := by
  refine cutBehind_flatten ?_ (fun piece h => ?_) ((getLast?_cutBehind l).drop k)
  · intro h
    exact List.nil_notMem_splitBy _ l (List.mem_of_mem_drop h)
  · exact not_mem_dropLast_of_mem_cutBehind (List.mem_of_mem_drop h)

end

namespace InputStream

/-- The lines of an input, each with the newline that ends it. -/
def lines (bytes : List UInt8) : List (List UInt8) := cutBehind newline bytes

/-- The line with a number, counted from nought; empty behind the last. -/
def lineAt (bytes : List UInt8) (k : Nat) : List UInt8 := (lines bytes)[k]?.getD []

/-- What is left of an input when some of its lines have been taken. -/
def after (bytes : List UInt8) (k : Nat) : List UInt8 := ((lines bytes).drop k).flatten

/-! ### Reading one line -/

/-- A line and what is behind it make up the bytes. -/
theorem cutLine_append (bytes : List UInt8) : (cutLine bytes).1 ++ (cutLine bytes).2.2 = bytes := by
  induction bytes with
  | nil => rfl
  | cons b rest ih =>
    rw [cutLine]
    split
    · rfl
    · exact congrArg (b :: ·) ih

theorem newline_not_mem_dropLast (bytes : List UInt8) : newline ∉ (cutLine bytes).1.dropLast := by
  induction bytes with
  | nil => exact List.not_mem_nil
  | cons b rest ih =>
    rw [cutLine]
    split
    · exact List.not_mem_nil
    · next h =>
      dsimp only
      rcases hline : (cutLine rest).1 with _ | ⟨c, line⟩
      · exact List.not_mem_nil
      · rw [hline] at ih
        simp [ih, Ne.symm h]

/-- A line stops at a newline or where the input does. -/
theorem getLast?_cutLine (bytes : List UInt8) :
    (cutLine bytes).2.2 = [] ∨ (cutLine bytes).1.getLast? = some newline := by
  induction bytes with
  | nil => exact .inl rfl
  | cons b rest ih =>
    rw [cutLine]
    split
    · next h => exact .inr (by simp [h])
    · refine ih.imp id ?_
      intro h
      rw [List.getLast?_cons, h, Option.getD_some]

theorem cutLine_ne_nil {bytes : List UInt8} (h : bytes ≠ []) : (cutLine bytes).1 ≠ [] := by
  cases bytes with
  | nil => exact absurd rfl h
  | cons b rest =>
    rw [cutLine]
    split <;> exact List.cons_ne_nil _ _

/-- The line that is read first is the first of the lines. -/
theorem lines_eq_cons {bytes : List UInt8} (h : bytes ≠ []) :
    lines bytes = (cutLine bytes).1 :: lines (cutLine bytes).2.2 := by
  conv_lhs => rw [← cutLine_append bytes]
  exact cutBehind_append (cutLine_ne_nil h) (newline_not_mem_dropLast bytes) (getLast?_cutLine bytes)

theorem lineAt_zero (bytes : List UInt8) : lineAt bytes 0 = (cutLine bytes).1 := by
  by_cases h : bytes = []
  · subst h
    rfl
  · rw [lineAt, lines_eq_cons h]
    rfl

theorem after_one (bytes : List UInt8) : after bytes 1 = (cutLine bytes).2.2 := by
  by_cases h : bytes = []
  · subst h
    rfl
  · rw [after, lines_eq_cons h]
    exact flatten_cutBehind newline _

/-! ### Reading one line after the other -/

theorem after_zero (bytes : List UInt8) : after bytes 0 = bytes := flatten_cutBehind newline bytes

/-- The lines behind some lines are the lines that follow these. -/
theorem lineAt_after (bytes : List UInt8) (k j : Nat) :
    lineAt (after bytes k) j = lineAt bytes (k + j) := by
  rw [lineAt, lines, after, lines, cutBehind_drop, List.getElem?_drop]
  rfl

theorem after_after (bytes : List UInt8) (k j : Nat) :
    after (after bytes k) j = after bytes (k + j) := by
  rw [after, lines, after, lines, cutBehind_drop, List.drop_drop]
  rfl

/-- A line is what is cut off behind the lines before it. -/
theorem lineAt_eq_cutLine (bytes : List UInt8) (k : Nat) :
    lineAt bytes k = (cutLine (after bytes k)).1 := by
  rw [← lineAt_zero, lineAt_after, Nat.add_zero]

theorem after_succ (bytes : List UInt8) (k : Nat) :
    after bytes (k + 1) = (cutLine (after bytes k)).2.2 := by
  rw [← after_one, after_after]

/-- A line and what follows are what followed the lines before. -/
theorem lineAt_append_after (bytes : List UInt8) (k : Nat) :
    lineAt bytes k ++ after bytes (k + 1) = after bytes k := by
  rw [lineAt_eq_cutLine, after_succ, cutLine_append]

/-- The lines that were taken, and what is left, are the input. -/
theorem flatten_lineAt_append_after (bytes : List UInt8) (k : Nat) :
    ((List.range k).map (lineAt bytes)).flatten ++ after bytes k = bytes := by
  induction k with
  | zero => exact after_zero bytes
  | succ k ih =>
    rw [List.range_succ, List.map_append, List.flatten_append, List.append_assoc]
    simpa [lineAt_append_after] using ih

/-- Reading behind some lines gives the next one, and leaves what is behind it. -/
theorem readLine_after (bytes : List UInt8) (k : Nat) :
    readLine ⟨after bytes k, none⟩ = (.line (lineAt bytes k), ⟨after bytes (k + 1), none⟩) := by
  rw [lineAt_eq_cutLine, after_succ]
  rcases hcut : cutLine (after bytes k) with ⟨line, ended, rest⟩
  cases ended <;> simp [readLine, hcut]

/-- A line is empty exactly when the input has been used up before it. -/
theorem lineAt_eq_nil (bytes : List UInt8) (k : Nat) :
    lineAt bytes k = [] ↔ after bytes k = [] := by
  rw [lineAt_eq_cutLine]
  constructor
  · intro h
    exact Decidable.byContradiction fun hne => cutLine_ne_nil hne h
  · intro h
    rw [h]
    rfl

end InputStream

/-! ### Lines of text -/

namespace Text

/-- The lines of a text, each with the newline that ends it. -/
def lines (s : String) : List (List Char) := cutBehind '\n' s.toList

/-- The characters without a certain last one. -/
def dropEnd (c : Char) (chars : List Char) : List Char :=
  if chars.getLast? = some c then chars.dropLast else chars

/-- A line without its end: one newline, and one carriage return in front of it. -/
def stripEnd (line : List Char) : List Char := dropEnd '\r' (dropEnd '\n' line)

end Text

namespace InputStream

/-- The bytes of characters. -/
abbrev bytesOf (chars : List Char) : List UInt8 := chars.flatMap String.utf8EncodeChar

theorem bytesOf_eq_nil {chars : List Char} : bytesOf chars = [] ↔ chars = [] := by
  cases chars with
  | nil => simp
  | cons c rest => simp [bytesOf, String.utf8EncodeChar_ne_nil]

theorem bytesOf_concat (chars : List Char) (z : Char) :
    bytesOf (chars ++ [z]) = bytesOf chars ++ String.utf8EncodeChar z := by
  simp [bytesOf]

section

-- A character of a single byte, which then occurs in the bytes of no other.
variable {a : Char} {b : UInt8} (hbyte : String.utf8EncodeChar a = [b]) (hlt : b.toNat < 0x80)
include hbyte hlt

/-- The byte stands in the bytes of its own character and of no other. -/
theorem mem_utf8EncodeChar_iff (c : Char) : b ∈ String.utf8EncodeChar c ↔ c = a := by
  have ha := Text.Utf8.eq_of_mem_utf8EncodeChar (hbyte ▸ List.mem_singleton_self b) hlt
  constructor
  · intro h
    exact (Text.Utf8.eq_of_mem_utf8EncodeChar h hlt).trans ha.symm
  · rintro rfl
    exact hbyte ▸ List.mem_singleton_self b

theorem getLast?_bytesOf (chars : List Char) :
    (bytesOf chars).getLast? = some b ↔ chars.getLast? = some a := by
  rcases List.eq_nil_or_concat chars with rfl | ⟨front, z, rfl⟩
  · simp
  · rw [List.concat_eq_append, bytesOf_concat, List.getLast?_append_of_ne_nil _
      String.utf8EncodeChar_ne_nil, List.getLast?_concat, Option.some.injEq]
    constructor
    · intro h
      exact (mem_utf8EncodeChar_iff hbyte hlt z).1 (List.mem_of_getLast? h)
    · rintro rfl
      rw [hbyte]
      rfl

/-- Dropping the end of a line is the same for bytes and for characters. -/
theorem dropEnd_bytesOf (chars : List Char) :
    dropEnd b (bytesOf chars) = bytesOf (Text.dropEnd a chars) := by
  unfold dropEnd Text.dropEnd
  by_cases h : chars.getLast? = some a
  · rw [if_pos h, if_pos ((getLast?_bytesOf hbyte hlt chars).2 h)]
    obtain ⟨front, rfl⟩ := List.getLast?_eq_some_iff.1 h
    rw [bytesOf_concat, hbyte, List.dropLast_concat, List.dropLast_concat]
  · rw [if_neg h, if_neg fun h' => h ((getLast?_bytesOf hbyte hlt chars).1 h')]

theorem not_mem_dropLast_bytesOf {chars : List Char} (h : a ∉ chars.dropLast) :
    b ∉ (bytesOf chars).dropLast := by
  rcases List.eq_nil_or_concat chars with rfl | ⟨front, z, rfl⟩
  · exact List.not_mem_nil
  · rw [List.concat_eq_append, List.dropLast_concat] at h
    rw [List.concat_eq_append, bytesOf_concat,
      List.dropLast_append_of_ne_nil String.utf8EncodeChar_ne_nil, List.mem_append]
    rintro (hmem | hmem)
    · obtain ⟨c, hc, hb⟩ := List.mem_flatMap.1 hmem
      exact h ((mem_utf8EncodeChar_iff hbyte hlt c).1 hb ▸ hc)
    · -- In the last character the byte would be the only one, and so not in front of its end.
      obtain rfl := (mem_utf8EncodeChar_iff hbyte hlt z).1 ((List.dropLast_sublist _).subset hmem)
      rw [hbyte] at hmem
      exact List.not_mem_nil hmem

end

theorem utf8EncodeChar_newline : String.utf8EncodeChar '\n' = [newline] := rfl

theorem utf8EncodeChar_carriageReturn : String.utf8EncodeChar '\r' = [carriageReturn] := rfl

/-- The end of a line of text is the end of its bytes. -/
theorem stripEnd_bytesOf (chars : List Char) :
    stripEnd (bytesOf chars) = bytesOf (Text.stripEnd chars) := by
  rw [stripEnd, dropEnd_bytesOf utf8EncodeChar_newline (by decide),
    dropEnd_bytesOf utf8EncodeChar_carriageReturn (by decide), Text.stripEnd]

/-- The lines of the bytes of a text are the bytes of its lines. -/
theorem lines_encode (s : String) : lines (Text.Utf8.encode s) = (Text.lines s).map bytesOf := by
  have hbytes : Text.Utf8.encode s = ((Text.lines s).map bytesOf).flatten := by
    conv_lhs => rw [Text.Utf8.encode_eq_flatMap, ← flatten_cutBehind '\n' s.toList]
    rw [List.flatten_eq_flatMap, List.flatMap_assoc, List.flatten_eq_flatMap, List.flatMap_map]
    rfl
  rw [hbytes]
  -- The bytes of the lines are cut in the right places.
  refine cutBehind_flatten (fun hmem => ?_) (fun piece hmem => ?_) ?_
  · obtain ⟨piece, hpiece, hnil⟩ := List.mem_map.1 hmem
    exact List.nil_notMem_splitBy _ s.toList (bytesOf_eq_nil.1 hnil ▸ hpiece)
  · obtain ⟨piece, hpiece, rfl⟩ := List.mem_map.1 hmem
    exact not_mem_dropLast_bytesOf utf8EncodeChar_newline (by decide)
      (not_mem_dropLast_of_mem_cutBehind hpiece)
  · refine (List.isChain_map bytesOf).2 ((getLast?_cutBehind s.toList).imp fun piece _ h => ?_)
    exact (getLast?_bytesOf utf8EncodeChar_newline (by decide) piece).2 h

/-- The line of an input with a number is the bytes of the line of the text with that number. -/
theorem lineAt_encode (s : String) (k : Nat) :
    lineAt (Text.Utf8.encode s) k = bytesOf ((Text.lines s)[k]?.getD []) := by
  rw [lineAt, lines_encode, List.getElem?_map]
  cases (Text.lines s)[k]? <;> rfl

/-- A line of a text is read as that line without its end, with nothing replaced. -/
theorem lineText?_encode {s : String} {k : Nat} {line : List Char} (h : (Text.lines s)[k]? = some line) :
    lineText? (lineAt (Text.Utf8.encode s) k) = some (String.ofList (Text.stripEnd line)) := by
  have hne : bytesOf line ≠ [] := by
    intro hnil
    exact List.nil_notMem_splitBy _ s.toList (bytesOf_eq_nil.1 hnil ▸ List.mem_of_getElem? h)
  rw [lineAt_encode, h, Option.getD_some, lineText?, if_neg (by simpa using hne), stripEnd_bytesOf,
    Text.Utf8.decode_flatMap]

end InputStream

end MarkupActions
