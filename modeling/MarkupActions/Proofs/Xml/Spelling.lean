import Mathlib.Data.List.Forall2
import Mathlib.Data.List.TakeWhile
import MarkupActions.Proofs.Xml.Scanning

/-!
# MarkupActions.Proofs.Xml.Spelling

**What a document is written as.** The pieces of a document stand one behind the other and make up
the whole text (`Markup.scan?_spelled`). A start tag is its name, its attributes as they are listed,
each with blanks in front, and its end; an attribute is its name, an equals sign and its characters
between quotes. So nothing that is written in a document is left out of its pieces, and nothing is
added.
-/

namespace MarkupActions.Xml

/-! ### The grammar -/

/-- Blanks of markup, possibly none. -/
def Blanks (cs : List Char) : Prop := ∀ c ∈ cs, isSpace c = true

/-- A name as it is written, and its parts. -/
structure QName.Spelled (name : QName) (cs : List Char) : Prop where
  chars : ∀ c ∈ cs, isNameChar c = true
  parts : ofRun? cs = some name

/-- What an attribute is written as. -/
inductive RawAttribute.Spelled (a : RawAttribute) : List Char → Prop where
  | spelled {before behind : List Char} {quote : Char} (hname : a.name.Spelled a.written)
      (hbefore : Blanks before) (hbehind : Blanks behind) (hquote : quote = '"' ∨ quote = '\'')
      (hraw : quote ∉ a.raw) (hmarkup : '<' ∉ a.raw) :
      Spelled a (a.written ++ before ++ '=' :: behind ++ quote :: a.raw ++ [quote])

/-- What some attributes are written as, each behind at least one blank. -/
inductive RawAttribute.AllSpelled : List RawAttribute → List Char → Prop where
  | nil : AllSpelled [] []
  | cons {a : RawAttribute} {attributes : List RawAttribute} {gap first others : List Char}
      (hgap : Blanks gap) (hne : gap ≠ []) (ha : a.Spelled first)
      (hothers : AllSpelled attributes others) : AllSpelled (a :: attributes) (gap ++ first ++ others)

/-- The end of a start tag. -/
def StartTag.ending (isEmpty : Bool) : List Char := if isEmpty then ['/', '>'] else ['>']

/-- What a start tag is written as. -/
inductive StartTag.Spelled (tag : StartTag) : List Char → Prop where
  | spelled {attributes gap : List Char} (hname : tag.name.Spelled tag.written)
      (hattributes : RawAttribute.AllSpelled tag.attributes attributes) (hgap : Blanks gap) :
      Spelled tag ('<' :: tag.written ++ attributes ++ gap ++ ending tag.isEmpty)

/-- What a piece of a document is written as. -/
inductive Markup.Spelled : Markup → List Char → Prop where
  | text {raw : List Char} (hne : raw ≠ []) (hraw : '<' ∉ raw) : Spelled (.text raw) raw
  | verbatim {raw : List Char} (hraw : ¬ [']', ']', '>'] <:+: raw) :
      Spelled (.verbatim raw)
        (['<', '!', '[', 'C', 'D', 'A', 'T', 'A', '['] ++ raw ++ [']', ']', '>'])
  | comment {body : List Char} (hbody : isComment body = true) :
      Spelled .aside (['<', '!', '-', '-'] ++ body ++ ['-', '-', '>'])
  | instruction {target gap body : List Char} (htarget : ∀ c ∈ target, isNameChar c = true)
      (hgap : Blanks gap) (hbody : ¬ ['?', '>'] <:+: body) :
      Spelled .aside (['<', '?'] ++ target ++ gap ++ body ++ ['?', '>'])
  | start {tag : StartTag} {cs : List Char} (htag : tag.Spelled cs) : Spelled (.start tag) cs
  | close {name : QName} {written gap : List Char} (hname : name.Spelled written)
      (hgap : Blanks gap) : Spelled (.close name) (['<', '/'] ++ written ++ gap ++ ['>'])

/-! ### Parts of names -/

namespace QName

variable {cs ds : List Char}

/-- A name without a colon. -/
structure IsPart (cs : List Char) : Prop where
  chars : ∀ c ∈ cs, isNameChar c = true
  begins : beginsWell cs = true
  colon : ':' ∉ cs

theorem IsPart.ne_nil (h : IsPart cs) : cs ≠ [] := by
  intro hnil
  have hbegins := h.begins
  rw [hnil] at hbegins
  cases hbegins

/-- What stands behind the colon of a name, or is the whole of it, has no colon. -/
theorem Spelled.localPart_isPart {name : QName} (h : name.Spelled cs) : IsPart name.localPart := by
  have hparts := h.parts
  have hjoin : [':'].intercalate (cs.splitOn ':') = cs := List.intercalate_splitOn ':'
  have hcolon : ∀ piece ∈ cs.splitOn ':', ':' ∉ piece := fun _ => Text.not_mem_of_mem_splitOn
  unfold ofRun? at hparts
  split at hparts
  · next part hpieces =>
    rw [hpieces, List.intercalate_singleton] at hjoin
    rw [hpieces] at hcolon
    split at hparts
    · next hbegins =>
      cases hparts
      subst hjoin
      exact ⟨h.chars, hbegins, hcolon part List.mem_cons_self⟩
    · cases hparts
  · next qualifier part hpieces =>
    rw [hpieces, List.intercalate_cons_cons, List.intercalate_singleton] at hjoin
    rw [hpieces] at hcolon
    split at hparts
    · next hbegins =>
      cases hparts
      subst hjoin
      refine ⟨fun c hc => h.chars c ?_, (Bool.and_eq_true_iff.mp hbegins).2, hcolon part (by simp)⟩
      exact List.mem_append_right _ hc
    · cases hparts
  · cases hparts

/-- A run of name characters is read up to the first other character. -/
theorem scanName?_append (h : ∀ c ∈ cs, isNameChar c = true) {rest : List Char}
    (hrest : ∀ c ∈ rest.head?, isNameChar c = false) :
    scanName? (cs ++ rest) = (ofRun? cs).map fun name => (cs, name, rest) := by
  have htake : rest.takeWhile isNameChar = [] := by
    cases rest with
    | nil => rfl
    | cons c rest => exact List.takeWhile_cons_of_neg (by simp [hrest c rfl])
  have hdrop : rest.dropWhile isNameChar = rest := by
    cases rest with
    | nil => rfl
    | cons c rest => exact List.dropWhile_cons_of_neg (by simp [hrest c rfl])
  rw [scanName?, List.takeWhile_append_of_pos h, List.dropWhile_append_of_pos h, htake, hdrop,
    List.append_nil]

/-- A name without a colon has no prefix. -/
theorem IsPart.ofRun?_eq (h : IsPart cs) : ofRun? cs = some ⟨[], cs⟩ := by
  simp only [ofRun?, List.splitOn_eq_singleton h.colon, h.begins, if_true]

/-- Two parts with a colon between them are a name with its prefix. -/
theorem IsPart.ofRun?_behind (h : IsPart cs) (hds : IsPart ds) :
    ofRun? (ds ++ ':' :: cs) = some ⟨ds, cs⟩ := by
  simp only [ofRun?, List.splitOn_append_cons_self, List.splitOn_eq_singleton h.colon,
    List.splitOn_eq_singleton hds.colon, List.singleton_append, h.begins, hds.begins, Bool.or_true,
    Bool.and_true, if_true]

theorem IsPart.scanName?_append (h : IsPart cs) {rest : List Char}
    (hrest : ∀ c ∈ rest.head?, isNameChar c = false) :
    scanName? (cs ++ rest) = some (cs, ⟨[], cs⟩, rest) := by
  rw [QName.scanName?_append h.chars hrest, h.ofRun?_eq, Option.map_some]

end QName

/-! ### What scanners take off -/

variable {cs rest : List Char}

/-- What is skipped are blanks, and more than none where the text begins with one. -/
theorem exists_blanks_of_skipSpaces (h : skipSpaces cs = rest) :
    ∃ gap, Blanks gap ∧ (cs.head?.any isSpace = true → gap ≠ []) ∧ cs = gap ++ rest := by
  refine ⟨cs.takeWhile isSpace, fun c hc => List.mem_takeWhile_imp hc, fun hspace => ?_, ?_⟩
  · cases cs with
    | nil => cases hspace
    | cons c cs =>
      rw [List.takeWhile_cons_of_pos (p := isSpace) hspace]
      exact List.cons_ne_nil _ _
  · rw [← h, skipSpaces, List.takeWhile_append_dropWhile]

/-- A name is taken off as it is written. -/
theorem scanName?_spelled {written : List Char} {name : QName}
    (h : scanName? cs = some (written, name, rest)) :
    name.Spelled written ∧ cs = written ++ rest := by
  obtain ⟨rfl, rfl, hparts⟩ := scanName?_eq_some h
  exact ⟨⟨fun c hc => List.mem_takeWhile_imp hc, hparts⟩, List.takeWhile_append_dropWhile.symm⟩

/-- A text is cut at the first occurrence of the marker. -/
theorem cutAt?_eq_some {marker before : List Char} (hmarker : marker ≠ [])
    (h : cutAt? marker cs = some (before, rest)) :
    cs = before ++ marker ++ rest ∧ ¬ marker <:+: before := by
  induction cs generalizing before with
  | nil => cases h
  | cons c cs ih =>
    rw [cutAt?] at h
    split at h
    · next hprefix =>
      cases h
      obtain ⟨behind, hbehind⟩ := List.isPrefixOf_iff_prefix.mp hprefix
      refine ⟨?_, fun hinfix => hmarker (List.infix_nil.mp hinfix)⟩
      rw [← hbehind, List.drop_left, List.nil_append]
    · next hprefix =>
      rw [Option.map_eq_some_iff] at h
      obtain ⟨⟨before, after⟩, hcut, heq⟩ := h
      cases heq
      obtain ⟨rfl, hfree⟩ := ih hcut
      refine ⟨rfl, fun hinfix => ?_⟩
      rcases List.infix_cons_iff.mp hinfix with hstart | hlater
      · refine hprefix (List.isPrefixOf_iff_prefix.mpr (hstart.trans ?_))
        exact List.cons_prefix_cons.mpr ⟨rfl, by rw [List.append_assoc]; exact List.prefix_append _ _⟩
      · exact hfree hlater

theorem scanQuoted?_eq_some {raw : List Char} (h : scanQuoted? cs = some (raw, rest)) :
    ∃ quote, (quote = '"' ∨ quote = '\'') ∧ quote ∉ raw ∧ '<' ∉ raw ∧
      cs = quote :: raw ++ quote :: rest := by
  unfold scanQuoted? at h
  split at h
  · cases h
  · next quote tail =>
    split at h
    · next hquote =>
      dsimp only at h
      split at h
      · cases h
      · next c after hafter =>
        split at h
        · next hchars =>
          cases h
          have hc : c = quote := by
            have hstop := List.head?_dropWhile_not (fun x => decide (x ≠ quote)) tail
            rw [hafter] at hstop
            exact Decidable.of_not_not (of_decide_eq_false hstop)
          subst hc
          have hfree : c ∉ tail.takeWhile (· ≠ c) := fun hmem =>
            of_decide_eq_true (List.mem_takeWhile_imp (p := (· ≠ c)) hmem) rfl
          have hmarkup : '<' ∉ tail.takeWhile (· ≠ c) := by
            intro hmem
            have hchar := List.all_eq_true.mp hchars '<' hmem
            cases hchar
          refine ⟨c, hquote, hfree, hmarkup, ?_⟩
          rw [List.cons_append, ← hafter, List.takeWhile_append_dropWhile]
        · cases h
    · cases h

/-- An attribute is taken off as it is written. -/
theorem scanAttribute?_spelled {a : RawAttribute} (h : scanAttribute? cs = some (a, rest)) :
    ∃ first, a.Spelled first ∧ cs = first ++ rest := by
  unfold scanAttribute? at h
  split at h
  · cases h
  · next written name afterName hname =>
    obtain ⟨hspelled, rfl⟩ := scanName?_spelled hname
    split at h
    · next afterEquals hequals =>
      rw [Option.map_eq_some_iff] at h
      obtain ⟨⟨raw, r⟩, hquoted, heq⟩ := h
      cases heq
      obtain ⟨before, hbefore, -, rfl⟩ := exists_blanks_of_skipSpaces hequals
      obtain ⟨quote, hquote, hraw, hmarkup, hvalue⟩ := scanQuoted?_eq_some hquoted
      obtain ⟨behind, hbehind, -, rfl⟩ := exists_blanks_of_skipSpaces hvalue
      exact ⟨_, .spelled hspelled hbefore hbehind hquote hraw hmarkup, by simp⟩
    · cases h

theorem scanAttributes?_spelled {attributes : List RawAttribute} {isEmpty : Bool}
    (h : scanAttributes? cs = some (attributes, isEmpty, rest)) :
    ∃ inner gap, RawAttribute.AllSpelled attributes inner ∧ Blanks gap ∧
      cs = inner ++ gap ++ StartTag.ending isEmpty ++ rest := by
  fun_induction scanAttributes? cs generalizing attributes isEmpty rest with
  | case1 cs after hafter =>
    cases h
    obtain ⟨gap, hgap, -, rfl⟩ := exists_blanks_of_skipSpaces hafter
    exact ⟨[], gap, .nil, hgap, by simp [StartTag.ending]⟩
  | case2 cs after hafter =>
    cases h
    obtain ⟨gap, hgap, -, rfl⟩ := exists_blanks_of_skipSpaces hafter
    exact ⟨[], gap, .nil, hgap, by simp [StartTag.ending]⟩
  | case3 => cases h
  | case4 cs hspace a after hattribute _ _ _ ih =>
    rw [Option.map_eq_some_iff] at h
    obtain ⟨⟨as, e, r⟩, hrest, heq⟩ := h
    cases heq
    obtain ⟨first, hfirst, hskip⟩ := scanAttribute?_spelled hattribute
    obtain ⟨inner, gap, hinner, hgap, rfl⟩ := ih hrest
    obtain ⟨front, hfront, hne, hcs⟩ := exists_blanks_of_skipSpaces hskip
    refine ⟨front ++ first ++ inner, gap, .cons hfront (hne hspace) hfirst hinner, hgap, ?_⟩
    rw [hcs]
    simp only [List.append_assoc]
  | case5 => cases h

/-! ### The pieces of a document -/

/-- A start tag is taken off as it is written. -/
theorem scanStart?_spelled {m : Markup} (h : scanStart? cs = some (m, rest)) :
    ∃ piece, m.Spelled piece ∧ '<' :: cs = piece ++ rest := by
  unfold scanStart? at h
  split at h
  · cases h
  · next written name afterName hname =>
    rw [Option.map_eq_some_iff] at h
    obtain ⟨⟨as, isEmpty, r⟩, hattributes, heq⟩ := h
    cases heq
    obtain ⟨hspelled, hcs⟩ := scanName?_spelled hname
    obtain ⟨inner, gap, hinner, hgap, hafter⟩ := scanAttributes?_spelled hattributes
    refine ⟨_, .start (.spelled hspelled hinner hgap), ?_⟩
    simp only [hcs, hafter, List.cons_append, List.append_assoc]

theorem scanClose?_spelled {m : Markup} (h : scanClose? cs = some (m, rest)) :
    ∃ piece, m.Spelled piece ∧ '<' :: '/' :: cs = piece ++ rest := by
  unfold scanClose? at h
  split at h
  · cases h
  · next written name afterName hname =>
    obtain ⟨hspelled, hcs⟩ := scanName?_spelled hname
    split at h
    · next after hafter =>
      cases h
      obtain ⟨gap, hgap, -, rfl⟩ := exists_blanks_of_skipSpaces hafter
      exact ⟨_, .close hspelled hgap, by simp [hcs]⟩
    · cases h

theorem scanComment?_spelled {m : Markup} (h : scanComment? cs = some (m, rest)) :
    ∃ piece, m.Spelled piece ∧ '<' :: '!' :: '-' :: '-' :: cs = piece ++ rest := by
  unfold scanComment? at h
  split at h
  · next body after hcut =>
    obtain ⟨rfl, -⟩ := cutAt?_eq_some (List.cons_ne_nil _ _) hcut
    split at h
    · next hbody =>
      cases h
      exact ⟨_, .comment hbody, by simp⟩
    · cases h
  · cases h

theorem scanVerbatim?_spelled {m : Markup} (h : scanVerbatim? cs = some (m, rest)) :
    ∃ piece, m.Spelled piece ∧
      '<' :: '!' :: '[' :: 'C' :: 'D' :: 'A' :: 'T' :: 'A' :: '[' :: cs = piece ++ rest := by
  unfold scanVerbatim? at h
  split at h
  · next body after hcut =>
    obtain ⟨rfl, hfree⟩ := cutAt?_eq_some (List.cons_ne_nil _ _) hcut
    split at h
    · cases h
      exact ⟨_, .verbatim hfree, by simp⟩
    · cases h
  · cases h

theorem scanInstruction?_spelled {m : Markup} (h : scanInstruction? cs = some (m, rest)) :
    ∃ piece, m.Spelled piece ∧ '<' :: '?' :: cs = piece ++ rest := by
  unfold scanInstruction? at h
  split at h
  · cases h
  · split at h
    · next body after hcut =>
      obtain ⟨hbehind, hfree⟩ := cutAt?_eq_some (List.cons_ne_nil _ _) hcut
      split at h
      · cases h
        obtain ⟨gap, hgap, -, hafter⟩ := exists_blanks_of_skipSpaces hbehind
        have htarget : ∀ c ∈ cs.takeWhile isNameChar, isNameChar c = true :=
          fun c hc => List.mem_takeWhile_imp hc
        refine ⟨_, .instruction htarget hgap hfree, ?_⟩
        calc '<' :: '?' :: cs
          _ = '<' :: '?' :: (cs.takeWhile isNameChar ++ cs.dropWhile isNameChar) := by
            rw [List.takeWhile_append_dropWhile]
          _ = _ := by rw [hafter]; simp
      · cases h
    · cases h

/-- A piece of markup is what is taken off the text. -/
theorem scanMarked?_spelled {m : Markup} (h : scanMarked? cs = some (m, rest)) :
    ∃ piece, m.Spelled piece ∧ '<' :: cs = piece ++ rest := by
  unfold scanMarked? at h
  split at h
  · exact scanComment?_spelled h
  · exact scanVerbatim?_spelled h
  · exact scanInstruction?_spelled h
  · exact scanClose?_spelled h
  · exact scanStart?_spelled h

/-- **The pieces of a document make up its text.** -/
theorem Markup.scan?_spelled {pieces : List Markup} (h : scan? cs = some pieces) :
    ∃ parts, List.Forall₂ Spelled pieces parts ∧ cs = parts.flatten := by
  fun_induction scan? cs generalizing pieces with
  | case1 =>
    cases h
    exact ⟨[], .nil, rfl⟩
  | case2 => cases h
  | case3 rest m after hmarked _ ih =>
    rw [Option.map_eq_some_iff] at h
    obtain ⟨others, hothers, rfl⟩ := h
    obtain ⟨part, hpart, hrest⟩ := scanMarked?_spelled hmarked
    obtain ⟨parts, hparts, rfl⟩ := ih hothers
    exact ⟨part :: parts, .cons hpart hparts, hrest⟩
  | case4 c rest hc hdata ih =>
    rw [Option.map_eq_some_iff] at h
    obtain ⟨others, hothers, rfl⟩ := h
    obtain ⟨parts, hparts, hrest⟩ := ih hothers
    refine ⟨(c :: rest.takeWhile isPlain) :: parts, .cons (.text (List.cons_ne_nil _ _) ?_) hparts, ?_⟩
    · intro hmem
      rcases List.mem_cons.mp hmem with rfl | hmem
      · exact hc rfl
      · have hplain : isPlain '<' = true := List.mem_takeWhile_imp hmem
        cases hplain
    · rw [List.flatten_cons, ← hrest, List.cons_append, List.takeWhile_append_dropWhile]
  | case5 => cases h

end MarkupActions.Xml
