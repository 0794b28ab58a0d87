import MarkupActions.Text.Basic
import MarkupActions.Xml.Reference

/-!
# MarkupActions.Xml.Markup

**A document as a sequence of tags and what stands between them.** `Markup.scan?` cuts a text into
start tags, end tags, character data, and asides (comments and processing instructions), and
refuses it where none of these is well formed. Whether tags match, and what prefixes mean, is not
decided here.

Every scanner returns what is left of the text, and a lemma beside it says that this is less than
it was given, or at least not more.
-/

namespace MarkupActions.Xml

/-! ### Names -/

/-- A name in its two parts. -/
structure QName where
  /-- The part before the colon, empty when there is no colon. -/
  qualifier : List Char
  /-- The part behind the colon. -/
  localPart : List Char
  deriving DecidableEq

namespace QName

/-- The first character of a part of a name can begin a name. -/
def beginsWell : List Char → Bool
  | [] => false
  | c :: _ => isNameStart c

/-- The name that a run of name characters is: at most one colon, and a good beginning of the parts
around it. The part before the colon may be empty. -/
def ofRun? (run : List Char) : Option QName :=
  match run.splitOn ':' with
  | [name] => if beginsWell name then some ⟨[], name⟩ else none
  | [qualifier, name] =>
      if (qualifier.isEmpty || beginsWell qualifier) && beginsWell name
      then some ⟨qualifier, name⟩ else none
  | _ => none

end QName

/-! ### Pieces of markup -/

/-- An attribute as it is written, its value not yet read. -/
structure RawAttribute where
  written : List Char
  name : QName
  /-- The characters between the quotes. -/
  raw : List Char

/-- A start tag, or the tag of an element without content. -/
structure StartTag where
  /-- The text of the document from behind the tag's `<` on. -/
  opening : List Char
  written : List Char
  name : QName
  /-- The attributes, in written order, namespace declarations among them. -/
  attributes : List RawAttribute
  isEmpty : Bool

/-- A piece of a document. -/
inductive Markup where
  /-- Characters between tags, as written. -/
  | text (raw : List Char)
  /-- Characters of a stretch in which nothing is markup. -/
  | verbatim (raw : List Char)
  /-- A comment or a processing instruction. -/
  | aside
  | start (tag : StartTag)
  | close (name : QName)

/-- Whether the piece may stand outside the root element. -/
def Markup.isMisc : Markup → Bool
  | .text raw => raw.all isSpace
  | .aside => true
  | _ => false

/-! ### Scanning -/

/-- The text without the white space in front of it. -/
def skipSpaces (cs : List Char) : List Char := cs.dropWhile isSpace

/-- The text before and behind the first occurrence of a marker. -/
def cutAt? (marker : List Char) : List Char → Option (List Char × List Char)
  | [] => none
  | c :: rest =>
      if marker.isPrefixOf (c :: rest) then some ([], (c :: rest).drop marker.length)
      else (cutAt? marker rest).map fun r => (c :: r.1, r.2)

/-- A qualified name in front of a text: as written, its parts, and the rest. -/
def scanName? (cs : List Char) : Option (List Char × QName × List Char) :=
  (QName.ofRun? (cs.takeWhile isNameChar)).map fun name =>
    (cs.takeWhile isNameChar, name, cs.dropWhile isNameChar)

/-- Characters between two of the same quote, and what follows the second. They may not hold `<`. -/
def scanQuoted? : List Char → Option (List Char × List Char)
  | [] => none
  | quote :: rest =>
      if quote = '"' ∨ quote = '\'' then
        -- The other quote is an ordinary character here.
        let raw := rest.takeWhile (· ≠ quote)
        match rest.dropWhile (· ≠ quote) with
        | [] => none
        | _ :: after =>
            if raw.all fun c => isXmlChar c && c ≠ '<' then some (raw, after) else none
      else none

/-- A name, an equals sign and a quoted value in front of a text, and the rest. -/
def scanAttribute? (cs : List Char) : Option (RawAttribute × List Char) :=
  match scanName? cs with
  | none => none
  | some (written, name, afterName) =>
      match skipSpaces afterName with
      | '=' :: afterEquals =>
          (scanQuoted? (skipSpaces afterEquals)).map fun r => (⟨written, name, r.1⟩, r.2)
      | _ => none

theorem length_dropWhile_le (p : Char → Bool) (cs : List Char) :
    (cs.dropWhile p).length ≤ cs.length := (List.dropWhile_sublist p).length_le

theorem length_scanName?_le {cs written rest : List Char} {name : QName}
    (h : scanName? cs = some (written, name, rest)) : rest.length ≤ cs.length := by
  simp only [scanName?, Option.map_eq_some_iff, Prod.mk.injEq] at h
  obtain ⟨_, -, -, -, rfl⟩ := h
  exact length_dropWhile_le ..

theorem length_scanQuoted?_lt {cs raw rest : List Char}
    (h : scanQuoted? cs = some (raw, rest)) : rest.length < cs.length := by
  unfold scanQuoted? at h
  split at h
  · simp at h
  · next quote tail =>
    split at h
    · simp only at h
      split at h
      · simp at h
      · next after hd =>
        split at h <;> simp only [reduceCtorEq, Option.some.injEq, Prod.mk.injEq] at h
        obtain ⟨-, rfl⟩ := h
        have := length_dropWhile_le (· ≠ quote) tail
        rw [hd] at this
        simp only [List.length_cons] at this ⊢
        omega
    · simp at h

theorem length_scanAttribute?_lt {cs rest : List Char} {a : RawAttribute}
    (h : scanAttribute? cs = some (a, rest)) : rest.length < cs.length := by
  unfold scanAttribute? at h
  split at h
  · simp at h
  · next afterName hn =>
    split at h
    · next afterEquals he =>
      simp only [Option.map_eq_some_iff, Prod.mk.injEq] at h
      obtain ⟨⟨raw, r⟩, hq, -, rfl⟩ := h
      have h1 := length_scanName?_le hn
      have h2 := length_dropWhile_le isSpace afterName
      have h3 := length_dropWhile_le isSpace afterEquals
      have h4 := length_scanQuoted?_lt hq
      simp only [skipSpaces] at he h4
      rw [he] at h2
      simp only [List.length_cons] at h2 ⊢
      omega
    · simp at h

/-- The attributes of a start tag through its end, whether it ends the element too, and the rest.
White space stands in front of every attribute. -/
def scanAttributes? (cs : List Char) : Option (List RawAttribute × Bool × List Char) :=
  match skipSpaces cs with
  | '/' :: '>' :: rest => some ([], true, rest)
  | '>' :: rest => some ([], false, rest)
  | _ =>
      if cs.head?.any isSpace then
        match h : scanAttribute? (skipSpaces cs) with
        | none => none
        | some (a, rest) =>
            have : rest.length < cs.length :=
              Nat.lt_of_lt_of_le (length_scanAttribute?_lt h) (length_dropWhile_le isSpace cs)
            (scanAttributes? rest).map fun r => (a :: r.1, r.2)
      else none
termination_by cs.length

/-- A start tag behind its `<`, and the rest. -/
def scanStart? (cs : List Char) : Option (Markup × List Char) :=
  match scanName? cs with
  | none => none
  | some (written, name, afterName) =>
      (scanAttributes? afterName).map fun r => (.start ⟨cs, written, name, r.1, r.2.1⟩, r.2.2)

/-- An end tag behind its `</`, and the rest. -/
def scanClose? (cs : List Char) : Option (Markup × List Char) :=
  match scanName? cs with
  | none => none
  | some (_, name, afterName) =>
      match skipSpaces afterName with
      | '>' :: rest => some (.close name, rest)
      | _ => none

/-- Whether the text of a comment is free of two dashes in a row, the dash of its end included. -/
def isComment : List Char → Bool
  | [] => true
  | ['-'] => false
  | '-' :: '-' :: _ => false
  | c :: rest => isXmlChar c && isComment rest

/-- A comment behind its opening, and the rest. -/
def scanComment? (cs : List Char) : Option (Markup × List Char) :=
  match cutAt? ['-', '-', '>'] cs with
  | some (body, rest) => if isComment body then some (.aside, rest) else none
  | none => none

/-- A stretch without markup behind its opening, and the rest. -/
def scanVerbatim? (cs : List Char) : Option (Markup × List Char) :=
  match cutAt? [']', ']', '>'] cs with
  | some (body, rest) => if body.all isXmlChar then some (.verbatim body, rest) else none
  | none => none

/-- What a document's declaration begins with, behind `<?`. It is no processing instruction. -/
def declarationMark : List Char := ['x', 'm', 'l', ' ']

/-- A processing instruction behind its `<?`, and the rest. Its target is a name. -/
def scanInstruction? (cs : List Char) : Option (Markup × List Char) :=
  -- A target such as `xml-stylesheet` is a name like any other.
  if declarationMark.isPrefixOf cs || !QName.beginsWell cs then none
  else
    match cutAt? ['?', '>'] (skipSpaces (cs.dropWhile isNameChar)) with
    | some (body, rest) => if body.all isXmlChar then some (.aside, rest) else none
    | none => none

/-- A piece of markup behind its `<`, and the rest. -/
def scanMarked? : List Char → Option (Markup × List Char)
  | '!' :: '-' :: '-' :: rest => scanComment? rest
  | '!' :: '[' :: 'C' :: 'D' :: 'A' :: 'T' :: 'A' :: '[' :: rest => scanVerbatim? rest
  | '?' :: rest => scanInstruction? rest
  | '/' :: rest => scanClose? rest
  | cs => scanStart? cs

/-- Whether characters may stand between tags: they are characters of documents, their references
are good, and the end of a stretch without markup does not occur. -/
def isCharacterData (raw : List Char) : Bool :=
  raw.all isXmlChar && (cutAt? [']', ']', '>'] raw).isNone && hasGoodReferences raw

theorem length_cutAt?_le {marker cs before after : List Char}
    (h : cutAt? marker cs = some (before, after)) : after.length ≤ cs.length := by
  induction cs generalizing before after with
  | nil => simp [cutAt?] at h
  | cons c rest ih =>
    simp only [cutAt?] at h
    split at h
    · simp only [Option.some.injEq, Prod.mk.injEq] at h
      obtain ⟨-, rfl⟩ := h
      simp
    · simp only [Option.map_eq_some_iff, Prod.mk.injEq] at h
      obtain ⟨⟨b, a⟩, hr, -, rfl⟩ := h
      exact Nat.le_succ_of_le (ih hr)

theorem length_scanAttributes?_lt {cs rest : List Char} {as : List RawAttribute} {e : Bool}
    (h : scanAttributes? cs = some (as, e, rest)) : rest.length ≤ cs.length := by
  fun_induction scanAttributes? cs generalizing as e rest
  case case1 cs tail hs =>
    simp only [Option.some.injEq, Prod.mk.injEq] at h
    obtain ⟨-, -, rfl⟩ := h
    have := length_dropWhile_le isSpace cs
    simp only [skipSpaces] at hs
    rw [hs] at this
    simp only [List.length_cons] at this
    omega
  case case2 cs tail hs =>
    simp only [Option.some.injEq, Prod.mk.injEq] at h
    obtain ⟨-, -, rfl⟩ := h
    have := length_dropWhile_le isSpace cs
    simp only [skipSpaces] at hs
    rw [hs] at this
    simp only [List.length_cons] at this
    omega
  case case3 => simp at h
  case case4 ih =>
    simp only [Option.map_eq_some_iff, Prod.mk.injEq] at h
    obtain ⟨⟨as', e', r⟩, hr, -, -, rfl⟩ := h
    have := ih hr
    omega
  case case5 => simp at h

theorem length_scanMarked?_le {cs rest : List Char} {m : Markup}
    (h : scanMarked? cs = some (m, rest)) : rest.length ≤ cs.length := by
  unfold scanMarked? at h
  split at h
  · next tail =>
    unfold scanComment? at h
    split at h
    · next hc =>
      have := length_cutAt?_le hc
      split at h <;> simp only [reduceCtorEq, Option.some.injEq, Prod.mk.injEq] at h
      obtain ⟨-, rfl⟩ := h
      simp only [List.length_cons]; omega
    · simp at h
  · next tail =>
    unfold scanVerbatim? at h
    split at h
    · next hc =>
      have := length_cutAt?_le hc
      split at h <;> simp only [reduceCtorEq, Option.some.injEq, Prod.mk.injEq] at h
      obtain ⟨-, rfl⟩ := h
      simp only [List.length_cons]; omega
    · simp at h
  · next tail =>
    unfold scanInstruction? at h
    split at h
    · simp at h
    · split at h
      · next hc =>
        have h1 := length_cutAt?_le hc
        have h2 := length_dropWhile_le isNameChar tail
        have h3 := length_dropWhile_le isSpace (tail.dropWhile isNameChar)
        simp only [skipSpaces] at h1
        split at h <;> simp only [reduceCtorEq, Option.some.injEq, Prod.mk.injEq] at h
        obtain ⟨-, rfl⟩ := h
        simp only [List.length_cons]; omega
      · simp at h
  · next tail =>
    unfold scanClose? at h
    split at h
    · simp at h
    · next afterName hn =>
      have h1 := length_scanName?_le hn
      split at h
      · next hs =>
        have h2 := length_dropWhile_le isSpace afterName
        simp only [skipSpaces] at hs
        rw [hs] at h2
        simp only [Option.some.injEq, Prod.mk.injEq] at h
        obtain ⟨-, rfl⟩ := h
        simp only [List.length_cons] at h2 ⊢; omega
      · simp at h
  · unfold scanStart? at h
    split at h
    · simp at h
    · next hn =>
      have h1 := length_scanName?_le hn
      simp only [Option.map_eq_some_iff, Prod.mk.injEq] at h
      obtain ⟨⟨as, e, r⟩, hr, -, rfl⟩ := h
      have h2 := length_scanAttributes?_lt hr
      simp only at h2 ⊢
      omega

/-- Characters that begin no markup. -/
def isPlain (c : Char) : Bool := c != '<'

/-- The pieces of a text, none when it is not well formed somewhere. -/
def Markup.scan? : List Char → Option (List Markup)
  | [] => some []
  | c :: rest =>
      if c = '<' then
        match h : scanMarked? rest with
        | none => none
        | some (m, after) =>
            have : after.length ≤ rest.length := length_scanMarked?_le h
            (Markup.scan? after).map (m :: ·)
      else if isCharacterData (c :: rest.takeWhile isPlain) then
        (Markup.scan? (rest.dropWhile isPlain)).map (.text (c :: rest.takeWhile isPlain) :: ·)
      else none
termination_by cs => cs.length
decreasing_by
  · exact Nat.lt_succ_of_le this
  · exact Nat.lt_succ_of_le (length_dropWhile_le _ rest)

end MarkupActions.Xml
