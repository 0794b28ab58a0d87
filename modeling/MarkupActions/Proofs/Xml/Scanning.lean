import MarkupActions.Xml.Reader

/-!
# MarkupActions.Proofs.Xml.Scanning

**Where the start tags of a document stand.** A scanner takes something off the beginning of a text
and leaves the rest as it is. So every start tag that is found is written in the document, behind a
`<`, and what counts as its name is the longest run of name characters there; blanks of markup, a
slash or the end of the tag follow (`StartTag.StandsIn`).
-/

namespace MarkupActions.Xml

variable {cs rest : List Char} {m : Markup}

/-! ### What scanners leave -/

theorem scanName?_eq_some {written : List Char} {name : QName}
    (h : scanName? cs = some (written, name, rest)) :
    written = cs.takeWhile isNameChar ∧ rest = cs.dropWhile isNameChar ∧
      QName.ofRun? written = some name := by
  rw [scanName?, Option.map_eq_some_iff] at h
  obtain ⟨name, hname, heq⟩ := h
  cases heq
  exact ⟨rfl, rfl, hname⟩

/-- What is left of a text is the end of it. -/
theorem skipSpaces_suffix (cs : List Char) : skipSpaces cs <:+ cs := List.dropWhile_suffix isSpace

theorem cutAt?_suffix {marker before : List Char} (h : cutAt? marker cs = some (before, rest)) :
    rest <:+ cs := by
  induction cs generalizing before with
  | nil => cases h
  | cons c cs ih =>
    rw [cutAt?] at h
    split at h
    · cases h
      exact List.drop_suffix _ _
    · rw [Option.map_eq_some_iff] at h
      obtain ⟨⟨b, r⟩, hcut, heq⟩ := h
      cases heq
      exact (ih hcut).trans (List.suffix_cons c cs)

theorem scanQuoted?_suffix {raw : List Char} (h : scanQuoted? cs = some (raw, rest)) :
    rest <:+ cs := by
  unfold scanQuoted? at h
  split at h
  · cases h
  · next quote tail =>
    split at h
    · dsimp only at h
      split at h
      · cases h
      · next c after hafter =>
        split at h
        · cases h
          have hdrop : c :: rest <:+ tail := hafter ▸ List.dropWhile_suffix _
          exact ((List.suffix_cons c rest).trans hdrop).trans (List.suffix_cons quote tail)
        · cases h
    · cases h

theorem scanAttribute?_suffix {a : RawAttribute} (h : scanAttribute? cs = some (a, rest)) :
    rest <:+ cs := by
  unfold scanAttribute? at h
  split at h
  · cases h
  · next written name afterName hname =>
    split at h
    · next afterEquals hequals =>
      rw [Option.map_eq_some_iff] at h
      obtain ⟨⟨raw, r⟩, hquoted, heq⟩ := h
      cases heq
      have hname' : afterName <:+ cs :=
        (scanName?_eq_some hname).2.1 ▸ List.dropWhile_suffix isNameChar
      have hequals' : '=' :: afterEquals <:+ afterName := hequals ▸ skipSpaces_suffix afterName
      exact ((((scanQuoted?_suffix hquoted).trans (skipSpaces_suffix _)).trans
        (List.suffix_cons _ _)).trans hequals').trans hname'
    · cases h

theorem scanAttributes?_suffix {attributes : List RawAttribute} {ends : Bool}
    (h : scanAttributes? cs = some (attributes, ends, rest)) : rest <:+ cs := by
  fun_induction scanAttributes? cs generalizing attributes ends rest with
  | case1 cs after hafter =>
    cases h
    have hspaces : '/' :: '>' :: after <:+ cs := hafter ▸ skipSpaces_suffix cs
    exact ((List.suffix_cons '>' after).trans (List.suffix_cons '/' _)).trans hspaces
  | case2 cs after hafter =>
    cases h
    have hspaces : '>' :: after <:+ cs := hafter ▸ skipSpaces_suffix cs
    exact (List.suffix_cons '>' after).trans hspaces
  | case3 => cases h
  | case4 cs _ _ _ a after hattribute _ ih =>
    rw [Option.map_eq_some_iff] at h
    obtain ⟨⟨as, e, r⟩, hrest, heq⟩ := h
    cases heq
    exact ((ih hrest).trans (scanAttribute?_suffix ‹_›)).trans (skipSpaces_suffix cs)
  | case5 => cases h

/-! ### Start tags -/

/-- A start tag whose text stands behind a `<`, with a name that is followed by a blank, by a slash or
by the end of the tag. -/
structure StartTag.StandsIn (cs : List Char) (tag : StartTag) : Prop where
  place : '<' :: tag.opening <:+ cs
  name : QName.ofRun? (tag.opening.takeWhile isNameChar) = some tag.name
  behind : ∃ c after, tag.opening.dropWhile isNameChar = c :: after ∧
    (isSpace c = true ∨ c = '/' ∨ c = '>')

/-- A tag that stands in the end of a text stands in the text. -/
theorem StartTag.StandsIn.mono {tag : StartTag} (h : tag.StandsIn rest) (hrest : rest <:+ cs) :
    tag.StandsIn cs :=
  ⟨h.place.trans hrest, h.name, h.behind⟩

/-- All start tags among some pieces of a document stand in a text. -/
def Markup.AllStandIn (cs : List Char) (pieces : List Markup) : Prop :=
  ∀ tag, .start tag ∈ pieces → tag.StandsIn cs

namespace Markup.AllStandIn

variable {pieces : List Markup}

theorem head {tag : StartTag} (h : AllStandIn cs (.start tag :: pieces)) : tag.StandsIn cs :=
  h tag List.mem_cons_self

theorem tail (h : AllStandIn cs (m :: pieces)) : AllStandIn cs pieces := fun tag htag =>
  h tag (List.mem_cons_of_mem m htag)

theorem mono (h : AllStandIn rest pieces) (hrest : rest <:+ cs) : AllStandIn cs pieces :=
  fun tag htag => (h tag htag).mono hrest

end Markup.AllStandIn

/-- What comes first behind blanks either is there at once or has a blank in front. -/
theorem exists_cons_of_skipSpaces {c : Char} (h : skipSpaces cs = c :: rest) :
    ∃ d after, cs = d :: after ∧ (isSpace d = true ∨ d = c) := by
  cases cs with
  | nil => cases h
  | cons d after =>
    refine ⟨d, after, rfl, ?_⟩
    by_cases hspace : isSpace d = true
    · exact .inl hspace
    · rw [skipSpaces, List.dropWhile_cons_of_neg hspace] at h
      cases h
      exact .inr rfl

/-- What stands behind a name in a start tag ends the name. -/
theorem scanAttributes?_behind {attributes : List RawAttribute} {ends : Bool}
    (h : scanAttributes? cs = some (attributes, ends, rest)) :
    ∃ c after, cs = c :: after ∧ (isSpace c = true ∨ c = '/' ∨ c = '>') := by
  have hspace : cs.head?.any isSpace = true →
      ∃ c after, cs = c :: after ∧ (isSpace c = true ∨ c = '/' ∨ c = '>') := by
    intro hhead
    cases cs with
    | nil => cases hhead
    | cons c after => exact ⟨c, after, rfl, .inl hhead⟩
  revert h
  fun_cases scanAttributes? cs with
  | case1 after hafter =>
    intro _
    obtain ⟨d, behind, heq, hd⟩ := exists_cons_of_skipSpaces hafter
    exact ⟨d, behind, heq, hd.imp_right .inl⟩
  | case2 after hafter =>
    intro _
    obtain ⟨d, behind, heq, hd⟩ := exists_cons_of_skipSpaces hafter
    exact ⟨d, behind, heq, hd.imp_right .inr⟩
  | case3 => exact fun _ => hspace ‹_›
  | case4 => exact fun _ => hspace ‹_›
  | case5 => nofun

/-- A start tag stands in the text where it was taken off. -/
theorem scanStart?_eq_some (h : scanStart? cs = some (m, rest)) :
    rest <:+ cs ∧ ∀ tag, m = .start tag → tag.StandsIn ('<' :: cs) := by
  unfold scanStart? at h
  split at h
  · cases h
  · next written name afterName hname =>
    rw [Option.map_eq_some_iff] at h
    obtain ⟨⟨as, ends, r⟩, hattributes, heq⟩ := h
    cases heq
    obtain ⟨rfl, rfl, hrun⟩ := scanName?_eq_some hname
    refine ⟨(scanAttributes?_suffix hattributes).trans (List.dropWhile_suffix isNameChar), ?_⟩
    intro tag htag
    cases htag
    exact ⟨List.suffix_refl _, hrun, scanAttributes?_behind hattributes⟩

/-! ### The pieces of a document -/

/-- An end tag is no start tag. -/
theorem scanClose?_eq_some (h : scanClose? cs = some (m, rest)) :
    rest <:+ cs ∧ ∀ tag, m ≠ .start tag := by
  unfold scanClose? at h
  split at h
  · cases h
  · next written name afterName hname =>
    obtain ⟨-, rfl, -⟩ := scanName?_eq_some hname
    split at h
    · next after hafter =>
      cases h
      have hend : '>' :: rest <:+ cs.dropWhile isNameChar := hafter ▸ skipSpaces_suffix _
      exact ⟨((List.suffix_cons _ _).trans hend).trans (List.dropWhile_suffix _), nofun⟩
    · cases h

theorem scanComment?_eq_some (h : scanComment? cs = some (m, rest)) :
    rest <:+ cs ∧ ∀ tag, m ≠ .start tag := by
  unfold scanComment? at h
  split at h
  · next hcut =>
    split at h
    · cases h
      exact ⟨cutAt?_suffix hcut, nofun⟩
    · cases h
  · cases h

theorem scanVerbatim?_eq_some (h : scanVerbatim? cs = some (m, rest)) :
    rest <:+ cs ∧ ∀ tag, m ≠ .start tag := by
  unfold scanVerbatim? at h
  split at h
  · next hcut =>
    split at h
    · cases h
      exact ⟨cutAt?_suffix hcut, nofun⟩
    · cases h
  · cases h

theorem scanInstruction?_eq_some (h : scanInstruction? cs = some (m, rest)) :
    rest <:+ cs ∧ ∀ tag, m ≠ .start tag := by
  unfold scanInstruction? at h
  split at h
  · cases h
  · split at h
    · next hcut =>
      split at h
      · cases h
        exact ⟨((cutAt?_suffix hcut).trans (skipSpaces_suffix _)).trans
          (List.dropWhile_suffix isNameChar), nofun⟩
      · cases h
    · cases h

/-- Of the pieces of markup, those that are start tags stand where they were found. -/
theorem scanMarked?_eq_some (h : scanMarked? cs = some (m, rest)) :
    rest <:+ cs ∧ ∀ tag, m = .start tag → tag.StandsIn ('<' :: cs) := by
  unfold scanMarked? at h
  split at h
  · obtain ⟨hrest, hm⟩ := scanComment?_eq_some h
    exact ⟨hrest.trans (List.suffix_append ['!', '-', '-'] _), fun tag htag => absurd htag (hm tag)⟩
  · obtain ⟨hrest, hm⟩ := scanVerbatim?_eq_some h
    exact ⟨hrest.trans (List.suffix_append ['!', '[', 'C', 'D', 'A', 'T', 'A', '['] _),
      fun tag htag => absurd htag (hm tag)⟩
  · obtain ⟨hrest, hm⟩ := scanInstruction?_eq_some h
    exact ⟨hrest.trans (List.suffix_cons '?' _), fun tag htag => absurd htag (hm tag)⟩
  · obtain ⟨hrest, hm⟩ := scanClose?_eq_some h
    exact ⟨hrest.trans (List.suffix_cons '/' _), fun tag htag => absurd htag (hm tag)⟩
  · exact scanStart?_eq_some h

/-- Every start tag of a document stands in its text. -/
theorem Markup.scan?_standsIn {pieces : List Markup} (h : scan? cs = some pieces) :
    AllStandIn cs pieces := by
  fun_induction scan? cs generalizing pieces with
  | case1 =>
    cases h
    nofun
  | case2 => cases h
  | case3 rest m after hmarked _ ih =>
    rw [Option.map_eq_some_iff] at h
    obtain ⟨others, hothers, rfl⟩ := h
    obtain ⟨hafter, hm⟩ := scanMarked?_eq_some hmarked
    intro tag htag
    rcases List.mem_cons.1 htag with hfirst | hrest
    · exact hm tag hfirst.symm
    · exact (ih hothers).mono (hafter.trans (List.suffix_cons '<' rest)) tag hrest
  | case4 c rest hc hdata ih =>
    rw [Option.map_eq_some_iff] at h
    obtain ⟨others, hothers, rfl⟩ := h
    have hafter : rest.dropWhile isPlain <:+ c :: rest :=
      (List.dropWhile_suffix isPlain).trans (List.suffix_cons c rest)
    intro tag htag
    rcases List.mem_cons.1 htag with hfirst | hrest
    · cases hfirst
    · exact (ih hothers).mono hafter tag hrest
  | case5 => cases h

/-! ### What stands in front of the root -/

theorem skipMark_suffix (cs : List Char) : skipMark cs <:+ cs := by
  unfold skipMark
  split
  · exact List.suffix_cons _ _
  · exact List.suffix_refl _

theorem skipGap?_suffix (h : skipGap? cs = some rest) : rest <:+ cs := by
  unfold skipGap? at h
  split at h
  · cases h
    exact skipSpaces_suffix cs
  · cases h

theorem skipOptional?_suffix {name : List Char} (h : skipOptional? name cs = some rest) :
    rest <:+ cs := by
  unfold skipOptional? at h
  split at h
  · rw [Option.map_eq_some_iff] at h
    obtain ⟨⟨a, r⟩, hattribute, rfl⟩ := h
    exact scanAttribute?_suffix hattribute
  · cases h
    exact List.suffix_refl _

/-- The end of the declaration is cut off with what stands before it. -/
theorem suffix_of_declarationEnd {after : List Char}
    (hoptional : skipOptional? "standalone".toList cs = some after)
    (hend : skipSpaces after = '?' :: '>' :: rest) : rest <:+ cs := by
  have hclose : '?' :: '>' :: rest <:+ after := hend ▸ skipSpaces_suffix after
  exact (((List.suffix_cons _ _).trans (List.suffix_cons _ _)).trans hclose).trans
    (skipOptional?_suffix hoptional)

theorem skipDeclaration?_suffix (h : skipDeclaration? cs = some rest) : rest <:+ cs := by
  simp only [skipDeclaration?, Option.bind_eq_bind, Option.bind_some] at h
  rw [Option.bind_eq_some_iff] at h
  obtain ⟨atVersion, hversion, h⟩ := h
  split at h
  · cases h
  · simp only [Option.bind_eq_some_iff] at h
    obtain ⟨afterVersion, hoptional, atEncoding, hencoding, h⟩ := h
    have hsofar : atEncoding <:+ cs := ((skipGap?_suffix hencoding).trans
      (skipOptional?_suffix hoptional)).trans (skipGap?_suffix hversion)
    split at h
    · simp only [Option.bind_eq_some_iff] at h
      obtain ⟨afterEncoding, hoptional', atStandalone, hstandalone, after, hlast, h⟩ := h
      have hstandalone' : atStandalone <:+ cs := ((skipGap?_suffix hstandalone).trans
        (skipOptional?_suffix hoptional')).trans hsofar
      split at h
      · next hend =>
        cases h
        exact (suffix_of_declarationEnd hlast hend).trans hstandalone'
      · cases h
    · rw [Option.bind_eq_some_iff] at h
      obtain ⟨after, hlast, h⟩ := h
      split at h
      · next hend =>
        cases h
        exact (suffix_of_declarationEnd hlast hend).trans hsofar
      · cases h

/-- What is skipped in front of the root is not part of what is read. -/
theorem skipProlog?_suffix (h : skipProlog? cs = some rest) : rest <:+ cs := by
  unfold skipProlog? at h
  split at h
  · exact (skipDeclaration?_suffix h).trans (List.drop_suffix 5 cs)
  · cases h
    exact List.suffix_refl _

end MarkupActions.Xml
