import Mathlib.Computability.Language
import MarkupActions.Proofs.Registering
import MarkupActions.Proofs.Variables

/-!
# MarkupActions.Proofs.Grammar

**The grammars of checked names.** Locations, alias prefixes and namespace URIs are regular languages.
They are written here with the operations on languages, each as the pattern that it is known by, and
the checks accept what is in them. A check reads its text once, from the left; what a location is can
also be told from the parts between its dots, which are what reading and writing walk along. The two
descriptions meet in `Location.mem_locations_iff`: a list of identifiers is told from the text that it
is joined to, since no identifier holds a dot.
-/

namespace MarkupActions

open Computability

/-! ### Texts of one class of characters -/

namespace Text

variable {p : Char → Bool} {cs : List Char} {l : Language Char}

/-- The texts of one character, which is of a class. -/
def one (p : Char → Bool) : Language Char := {cs | ∃ c, p c = true ∧ cs = [c]}

theorem mem_one_mul : cs ∈ one p * l ↔ ∃ c rest, cs = c :: rest ∧ p c = true ∧ rest ∈ l := by
  rw [Language.mem_mul]
  constructor
  · rintro ⟨_, ⟨c, hc, rfl⟩, rest, hrest, rfl⟩
    exact ⟨c, rest, rfl, hc, hrest⟩
  · rintro ⟨c, rest, rfl, hc, hrest⟩
    exact ⟨[c], ⟨c, hc, rfl⟩, rest, hrest, rfl⟩

/-- Repeating a class of characters gives the texts of such characters. -/
theorem mem_kstar_one : cs ∈ (one p)∗ ↔ ∀ c ∈ cs, p c = true := by
  rw [Language.mem_kstar]
  constructor
  · rintro ⟨parts, rfl, hparts⟩ c hc
    obtain ⟨part, hpart, hc⟩ := List.mem_flatten.mp hc
    obtain ⟨d, hd, rfl⟩ := hparts part hpart
    rwa [List.mem_singleton.mp hc]
  · intro h
    refine ⟨cs.map fun c => [c], ?_, fun part hpart => ?_⟩
    · rw [← List.flatMap_def, List.flatMap_singleton']
    · obtain ⟨c, hc, rfl⟩ := List.mem_map.mp hpart
      exact ⟨c, h c hc, rfl⟩

/-- A text that begins with a character of one class and goes on with some of another. -/
def IsName (p q : Char → Bool) (cs : List Char) : Prop :=
  ∃ c rest, cs = c :: rest ∧ p c = true ∧ ∀ d ∈ rest, q d = true

/-- A pattern of two classes gives the names over them. -/
theorem mem_names {q : Char → Bool} : cs ∈ one p * (one q)∗ ↔ IsName p q cs := by
  simp only [mem_one_mul, mem_kstar_one, IsName]

theorem not_isName_nil {q : Char → Bool} : ¬ IsName p q [] := fun ⟨_, _, h, _⟩ => nomatch h

theorem isName_cons {q : Char → Bool} {c : Char} :
    IsName p q (c :: cs) ↔ p c = true ∧ ∀ d ∈ cs, q d = true := by
  constructor
  · rintro ⟨d, rest, heq, hd, hrest⟩
    cases heq
    exact ⟨hd, hrest⟩
  · rintro ⟨hc, hrest⟩
    exact ⟨c, cs, rfl, hc, hrest⟩

/-- The code points with the property White_Space. -/
def whiteSpace : List Nat :=
  [0x09, 0x0A, 0x0B, 0x0C, 0x0D, 0x20, 0x85, 0xA0, 0x1680, 0x2000, 0x2001, 0x2002, 0x2003, 0x2004,
    0x2005, 0x2006, 0x2007, 0x2008, 0x2009, 0x200A, 0x2028, 0x2029, 0x202F, 0x205F, 0x3000]

theorem isBlank_iff (c : Char) : isBlank c = true ↔ c.toNat ∈ whiteSpace := by
  simp only [isBlank, whiteSpace, Bool.or_eq_true, Bool.and_eq_true, decide_eq_true_eq, beq_iff_eq,
    List.mem_cons, List.not_mem_nil, or_false]
  omega

end Text

/-! ### Locations -/

namespace Location

open Text

variable {cs : List Char} {inside : Bool}

/-- A text that begins like an identifier and goes on like one. -/
def IsIdentifier (cs : List Char) : Prop := IsName isStart isPart cs

/-- Single identifiers. -/
def identifiers : Language Char := one isStart * (one isPart)∗

/-- Identifiers joined by dots. -/
def locations : Language Char := identifiers * (one (· = '.') * identifiers)∗

/-- The pattern of identifiers gives the identifiers. -/
theorem mem_identifiers : cs ∈ identifiers ↔ IsIdentifier cs := mem_names

theorem isPart_of_isStart {c : Char} (h : isStart c = true) : isPart c = true :=
  Bool.or_eq_true_iff.mpr (.inl h)

theorem IsIdentifier.isPart (h : IsIdentifier cs) : ∀ c ∈ cs, isPart c = true := by
  obtain ⟨c, rest, rfl, hc, hrest⟩ := h
  exact List.forall_mem_cons.mpr ⟨isPart_of_isStart hc, hrest⟩

theorem IsIdentifier.dot_not_mem (h : IsIdentifier cs) : '.' ∉ cs := by
  intro hdot
  have hpart := h.isPart '.' hdot
  cases hpart

/-! ### Reading a location -/

/-- Inside a segment only the further characters of a name can follow. -/
theorem accepts_true_iff (hdot : '.' ∉ cs) :
    accepts true cs = true ↔ ∀ c ∈ cs, Location.isPart c = true := by
  induction cs with
  | nil => exact iff_of_true rfl nofun
  | cons c rest ih =>
    rw [List.mem_cons, not_or] at hdot
    rw [accepts_cons_of_ne (Ne.symm hdot.1), ih hdot.2, List.forall_mem_cons]
    rfl

/-- Without dots, a location is an identifier. -/
theorem accepts_false_iff (hdot : '.' ∉ cs) : accepts false cs = true ↔ IsIdentifier cs := by
  cases cs with
  | nil => exact iff_of_false Bool.false_ne_true not_isName_nil
  | cons c rest =>
    rw [List.mem_cons, not_or] at hdot
    rw [accepts_cons_of_ne (Ne.symm hdot.1), accepts_true_iff hdot.2, IsIdentifier, isName_cons]
    simp only [Bool.false_eq_true, if_false]

/-- Where the parts between the dots are read, the whole text is. -/
theorem accepts_of_splitOn {first : List Char} {rest : List (List Char)}
    (hpieces : cs.splitOn '.' = first :: rest) (hfirst : accepts inside first = true)
    (hrest : ∀ piece ∈ rest, accepts false piece = true) : accepts inside cs = true := by
  induction cs generalizing inside first rest with
  | nil =>
    cases hpieces
    exact hfirst
  | cons c cs ih =>
    obtain ⟨next, more, hnext⟩ := List.exists_cons_of_ne_nil (List.splitOn_ne_nil '.' cs)
    by_cases hc : c = '.'
    · subst hc
      rw [List.splitOn_cons_eq_if_modifyHead, if_pos BEq.rfl, hnext] at hpieces
      cases hpieces
      obtain ⟨hnext', hmore⟩ := List.forall_mem_cons.mp hrest
      exact accepts_dot.mpr ⟨by rwa [accepts] at hfirst, ih hnext hnext' hmore⟩
    · rw [List.splitOn_cons_eq_if_modifyHead, if_neg (by simpa using hc), hnext] at hpieces
      cases hpieces
      obtain ⟨hpart, hnext'⟩ := (accepts_cons_of_ne hc).mp hfirst
      exact (accepts_cons_of_ne hc).mpr ⟨hpart, ih hnext hnext' hrest⟩

/-- Locations are accepted just if each of their pieces is an identifier. -/
theorem accepts_iff_splitOn : accepts false cs = true ↔ ∀ piece ∈ cs.splitOn '.', IsIdentifier piece := by
  have hpiece : ∀ piece ∈ cs.splitOn '.', accepts false piece = true ↔ IsIdentifier piece :=
    fun piece h => accepts_false_iff (not_mem_of_mem_splitOn h)
  obtain ⟨first, rest, hpieces⟩ := List.exists_cons_of_ne_nil (List.splitOn_ne_nil '.' cs)
  rw [← forall₂_congr hpiece, hpieces, List.forall_mem_cons]
  constructor
  · intro h
    exact accepts_splitOn h hpieces
  · rintro ⟨hfirst, hrest⟩
    exact accepts_of_splitOn hpieces hfirst hrest

/-! ### The language of locations -/

theorem intercalate_cons (sep : Char) (first : List Char) (rest : List (List Char)) :
    [sep].intercalate (first :: rest) = first ++ (rest.map (sep :: ·)).flatten := by
  induction rest generalizing first with
  | nil => simp
  | cons next rest ih =>
    rw [List.intercalate_cons_cons, ih, List.map_cons, List.flatten_cons]
    simp

/-- Identifiers behind dots, without the dots. -/
theorem exists_identifiers_of_dotted {parts : List (List Char)}
    (h : ∀ part ∈ parts, part ∈ one (· = '.') * identifiers) :
    ∃ rest : List (List Char), parts = rest.map ('.' :: ·) ∧ ∀ piece ∈ rest, IsIdentifier piece := by
  induction parts with
  | nil => exact ⟨[], rfl, nofun⟩
  | cons part parts ih =>
    obtain ⟨hpart, hparts⟩ := List.forall_mem_cons.mp h
    obtain ⟨dot, piece, rfl, hdot, hpiece⟩ := mem_one_mul.mp hpart
    obtain ⟨rest, rfl, hrest⟩ := ih hparts
    rw [of_decide_eq_true hdot]
    exact ⟨piece :: rest, rfl, List.forall_mem_cons.mpr ⟨mem_identifiers.mp hpiece, hrest⟩⟩

/-- A text is in the language just if there are identifiers between its dots. -/
theorem mem_locations_iff : cs ∈ locations ↔ ∀ piece ∈ cs.splitOn '.', IsIdentifier piece := by
  rw [locations, Language.mem_mul]
  constructor
  · rintro ⟨first, hfirst, _, ⟨parts, rfl, hparts⟩, rfl⟩
    obtain ⟨rest, rfl, hrest⟩ := exists_identifiers_of_dotted hparts
    have hall : ∀ piece ∈ first :: rest, IsIdentifier piece :=
      List.forall_mem_cons.mpr ⟨mem_identifiers.mp hfirst, hrest⟩
    rw [← intercalate_cons, List.splitOn_intercalate '.' (fun piece h => (hall piece h).dot_not_mem)
      (List.cons_ne_nil first rest)]
    exact hall
  · intro h
    obtain ⟨first, rest, hpieces⟩ := List.exists_cons_of_ne_nil (List.splitOn_ne_nil '.' cs)
    rw [hpieces, List.forall_mem_cons] at h
    refine ⟨first, mem_identifiers.mpr h.1, _, ⟨rest.map ('.' :: ·), rfl, fun part hpart => ?_⟩, ?_⟩
    · obtain ⟨piece, hpiece, rfl⟩ := List.mem_map.mp hpart
      exact mem_one_mul.mpr ⟨'.', piece, rfl, rfl, mem_identifiers.mpr (h.2 piece hpiece)⟩
    · rw [← intercalate_cons, ← hpieces, List.intercalate_splitOn]

/-! ### Segments -/

variable {s : String}

/-- The segments of a text make up the text. -/
theorem intercalate_segments (s : String) : ".".intercalate (segments s) = s := by
  rw [← String.toList_inj, String.toList_intercalate, toList_segments]
  exact List.intercalate_splitOn '.'

theorem isLocation_iff_segments :
    isLocation s = true ↔ ∀ segment ∈ segments s, IsIdentifier segment.toList := by
  rw [isLocation, accepts_iff_splitOn, segments, List.forall_mem_map]
  simp only [String.toList_ofList]

/-- The locations are the texts that the pattern gives. -/
theorem isLocation_iff_mem : isLocation s = true ↔ s.toList ∈ locations := by
  rw [isLocation, accepts_iff_splitOn, mem_locations_iff]

end Location

/-! ### Alias prefixes and namespace URIs -/

/-- Characters that begin an alias prefix. -/
def AliasPrefix.isStart (c : Char) : Bool := Text.isAsciiLetter c || c = '_'

/-- Characters that continue an alias prefix. -/
def AliasPrefix.isPart (c : Char) : Bool :=
  Text.isAsciiLetter c || Text.isAsciiDigit c || c = '.' || c = '_' || c = '-'

/-- Alias prefixes are the names over their two classes. -/
theorem isAliasPrefix_iff (s : String) : isAliasPrefix s = true ↔
    Text.IsName AliasPrefix.isStart AliasPrefix.isPart s.toList := by
  rw [isAliasPrefix]
  cases s.toList with
  | nil => exact iff_of_false Bool.false_ne_true Text.not_isName_nil
  | cons c rest =>
    rw [Bool.and_eq_true, List.all_eq_true, Text.isName_cons]
    simp only [AliasPrefix.isStart, AliasPrefix.isPart]

theorem isNamespaceUri_iff_whiteSpace (s : String) : isNamespaceUri s = true ↔
    s ≠ "" ∧ ∀ c ∈ s.toList, c.toNat ∉ Text.whiteSpace := by
  rw [isNamespaceUri_iff]
  simp only [← Text.isBlank_iff, Bool.not_eq_true]

/-- Characters that a namespace URI may hold. -/
def NamespaceUri.isPart (c : Char) : Bool := !Text.isBlank c

/-- The URIs of namespaces are the names over a single class of characters. -/
theorem isNamespaceUri_iff_isName (s : String) : isNamespaceUri s = true ↔
    Text.IsName NamespaceUri.isPart NamespaceUri.isPart s.toList := by
  rw [isNamespaceUri]
  cases s.toList with
  | nil => exact iff_of_false Bool.false_ne_true Text.not_isName_nil
  | cons c rest =>
    rw [Bool.and_eq_true, List.all_eq_true, List.forall_mem_cons, Text.isName_cons]
    exact and_iff_right rfl

/-- A registry accepts just these. -/
theorem checkUri_eq_ok_iff (s : String) : Registry.checkUri s = .ok () ↔ isNamespaceUri s = true := by
  rw [Registry.checkUri]
  split
  · next h => exact iff_of_true rfl h
  · next h => exact iff_of_false (by simp) h

/-- **Names are accepted just if they are in their grammars.** A location is a text with an identifier
in each part between its dots, or, as a pattern, an identifier and any number of identifiers behind
dots. So the segments that reading and writing walk along are never empty, and joined by dots they are
the location again. An alias prefix begins with a letter or an underscore and goes on with letters,
digits, dots, underscores and dashes, and a namespace URI is not empty and has no white space, also
not at its end. -/
theorem accepted_iff_in_grammar (s : String) :
    (isLocation s = true ↔ ∀ segment ∈ Location.segments s, Location.IsIdentifier segment.toList) ∧
    (isLocation s = true ↔ s.toList ∈ Location.locations) ∧
    ((Location.segments s).map String.toList = s.toList.splitOn '.' ∧
      ".".intercalate (Location.segments s) = s) ∧
    (isLocation s = true → (∀ segment ∈ Location.segments s, segment ≠ "") ∧
      ∃ first rest, Location.segments s = first :: rest ∧ ∀ m : DataModel,
        m.get? s = (Value.object m.vars.entries).lookup? (first :: rest) ∧
        ∀ v, (m.write s v).1.vars.entries = (v.putAt first rest m.vars.entries).1) ∧
    (isAliasPrefix s = true ↔ Text.IsName AliasPrefix.isStart AliasPrefix.isPart s.toList) ∧
    (isAliasPrefix s = true ↔
      s.toList ∈ Text.one AliasPrefix.isStart * (Text.one AliasPrefix.isPart)∗) ∧
    (Registry.checkUri s = .ok () ↔ s ≠ "" ∧ ∀ c ∈ s.toList, c.toNat ∉ Text.whiteSpace) ∧
    (Registry.checkUri s = .ok () ↔
      s.toList ∈ Text.one NamespaceUri.isPart * (Text.one NamespaceUri.isPart)∗) ∧
    Registry.checkUri (s ++ "\n") = .error (.invalidUri (s ++ "\n")) := by
  refine ⟨Location.isLocation_iff_segments, Location.isLocation_iff_mem,
    ⟨Location.toList_segments s, Location.intercalate_segments s⟩, fun hlocation => ⟨?nonempty, ?walk⟩,
    isAliasPrefix_iff s, ?prefixes, ?uri, ?uris, ?newline⟩
  case nonempty =>
    rintro segment hsegment rfl
    exact Text.not_isName_nil (Location.isLocation_iff_segments.mp hlocation "" hsegment)
  case walk =>
    obtain ⟨first, rest, hsegments⟩ := Location.exists_segments_eq_cons s
    refine ⟨first, rest, hsegments, fun m => ⟨?_, fun v => (DataModel.write_eq hlocation hsegments).1⟩⟩
    rw [DataModel.get?_eq, hsegments]
  case prefixes =>
    rw [isAliasPrefix_iff, Text.mem_names]
  case uri =>
    rw [checkUri_eq_ok_iff, isNamespaceUri_iff_whiteSpace]
  case uris =>
    rw [checkUri_eq_ok_iff, isNamespaceUri_iff_isName, Text.mem_names]
  case newline =>
    have hnot : ¬ isNamespaceUri (s ++ "\n") = true := by
      rw [isNamespaceUri_iff]
      intro h
      have hblank : Text.isBlank '\n' = false := h.2 '\n' (by simp)
      cases hblank
    rw [Registry.checkUri, if_neg hnot]

end MarkupActions
