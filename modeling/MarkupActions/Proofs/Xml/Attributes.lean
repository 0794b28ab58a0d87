import Mathlib.Data.String.Basic
import MarkupActions.Proofs.Xml.Nesting

/-!
# MarkupActions.Proofs.Xml.Attributes

**Attributes as they are written.** Every start tag of a document has a node of its own, and the node
has the attributes of the tag, in order and without the declarations of namespaces. No two of them
have one name, as written or as resolved, so setting one never replaces another.

Two things keep an element from having them all under the names as written. What declares a namespace
is the attribute `xmlns` and whatever has the prefix `xmlns`, but the reader takes every attribute for
a declaration that has the local name `xmlns`, whatever its prefix. And of a name that is longer than
65535 bytes it knows the place only so far. `Document.attributes_as_written` says that there is
nothing else.
-/

namespace MarkupActions

/-! ### Setting attributes -/

namespace Element

variable {name value : String} {acc pairs : List (String × String)}

/-- A new name is put at the end. -/
theorem setIn_of_fresh (h : name ∉ acc.map Prod.fst) : setIn name value acc = acc ++ [(name, value)] := by
  induction acc with
  | nil => rfl
  | cons entry rest ih =>
    obtain ⟨n, v⟩ := entry
    rw [List.map_cons, List.mem_cons, not_or] at h
    rw [setIn, if_neg fun heq => h.1 heq.symm, ih h.2, List.cons_append]

/-- A name that is there stays where it is. -/
theorem map_fst_setIn (h : name ∈ acc.map Prod.fst) :
    (setIn name value acc).map Prod.fst = acc.map Prod.fst := by
  induction acc with
  | nil => cases h
  | cons entry rest ih =>
    obtain ⟨n, v⟩ := entry
    rw [setIn]
    split
    · rfl
    · next hne =>
      rw [List.map_cons, List.mem_cons] at h
      rw [List.map_cons, List.map_cons, ih (h.resolve_left fun heq => hne heq.symm)]

/-- Set some attributes, one after the other. -/
def setAllIn (acc pairs : List (String × String)) : List (String × String) :=
  pairs.foldl (fun acc pair => setIn pair.1 pair.2 acc) acc

theorem setAllIn_cons (pair : String × String) : setAllIn acc (pair :: pairs) =
    setAllIn (setIn pair.1 pair.2 acc) pairs := rfl

/-- However often names are set, none is listed twice. -/
theorem nodup_setAllIn (h : (acc.map Prod.fst).Nodup) :
    ((setAllIn acc pairs).map Prod.fst).Nodup := by
  induction pairs generalizing acc with
  | nil => exact h
  | cons pair rest ih =>
    rw [setAllIn_cons]
    refine ih ?_
    by_cases hmem : pair.1 ∈ acc.map Prod.fst
    · rw [map_fst_setIn hmem]
      exact h
    · rw [setIn_of_fresh hmem, List.map_append]
      exact h.append (List.nodup_singleton _) (List.disjoint_singleton.mpr hmem)

/-- New names of which no two are equal are put at the end, one after the other. -/
theorem setAllIn_of_nodup (h : ((acc ++ pairs).map Prod.fst).Nodup) :
    setAllIn acc pairs = acc ++ pairs := by
  induction pairs generalizing acc with
  | nil => exact (List.append_nil acc).symm
  | cons pair rest ih =>
    have hfresh : pair.1 ∉ acc.map Prod.fst := by
      rw [List.map_append, List.map_cons, List.nodup_middle, List.nodup_cons] at h
      exact fun hmem => h.1 (List.mem_append_left _ hmem)
    rw [List.append_cons] at h ⊢
    rw [setAllIn_cons, setIn_of_fresh hfresh, ih h]

theorem length_setIn_of_mem (h : name ∈ acc.map Prod.fst) :
    (setIn name value acc).length = acc.length := by
  have hnames : (setIn name value acc).map Prod.fst = acc.map Prod.fst := map_fst_setIn h
  have hlength := congrArg List.length hnames
  rwa [List.length_map, List.length_map] at hlength

/-- Setting attributes adds at most one entry for each. -/
theorem length_setAllIn_le (acc pairs : List (String × String)) :
    (setAllIn acc pairs).length ≤ acc.length + pairs.length := by
  induction pairs generalizing acc with
  | nil => exact Nat.le_refl _
  | cons pair rest ih =>
    have hrest := ih (setIn pair.1 pair.2 acc)
    rw [setAllIn_cons, List.length_cons]
    by_cases hmem : pair.1 ∈ acc.map Prod.fst
    · rw [length_setIn_of_mem hmem] at hrest
      omega
    · rw [setIn_of_fresh hmem, List.length_append, List.length_singleton] at hrest
      rw [setIn_of_fresh hmem]
      omega

/-- If none is lost, none has replaced another. -/
theorem setAllIn_eq_append (h : acc.length + pairs.length ≤ (setAllIn acc pairs).length) :
    setAllIn acc pairs = acc ++ pairs := by
  induction pairs generalizing acc with
  | nil => exact (List.append_nil acc).symm
  | cons pair rest ih =>
    rw [setAllIn_cons, List.length_cons] at h
    have hrest := length_setAllIn_le (setIn pair.1 pair.2 acc) rest
    by_cases hmem : pair.1 ∈ acc.map Prod.fst
    · rw [length_setIn_of_mem hmem] at hrest
      omega
    · rw [setIn_of_fresh hmem] at h
      rw [setAllIn_cons, setIn_of_fresh hmem, List.append_cons acc pair rest]
      refine ih ?_
      rw [List.length_append, List.length_singleton]
      omega

/-- Where no two attributes have one name, each is found under its own. -/
theorem attribute?_of_mem {el : Element} (h : (el.attributes.map Prod.fst).Nodup)
    (hmem : (name, value) ∈ el.attributes) : el.attribute? name = some value := by
  rw [attribute?]
  generalize el.attributes = entries at h hmem
  induction entries with
  | nil => cases hmem
  | cons entry rest ih =>
    rw [List.map_cons, List.nodup_cons] at h
    rcases List.mem_cons.mp hmem with rfl | hmem
    · simp
    · have hne : entry.1 ≠ name := fun heq => h.1 (List.mem_map.mpr ⟨_, hmem, heq.symm⟩)
      rw [List.find?_cons_of_neg (by simp [hne])]
      exact ih h.2 hmem

end Element

namespace Xml

/-! ### The names that are kept -/

namespace Node

variable {n : Nat} {cs : List Char}

/-- A name is kept in full just if it is not too long. -/
theorem firstBytes?_eq_self_iff : firstBytes? n cs = some cs ↔ String.utf8Len cs ≤ n := by
  induction cs generalizing n with
  | nil => exact iff_of_true rfl (Nat.zero_le n)
  | cons c rest ih =>
    have hpos := c.utf8Size_pos
    rw [firstBytes?, String.utf8Len_cons]
    split
    · next hzero => exact iff_of_false nofun (by omega)
    · split
      · next hfits =>
        rw [Option.map_eq_some_iff]
        constructor
        · rintro ⟨more, hmore, heq⟩
          cases heq
          have hrest := ih.mp hmore
          omega
        · intro hle
          exact ⟨rest, ih.mpr (by omega), rfl⟩
      · next hlarge => exact iff_of_false nofun (by omega)

/-- A name is kept as it is written unless it is too long. Where the place that is known ends inside a
character, the scope may happen to give the name. -/
theorem keptName_eq_written_iff (scope : Scope) (a : Attribute) :
    keptName scope a = a.written ↔ a.written.utf8ByteSize ≤ placedBytes ∨
      firstBytes? placedBytes a.written.toList = none ∧
        qualify scope (a.resolve? scope).join a.localName = a.written := by
  have hsize : a.written.utf8ByteSize = String.utf8Len a.written.toList := by
    rw [← String.utf8ByteSize_ofList, String.ofList_toList]
  rw [hsize, ← firstBytes?_eq_self_iff, keptName]
  cases hfirst : firstBytes? placedBytes a.written.toList with
  | none => simp
  | some cs => simp [← String.toList_inj]

end Node

/-! ### The names that are written -/

namespace Attribute

/-- The attribute declares a namespace: it is `xmlns` itself, or has it as its prefix. -/
def declaresNamespace (a : Attribute) : Bool := a.written = "xmlns" || a.qualifier = "xmlns"

/-- The name as it is written, and the value. -/
def pair (a : Attribute) : String × String := (a.written, a.value)

/-- The parts of the name are those of what is written. -/
def Named (a : Attribute) : Prop :=
  QName.ofRun? a.written.toList = some ⟨a.qualifier.toList, a.localName.toList⟩

variable {a b : Attribute}

theorem Named.of_read? {raw : RawAttribute} {cs : List Char} (hraw : raw.Spelled cs)
    (h : raw.read? = some a) : a.Named := by
  obtain ⟨hname, -, -, -, -, -⟩ := hraw
  rw [RawAttribute.read?, Option.map_eq_some_iff] at h
  obtain ⟨value, -, rfl⟩ := h
  rw [Named, String.toList_ofList, String.toList_ofList, String.toList_ofList]
  exact hname.parts

theorem Named.eq_of_written (ha : a.Named) (hb : b.Named) (h : a.written = b.written) :
    a.qualifier = b.qualifier ∧ a.localName = b.localName := by
  rw [Named, h, hb, Option.some_inj, QName.mk.injEq, String.toList_inj, String.toList_inj] at ha
  exact ⟨ha.1.symm, ha.2.symm⟩

theorem resolve?_congr (h : a.qualifier = b.qualifier) (scope : Scope) :
    a.resolve? scope = b.resolve? scope := by
  rw [resolve?, resolve?, h]

/-- The reader takes for a declaration what is one, and what else has the local name `xmlns`. -/
theorem Named.isDeclaration_iff (h : a.Named) :
    a.isDeclaration = true ↔ a.declaresNamespace = true ∨ a.localName = "xmlns" := by
  have hlocal : a.written = "xmlns" → a.localName = "xmlns" := by
    intro hwritten
    rw [Named, hwritten] at h
    have hparts : QName.ofRun? "xmlns".toList = some ⟨[], "xmlns".toList⟩ := by decide
    rw [hparts, Option.some_inj, QName.mk.injEq, String.toList_inj] at h
    exact h.2.symm
  simp only [isDeclaration, declaresNamespace, Bool.or_eq_true, decide_eq_true_eq]
  tauto

end Attribute

/-! ### The attributes of a node -/

/-- What is read is read of something. -/
theorem StartTag.ReadsAs.exists_raw {tag : StartTag} {all : List Attribute} {a : Attribute}
    (h : tag.ReadsAs all) (ha : a ∈ all) : ∃ raw ∈ tag.attributes, raw.read? = some a := by
  rw [ReadsAs] at h
  generalize tag.attributes = raws at h ⊢
  induction h with
  | nil => cases ha
  | cons hfirst _ ih =>
    rcases List.mem_cons.mp ha with rfl | ha
    · exact ⟨_, List.mem_cons_self, hfirst⟩
    · obtain ⟨raw, hmem, hraw⟩ := ih ha
      exact ⟨raw, List.mem_cons_of_mem _ hmem, hraw⟩

/-- What an element has of the attributes of its start tag. -/
structure Node.HasAttributes (tag : StartTag) (all : List Attribute) (n : Node) : Prop where
  begins : n.Begins tag
  /-- All attributes of the tag, with their values. -/
  read : tag.ReadsAs all
  /-- The element has them in order and as they are written, without the declarations, if and only if
  none is taken for a declaration and the names are kept. -/
  asWritten_iff : n.toElement.attributes = (all.filter fun a => !a.declaresNamespace).map Attribute.pair ↔
    ∀ a ∈ all, a.declaresNamespace = false →
      a.localName ≠ "xmlns" ∧ keptName n.scope a = a.written
  kept_iff : ∀ a ∈ all, keptName n.scope a = a.written ↔
    a.written.utf8ByteSize ≤ placedBytes ∨ firstBytes? placedBytes a.written.toList = none ∧
      qualify n.scope (a.resolve? n.scope).join a.localName = a.written
  /-- None is set twice. -/
  distinct : (n.attributes.map Attribute.written).Nodup ∧
    (n.toElement.attributes.map Prod.fst).Nodup
  /-- Each is found under its name. -/
  found : (∀ a ∈ n.attributes, keptName n.scope a = a.written) →
    ∀ a ∈ n.attributes, n.toElement.attribute? a.written = some a.value

namespace Node

/-- The attributes of an element are set one after the other under the names that are kept. -/
theorem toElement_attributes (n : Node) : n.toElement.attributes =
    Element.setAllIn [] (n.attributes.map fun a => (keptName n.scope a, a.value)) := by
  cases n
  rw [toElement, Element.setAllIn, List.foldl_map]
  rfl

namespace Begins

variable {n : Node} {tag : StartTag}

/-- No two attributes of a node are written alike, since no two resolve alike. -/
theorem nodup_written (h : n.Begins tag) (hnamed : ∀ a ∈ n.attributes, a.Named) :
    (n.attributes.map Attribute.written).Nodup := by
  have hdistinct := h.distinct
  rw [List.Nodup, List.pairwise_map] at hdistinct ⊢
  refine hdistinct.imp_of_mem fun ha hb hne heq => hne ?_
  obtain ⟨hqualifier, hlocal⟩ := (hnamed _ ha).eq_of_written (hnamed _ hb) heq
  rw [Attribute.resolve?_congr hqualifier, hlocal]

/-- Where all names are kept, they are those of the attributes. -/
theorem toElement_attributes_of_kept (h : n.Begins tag) (hnamed : ∀ a ∈ n.attributes, a.Named)
    (hkept : ∀ a ∈ n.attributes, keptName n.scope a = a.written) :
    n.toElement.attributes = n.attributes.map Attribute.pair := by
  have hpairs : n.attributes.map (fun a => (keptName n.scope a, a.value)) =
      n.attributes.map Attribute.pair :=
    List.map_congr_left fun a ha => Prod.ext (hkept a ha) rfl
  rw [toElement_attributes, hpairs]
  refine Element.setAllIn_of_nodup ?_
  rw [List.nil_append, List.map_map]
  exact h.nodup_written hnamed

/-- Among the attributes that declare no namespace, none is lost just if none is taken for a
declaration and all names are kept. -/
theorem toElement_attributes_iff (h : n.Begins tag) (hnamed : ∀ a ∈ n.attributes, a.Named)
    {written : List Attribute} (hown : n.attributes = written.filter fun a => !a.isDeclaration) :
    n.toElement.attributes = written.map Attribute.pair ↔
      ∀ a ∈ written, a.isDeclaration = false ∧ keptName n.scope a = a.written := by
  constructor
  · intro hsame
    have hle := Element.length_setAllIn_le [] (n.attributes.map fun a => (keptName n.scope a, a.value))
    rw [← toElement_attributes, hsame, List.length_map, List.length_map, List.length_nil,
      Nat.zero_add] at hle
    have hlength : (written.filter fun a => !a.isDeclaration).length = written.length :=
      Nat.le_antisymm (List.length_filter_le _ _) (hown ▸ hle)
    have hall := List.length_filter_eq_length_iff.mp hlength
    rw [List.filter_eq_self.mpr hall] at hown
    rw [toElement_attributes, Element.setAllIn_eq_append, List.nil_append, hown,
      List.map_inj_left] at hsame
    · exact fun a ha => ⟨(Bool.not_eq_true' _).mp (hall a ha), congrArg Prod.fst (hsame a ha)⟩
    · rw [hsame, List.length_nil, List.length_map, List.length_map, hown,
        Nat.zero_add]
  · intro hall
    rw [List.filter_eq_self.mpr fun a ha => (Bool.not_eq_true' _).mpr (hall a ha).1] at hown
    rw [← hown] at hall ⊢
    exact h.toElement_attributes_of_kept hnamed fun a ha => (hall a ha).2

theorem hasAttributes (h : n.Begins tag) (htag : ∀ raw ∈ tag.attributes, ∃ cs, raw.Spelled cs) :
    ∃ all, n.HasAttributes tag all := by
  obtain ⟨all, hread, hattributes⟩ := h.attributes
  have hnamed : ∀ a ∈ all, a.Named := by
    intro a ha
    obtain ⟨raw, hmem, hraw⟩ := hread.exists_raw ha
    obtain ⟨cs, hspelled⟩ := htag raw hmem
    exact .of_read? hspelled hraw
  have hown : ∀ a ∈ n.attributes, a.Named := by
    intro a ha
    rw [hattributes] at ha
    exact hnamed a (List.mem_of_mem_filter ha)
  -- What declares a namespace is taken for a declaration in any case.
  have hfilter : n.attributes =
      (all.filter fun a => !a.declaresNamespace).filter fun a => !a.isDeclaration := by
    rw [hattributes, List.filter_filter]
    refine List.filter_congr fun a ha => ?_
    have hdeclaration := (hnamed a ha).isDeclaration_iff
    cases hdeclares : a.declaresNamespace with
    | false => rw [Bool.not_false, Bool.and_true]
    | true => rw [hdeclaration.mpr (.inl hdeclares)]; rfl
  refine ⟨all, h, hread, ?_, fun a _ => keptName_eq_written_iff n.scope a, ⟨h.nodup_written hown, ?_⟩,
    ?_⟩
  · rw [h.toElement_attributes_iff hown hfilter]
    simp only [List.mem_filter, Bool.not_eq_true', and_imp]
    refine forall_congr' fun a => forall_congr' fun ha => forall_congr' fun hdeclares => ?_
    rw [← Bool.not_eq_true, (hnamed a ha).isDeclaration_iff, hdeclares]
    simp
  · rw [toElement_attributes]
    exact Element.nodup_setAllIn List.nodup_nil
  · intro hkept a ha
    have hsame := h.toElement_attributes_of_kept hown hkept
    refine Element.attribute?_of_mem ?_ ?_
    · rw [hsame, List.map_map]
      exact h.nodup_written hown
    · rw [hsame]
      exact List.mem_map_of_mem ha

end Begins

/-! ### All nodes of a document -/

theorem toElements_eq_map (ns : List Node) : toElements ns = ns.map toElement := by
  induction ns with
  | nil => rw [toElements, List.map_nil]
  | cons n rest ih => rw [toElements, ih, List.map_cons]

theorem toElement_children (n : Node) : n.toElement.children = n.children.map toElement := by
  cases n
  rw [toElement]
  exact toElements_eq_map _

theorem exists_spelled_of_allSpelled {attributes : List RawAttribute} {cs : List Char}
    (h : RawAttribute.AllSpelled attributes cs) : ∀ raw ∈ attributes, ∃ ds, raw.Spelled ds := by
  induction h with
  | nil => exact nofun
  | cons _ _ ha _ ih => exact List.forall_mem_cons.mpr ⟨⟨_, ha⟩, ih⟩

/-- The attributes of the start tags of a document are spelled. -/
theorem exists_spelled_of_mem_starts {pieces : List Markup} {parts : List (List Char)}
    (h : List.Forall₂ Markup.Spelled pieces parts) {tag : StartTag}
    (htag : tag ∈ Markup.starts pieces) : ∀ raw ∈ tag.attributes, ∃ cs, raw.Spelled cs := by
  obtain ⟨m, hm, hstart⟩ := List.mem_filterMap.mp htag
  induction h with
  | nil => cases hm
  | cons hspelled hrest ih =>
    rcases List.mem_cons.mp hm with rfl | hm
    · cases hspelled with
      | start hspelled =>
        cases hstart
        obtain ⟨-, hattributes, -⟩ := hspelled
        exact exists_spelled_of_allSpelled hattributes
      | text | verbatim | comment | instruction | close => cases hstart
    · exact ih (List.mem_filterMap.mpr ⟨m, hm, hstart⟩) hm

theorem forall₂_hasAttributes {ns : List Node} {tags : List StartTag}
    (h : List.Forall₂ (fun n tag => Begins tag n) ns tags)
    (htags : ∀ tag ∈ tags, ∀ raw ∈ tag.attributes, ∃ cs, raw.Spelled cs) :
    List.Forall₂ (fun n tag => ∃ all, n.HasAttributes tag all) ns tags := by
  induction h with
  | nil => exact .nil
  | cons hbegins _ ih =>
    obtain ⟨htag, hothers⟩ := List.forall_mem_cons.mp htags
    exact .cons (hbegins.hasAttributes htag) (ih hothers)

end Node

end Xml

/-- **Attributes survive reading, as far as their names do.** The pieces of a document that is read
make up its text: comments, processing instructions and blanks, the root element, and the like again.
The root is the tree that its pieces make up, with one element for each start tag in document order,
and the element tree has the same shape. Every element has the attributes of its tag as
`Node.HasAttributes` says: in order, under the names as written and with the values that are read,
unless one with the local name `xmlns` is no declaration or a name is not kept. -/
theorem Document.attributes_as_written (text : String) (d : Document)
    (h : Document.read? text = some d) :
    ∃ (root : Xml.Node) (chars : List Char) (parts : List (List Char))
        (before body after : List Xml.Markup),
      d.root = root.toElement ∧ Xml.skipProlog? (Xml.skipMark text.toList) = some chars ∧
      chars = parts.flatten ∧ List.Forall₂ Xml.Markup.Spelled (before ++ body ++ after) parts ∧
      (∀ m ∈ before ++ after, m.isMisc = true) ∧ root.Nested body ∧
      d.root.preorder = root.preorder.map Xml.Node.toElement ∧
      (∀ n ∈ root.preorder, n.toElement.children = n.children.map Xml.Node.toElement) ∧
      List.Forall₂ (fun n tag => ∃ all, n.HasAttributes tag all) root.preorder
        (Xml.Markup.starts (before ++ body ++ after)) := by
  rw [Document.read?, Option.map_eq_some_iff] at h
  obtain ⟨root, hroot, rfl⟩ := h
  simp only [Xml.Node.read?, Xml.Node.ofChars?, Option.bind_eq_bind, Option.bind_eq_some_iff] at hroot
  obtain ⟨chars, hprolog, pieces, hscan, hmarkup⟩ := hroot
  obtain ⟨before, body, after, rfl, hmisc, hnested⟩ := Xml.Node.ofMarkup?_nested hmarkup
  obtain ⟨parts, hspelled, hchars⟩ := Xml.Markup.scan?_spelled hscan
  refine ⟨root, chars, parts, before, body, after, rfl, hprolog, hchars, hspelled, hmisc, hnested,
    root.preorder_toElement, fun n _ => n.toElement_children, ?_⟩
  refine Xml.Node.forall₂_hasAttributes ?_ fun tag htag =>
    Xml.Node.exists_spelled_of_mem_starts hspelled htag
  obtain ⟨hbefore, hafter⟩ := List.forall_mem_append.mp hmisc
  rw [Xml.Node.starts_append, Xml.Node.starts_append, Xml.Node.starts_of_isMisc hbefore,
    Xml.Node.starts_of_isMisc hafter, List.nil_append, List.append_nil]
  exact hnested.starts

/-- In a document where no name is long and none ends in `xmlns` but the declarations, all elements
have their attributes. -/
theorem Document.attributes_as_written_prefixed :
    ∃ (d : Document) (root : Xml.Node) (tags : List Xml.StartTag),
    Document.read? "<r a='1' xmlns:p='u'> <p:b p:c='&#50;' a='3'/></r>" = some d ∧
      d.root.preorder = root.preorder.map Xml.Node.toElement ∧
      List.Forall₂ (fun n tag => ∃ all, n.HasAttributes tag all) root.preorder tags ∧
      d.root.preorder.map Element.attributes = [[("a", "1")], [("p:c", "2"), ("a", "3")]] := by
  have hread : (Document.read? "<r a='1' xmlns:p='u'> <p:b p:c='&#50;' a='3'/></r>").map
      (fun d => d.root.preorder.map Element.attributes) =
        some [[("a", "1")], [("p:c", "2"), ("a", "3")]] := by decide +kernel
  obtain ⟨d, hd, hattributes⟩ := Option.map_eq_some_iff.mp hread
  obtain ⟨root, _, _, before, body, after, -, -, -, -, -, -, hsame, -, hall⟩ :=
    attributes_as_written _ d hd
  exact ⟨d, root, _, hd, hsame, hall, hattributes⟩

namespace Xml

/-! ### A long name

Of a name that is too long the last characters are lost. The document is read for a name of any
length, since one that is long enough cannot be run through. -/

/-- An attribute behind a blank is taken off. -/
theorem scanAttributes?_eq_map {cs rest : List Char} {a : RawAttribute}
    (hspace : cs.head?.any isSpace = true) (h : scanAttribute? (skipSpaces cs) = some (a, rest)) :
    scanAttributes? cs = (scanAttributes? rest).map fun r => (a :: r.1, r.2) := by
  rw [scanAttributes?]
  split
  · next heq => cases heq ▸ h
  · next heq => cases heq ▸ h
  · rw [if_pos hspace]
    split
    · next heq => cases h.symm.trans heq
    · next heq =>
      cases h.symm.trans heq
      rfl

/-- A document of one element without a namespace, which has one attribute. -/
def bearing (name : List Char) : List Char := "<r ".toList ++ name ++ "='1'/>".toList

/-- The start tag in it. -/
def bearingTag (name : List Char) : StartTag :=
  ⟨"r ".toList ++ name ++ "='1'/>".toList, ['r'], ⟨[], ['r']⟩, [⟨name, ⟨[], name⟩, ['1']⟩], true⟩

/-- The attribute of the start tag, read. -/
def bearingAttribute (name : List Char) : Attribute :=
  ⟨String.ofList name, "", String.ofList name, "1"⟩

variable {name : List Char}

theorem skipSpaces_name (h : QName.IsPart name) (rest : List Char) :
    skipSpaces (' ' :: (name ++ rest)) = name ++ rest := by
  have hbegins := h.begins
  cases name with
  | nil => cases hbegins
  | cons c cs =>
    have hspace : isSpace c = false := by
      simp only [isSpace, Bool.or_eq_false_iff, decide_eq_false_iff_not]
      refine ⟨⟨⟨?_, ?_⟩, ?_⟩, ?_⟩ <;> rintro rfl <;> cases hbegins
    rw [skipSpaces, List.dropWhile_cons_of_pos rfl, List.cons_append,
      List.dropWhile_cons_of_neg (by simp [hspace])]

/-- The scanner takes off the one attribute and the end of the tag. -/
theorem scanAttributes?_bearing (h : QName.IsPart name) :
    scanAttributes? (' ' :: (name ++ "='1'/>".toList)) =
      some ([⟨name, ⟨[], name⟩, ['1']⟩], true, []) := by
  have hrest : ∀ c ∈ "='1'/>".toList.head?, isNameChar c = false := by
    intro c hc
    cases hc
    rfl
  have hquoted : scanQuoted? "'1'/>".toList = some (['1'], ['/', '>']) := rfl
  have hattribute : scanAttribute? (skipSpaces (' ' :: (name ++ "='1'/>".toList))) =
      some (⟨name, ⟨[], name⟩, ['1']⟩, ['/', '>']) := by
    simp only [skipSpaces_name h, scanAttribute?, h.scanName?_append hrest]
    exact congrArg (Option.map _) hquoted
  have hlast : scanAttributes? ['/', '>'] = some ([], true, []) := by
    rw [scanAttributes?]
    rfl
  rw [scanAttributes?_eq_map rfl hattribute, hlast, Option.map_some]

theorem scan?_bearing (h : QName.IsPart name) :
    Markup.scan? (bearing name) = some [.start (bearingTag name)] := by
  have hmarked : scanMarked? ("r ".toList ++ name ++ "='1'/>".toList) =
      some (.start (bearingTag name), []) := by
    have hscan : scanMarked? ("r ".toList ++ name ++ "='1'/>".toList) =
        scanStart? ("r ".toList ++ name ++ "='1'/>".toList) := rfl
    have hname : scanName? ("r ".toList ++ name ++ "='1'/>".toList) =
        some (['r'], ⟨[], ['r']⟩, ' ' :: (name ++ "='1'/>".toList)) := rfl
    rw [hscan, scanStart?, hname]
    simp only [scanAttributes?_bearing h]
    rfl
  have hnil : Markup.scan? [] = some [] := by rw [Markup.scan?]
  have hcons : bearing name = '<' :: ("r ".toList ++ name ++ "='1'/>".toList) := rfl
  rw [hcons, Markup.scan?, if_pos rfl]
  split
  · next heq => cases hmarked.symm.trans heq
  · next heq =>
    cases hmarked.symm.trans heq
    rw [hnil, Option.map_some]

theorem RawAttribute.read?_bearing (name : List Char) :
    RawAttribute.read? ⟨name, ⟨[], name⟩, ['1']⟩ = some (bearingAttribute name) := by
  have hvalue : attributeValue? ['1'] = some "1" := rfl
  rw [RawAttribute.read?, hvalue, Option.map_some, bearingAttribute, String.ofList_nil]

/-- The attribute is no declaration, and nothing is in a namespace. -/
theorem begin?_bearing (h : name ≠ "xmlns".toList) : Node.begin? [] (bearingTag name) =
    some ⟨(bearingTag name).opening, ⟨[], ['r']⟩, none, [bearingAttribute name], [], []⟩ := by
  have hread : (bearingTag name).attributes.mapM RawAttribute.read? = some [bearingAttribute name] := by
    simp [bearingTag, RawAttribute.read?_bearing]
  have hdeclaration : (bearingAttribute name).isDeclaration = false := by
    have hne : String.ofList name ≠ "xmlns" := fun heq => h (String.ofList_eq.mp heq)
    simp [Attribute.isDeclaration, bearingAttribute, hne]
  simp only [Node.begin?, hread, Option.bind_eq_bind, Option.bind_some, List.filter_cons,
    List.filter_nil, hdeclaration, Bool.not_false, if_true]
  rfl

theorem ofChars?_bearing (h : QName.IsPart name) (hne : name ≠ "xmlns".toList) :
    Node.ofChars? (bearing name) =
      some ⟨(bearingTag name).opening, ⟨[], ['r']⟩, none, [bearingAttribute name], [], []⟩ := by
  have hprolog : skipProlog? (skipMark (bearing name)) = some (bearing name) := rfl
  simp only [Node.ofChars?, hprolog, Option.bind_eq_bind, Option.bind_some, scan?_bearing h,
    Node.ofMarkup?, begin?_bearing hne]
  rfl

/-- What is written in each start tag of a text besides declarations: names and values. -/
def writtenPairs? (cs : List Char) : Option (List (List (String × String))) :=
  (Markup.scan? cs).map fun pieces => (Markup.starts pieces).map fun tag =>
    ((tag.attributes.filterMap RawAttribute.read?).filter fun a => !a.declaresNamespace).map
      Attribute.pair

theorem writtenPairs?_bearing (h : QName.IsPart name) (hne : name ≠ "xmlns".toList) :
    writtenPairs? (bearing name) = some [[(String.ofList name, "1")]] := by
  have hread : (bearingTag name).attributes.filterMap RawAttribute.read? = [bearingAttribute name] := by
    simp [bearingTag, RawAttribute.read?_bearing]
  have hdeclares : (bearingAttribute name).declaresNamespace = false := by
    have hname : String.ofList name ≠ "xmlns" := fun heq => hne (String.ofList_eq.mp heq)
    simp [Attribute.declaresNamespace, bearingAttribute, hname]
  have hstarts : Markup.starts [.start (bearingTag name)] = [bearingTag name] := rfl
  rw [writtenPairs?, scan?_bearing h, Option.map_some, hstarts, List.map_singleton, hread,
    List.filter_singleton, hdeclares]
  rfl

/-- The attribute is kept under the characters whose place is known. -/
theorem attributes_bearing (h : QName.IsPart name) (hne : name ≠ "xmlns".toList) {cs : List Char}
    (hfirst : Node.firstBytes? Node.placedBytes name = some cs) :
    (Document.read? (String.ofList (bearing name))).map (fun d => d.root.attributes) =
      some [(String.ofList cs, "1")] := by
  have hkept : Node.keptName [] (bearingAttribute name) = String.ofList cs := by
    rw [Node.keptName, bearingAttribute, String.toList_ofList, hfirst]
  rw [Document.read?, Node.read?, String.toList_ofList, ofChars?_bearing h hne, Option.map_some,
    Option.map_some, ← hkept]
  rfl

/-- Every letter of ASCII is one byte. -/
theorem firstBytes?_replicate (n m : Nat) :
    Node.firstBytes? n (List.replicate (n + m) 'a') = some (List.replicate n 'a') := by
  have hsize : Char.utf8Size 'a' = 1 := rfl
  induction n with
  | zero =>
    cases m with
    | zero => rfl
    | succ m => rfl
  | succ n ih =>
    rw [Nat.add_right_comm, List.replicate_succ, List.replicate_succ, Node.firstBytes?,
      if_neg (Nat.succ_ne_zero n), hsize, if_pos (Nat.le_add_left 1 n), Nat.add_sub_cancel, ih,
      Option.map_some]

theorem isPart_replicate (n : Nat) : QName.IsPart (List.replicate (n + 1) 'a') where
  chars := by
    intro c hc
    rw [List.eq_of_mem_replicate hc]
    decide
  begins := by
    rw [List.replicate_succ]
    rfl
  colon := by
    intro hc
    cases List.eq_of_mem_replicate hc

end Xml

/-- A name of 65536 letters loses the last one. -/
theorem Document.attribute_name_cut :
    Xml.writtenPairs? (Xml.bearing (List.replicate 65536 'a')) =
        some [[(String.ofList (List.replicate 65536 'a'), "1")]] ∧
      (Document.read? (String.ofList (Xml.bearing (List.replicate 65536 'a')))).map
        (fun d => d.root.attributes) = some [(String.ofList (List.replicate 65535 'a'), "1")] ∧
      String.ofList (List.replicate 65535 'a') ≠ String.ofList (List.replicate 65536 'a') := by
  have hpart : Xml.QName.IsPart (List.replicate 65536 'a') := Xml.isPart_replicate 65535
  have hdeclares : List.replicate 65536 'a' ≠ "xmlns".toList := by
    intro heq
    have hlengths := congrArg List.length heq
    have hfive : "xmlns".toList.length = 5 := rfl
    rw [List.length_replicate, hfive] at hlengths
    omega
  refine ⟨Xml.writtenPairs?_bearing hpart hdeclares,
    Xml.attributes_bearing hpart hdeclares (Xml.firstBytes?_replicate 65535 1), ?_⟩
  intro heq
  have hlengths := congrArg String.length heq
  rw [String.length_ofList, String.length_ofList, List.length_replicate, List.length_replicate]
    at hlengths
  omega

end MarkupActions
