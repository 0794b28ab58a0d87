import Mathlib.Data.List.TakeWhile
import MarkupActions.Proofs.Xml.Scanning

/-!
# MarkupActions.Proofs.Xml.Tags

**Tags as they are written.** Each element of a document comes from a start tag in its text, and its
tag is cut out of the text again: up to a blank, a slash or the end of the tag. A blank is here any
character with the property White_Space, while the reader of names knows four characters only. The
two disagree about a single character, the Ogham space mark, which is a blank and may stand in names
(`isNameChar_and_endsName_iff`). A name without it is kept as it is written; one with it is cut.
-/

namespace MarkupActions

/-! ### Names -/

/-- Behind the first separator stand the other pieces. -/
theorem Text.afterFirst?_of_splitOn {sep : Char} {cs piece : List Char} {ps : List (List Char)}
    (h : cs.splitOn sep = piece :: ps) :
    afterFirst? sep cs = if ps = [] then none else some ([sep].intercalate ps) := by
  induction cs generalizing piece with
  | nil =>
    cases h
    rfl
  | cons c rest ih =>
    obtain ⟨first, others, hrest⟩ := List.exists_cons_of_ne_nil (List.splitOn_ne_nil sep rest)
    rw [List.splitOn_cons_eq_if_modifyHead] at h
    rw [afterFirst?]
    by_cases hc : c = sep
    · rw [if_pos (beq_iff_eq.mpr hc)] at h
      cases h
      rw [if_pos hc, if_neg (List.splitOn_ne_nil sep rest), List.intercalate_splitOn]
    · rw [if_neg (by simpa using hc), hrest] at h
      cases h
      rw [if_neg hc]
      exact ih hrest

namespace Xml

/-- The local part of a name is what the reader of names takes for it. -/
theorem QName.localPart_ofRun? {run : List Char} {name : QName} (h : ofRun? run = some name) :
    MarkupActions.localPart (String.ofList run) = String.ofList name.localPart := by
  rw [MarkupActions.localPart, String.toList_ofList]
  unfold ofRun? at h
  split at h
  · next part hpieces =>
    split at h
    · cases h
      rw [Text.afterFirst?_of_splitOn hpieces]
      have hjoin : [':'].intercalate (run.splitOn ':') = run := List.intercalate_splitOn ':'
      rw [hpieces, List.intercalate_singleton] at hjoin
      exact congrArg String.ofList hjoin.symm
    · cases h
  · next part hpieces =>
    split at h
    · cases h
      rw [Text.afterFirst?_of_splitOn hpieces, if_neg (List.cons_ne_nil part []),
        List.intercalate_singleton]
    · cases h
  · cases h

theorem QName.ofRun?_nil : ofRun? [] = none := rfl

/-- The Ogham space mark. -/
def oghamMark : Char := '\u1680'

/-- It is the one character that may stand in a name and is taken for its end. -/
theorem isNameChar_and_endsName_iff (c : Char) :
    isNameChar c = true ∧ Node.endsName c = true ↔ c = oghamMark := by
  simp only [isNameChar, isNameStart, Text.inRanges, nameStartRanges, namePartRanges, Text.isAsciiLetter,
    Text.isAsciiDigit, Node.endsName, Text.isBlank, List.any_cons, List.any_nil, Bool.or_eq_true,
    Bool.and_eq_true, decide_eq_true_eq, beq_iff_eq, Bool.or_false, oghamMark, ← Char.toNat_inj, Char.le_def,
    UInt32.le_iff_toNat_le, Char.toNat_val, Char.reduceToNat]
  omega

/-! ### Where nodes come from -/

namespace Node

variable {cs : List Char}

/-- A node whose start tag stands behind a `<` in a text, with the name that is written there, and
with the namespace that its scope gives to that. -/
structure StandsIn (cs : List Char) (n : Node) : Prop where
  place : '<' :: n.opening <:+ cs
  name : QName.ofRun? (n.opening.takeWhile isNameChar) = some n.name
  behind : ∃ c after, n.opening.dropWhile isNameChar = c :: after ∧
    (isSpace c = true ∨ c = '/' ∨ c = '>')
  resolved : nameUri? n.scope n.name = some n.namespaceUri

theorem preorder_eq (n : Node) : n.preorder = n :: preorderAll n.children := by
  cases n
  rw [preorder]

/-- A node is in the walk of a list if it is in that of one of its trees. -/
theorem mem_preorderAll {x : Node} {ns : List Node} :
    x ∈ preorderAll ns ↔ ∃ n ∈ ns, x ∈ n.preorder := by
  induction ns with
  | nil =>
    rw [preorderAll]
    exact iff_of_false List.not_mem_nil nofun
  | cons n rest ih =>
    rw [preorderAll, List.mem_append, ih]
    simp only [List.mem_cons, exists_eq_or_imp]

/-- A node stands in the text where its tag does. -/
theorem begin?_standsIn {outer : Scope} {tag : StartTag} {n : Node} (h : begin? outer tag = some n)
    (htag : tag.StandsIn cs) : n.StandsIn cs ∧ n.children = [] := by
  simp only [begin?, Option.bind_eq_bind, Option.bind_eq_some_iff] at h
  obtain ⟨all, -, own, -, uri, huri, resolved, -, hnode⟩ := h
  split at hnode
  · cases hnode
    exact ⟨⟨htag.place, htag.name, htag.behind, huri⟩, rfl⟩
  · cases hnode

/-- A node and everything below it. -/
def TreeStandsIn (cs : List Char) (n : Node) : Prop := ∀ x ∈ n.preorder, x.StandsIn cs

theorem TreeStandsIn.of_leaf {n : Node} (hn : n.StandsIn cs) (hleaf : n.children = []) :
    n.TreeStandsIn cs := by
  rw [TreeStandsIn, preorder_eq, hleaf, preorderAll]
  exact List.forall_mem_singleton.2 hn

/-- An element that has begun, and all its children so far. -/
structure Unfinished.StandsIn (cs : List Char) (u : Unfinished) : Prop where
  node : u.node.StandsIn cs
  done : ∀ child ∈ u.done, child.TreeStandsIn cs

namespace Unfinished.StandsIn

variable {u : Unfinished}

theorem begun {n : Node} (hn : n.StandsIn cs) : StandsIn cs ⟨n, []⟩ := ⟨hn, nofun⟩

theorem add (hu : u.StandsIn cs) {child : Node} (hchild : child.TreeStandsIn cs) :
    (u.add child).StandsIn cs :=
  ⟨hu.node, List.forall_mem_cons.2 ⟨hchild, hu.done⟩⟩

theorem finish (hu : u.StandsIn cs) : u.finish.TreeStandsIn cs := by
  rw [TreeStandsIn, preorder_eq]
  refine List.forall_mem_cons.2 ⟨⟨hu.node.place, hu.node.name, hu.node.behind, hu.node.resolved⟩, ?_⟩
  intro x hx
  obtain ⟨child, hchild, hx⟩ := mem_preorderAll.1 hx
  exact hu.done child (List.mem_reverse.1 hchild) x hx

end Unfinished.StandsIn

/-- Reading on inside an element adds nothing that does not stand in the text. -/
theorem inside?_standsIn {top : Unfinished} {outer : List Unfinished} {pieces : List Markup}
    {root : Node} (h : inside? top outer pieces = some root) (htop : top.StandsIn cs)
    (houter : ∀ u ∈ outer, u.StandsIn cs) (hpieces : Markup.AllStandIn cs pieces) :
    root.TreeStandsIn cs := by
  fun_induction inside? top outer pieces with
  | case1 => cases h
  | case2 top outer raw rest ih => exact ih h htop houter hpieces.tail
  | case3 top outer raw rest ih => exact ih h htop houter hpieces.tail
  | case4 top outer rest ih => exact ih h htop houter hpieces.tail
  | case5 => cases h
  | case6 top outer tag rest node hbegin hempty ih =>
    obtain ⟨hnode, hleaf⟩ := begin?_standsIn hbegin hpieces.head
    exact ih h (htop.add (.of_leaf hnode hleaf)) houter hpieces.tail
  | case7 top outer tag rest node hbegin hempty ih =>
    obtain ⟨hnode, -⟩ := begin?_standsIn hbegin hpieces.head
    exact ih h (.begun hnode) (List.forall_mem_cons.2 ⟨htop, houter⟩) hpieces.tail
  | case8 =>
    cases h
    exact htop.finish
  | case9 => cases h
  | case10 top rest up further ih =>
    obtain ⟨hup, hfurther⟩ := List.forall_mem_cons.1 houter
    exact ih h (hup.add htop.finish) hfurther hpieces.tail
  | case11 => cases h

/-- All nodes of a document stand in its text. -/
theorem ofMarkup?_standsIn {pieces : List Markup} {root : Node} (h : ofMarkup? pieces = some root)
    (hpieces : Markup.AllStandIn cs pieces) : root.TreeStandsIn cs := by
  fun_induction ofMarkup? pieces with
  | case1 => cases h
  | case2 => cases h
  | case3 tag rest node hbegin =>
    cases h
    obtain ⟨hnode, hleaf⟩ := begin?_standsIn hbegin hpieces.head
    exact .of_leaf hnode hleaf
  | case4 => cases h
  | case5 tag rest node hbegin =>
    obtain ⟨hnode, -⟩ := begin?_standsIn hbegin hpieces.head
    exact inside?_standsIn h (.begun hnode) nofun hpieces.tail
  | case6 rest m _ _ ih => exact ih h hpieces.tail
  | case7 => cases h

/-- Every element that is read of a text has its start tag there. -/
theorem read?_standsIn {text : String} {root : Node} (h : read? text = some root) :
    root.TreeStandsIn text.toList := by
  simp only [read?, ofChars?, Option.bind_eq_bind, Option.bind_eq_some_iff] at h
  obtain ⟨chars, hprolog, pieces, hscan, hmarkup⟩ := h
  have hchars : chars <:+ text.toList := (skipProlog?_suffix hprolog).trans (skipMark_suffix _)
  exact ofMarkup?_standsIn hmarkup ((Markup.scan?_standsIn hscan).mono hchars)

/-! ### Where tags are cut -/

/-- Up to a character that ends it, a text is cut where its beginning is. -/
theorem takeWhile_append_cons {p q : Char → Bool} {written : List Char} {c : Char}
    (hsame : ∀ x ∈ written, p x = q x) (hc : p c = false) (after : List Char) :
    (written ++ c :: after).takeWhile p = written.takeWhile q := by
  induction written with
  | nil =>
    rw [List.nil_append, List.takeWhile_nil]
    exact List.takeWhile_cons_of_neg (by rw [hc]; decide)
  | cons x rest ih =>
    obtain ⟨hx, hrest⟩ := List.forall_mem_cons.1 hsame
    rw [List.cons_append, List.takeWhile_cons, List.takeWhile_cons, hx, ih hrest]

/-- What ends a name in markup ends it when the tag is cut out. -/
theorem endsName_of_isSpace {c : Char} (h : isSpace c = true ∨ c = '/' ∨ c = '>') :
    endsName c = true := by
  rcases h with hspace | rfl | rfl
  · simp only [isSpace, Bool.or_eq_true, decide_eq_true_eq] at hspace
    rcases hspace with ((rfl | rfl) | rfl) | rfl <;> rfl
  · rfl
  · rfl

namespace StandsIn

variable {n : Node}

/-- A tag is cut at the first Ogham space mark in its name, if there is one. -/
theorem cut_eq (h : n.StandsIn cs) : n.opening.takeWhile (fun c => !endsName c) =
    (n.opening.takeWhile isNameChar).takeWhile (· ≠ oghamMark) := by
  obtain ⟨c, after, hbehind, hc⟩ := h.behind
  have hopening : n.opening = n.opening.takeWhile isNameChar ++ c :: after := by
    rw [← hbehind, List.takeWhile_append_dropWhile]
  have hsame : ∀ x ∈ n.opening.takeWhile isNameChar, (!endsName x) = decide (x ≠ oghamMark) := by
    intro x hx
    have hname : isNameChar x = true := List.mem_takeWhile_imp hx
    have hiff := isNameChar_and_endsName_iff x
    rw [hname, eq_self_iff_true, true_and] at hiff
    rw [Bool.eq_iff_iff, Bool.not_eq_true', decide_eq_true_iff, ne_eq, ← hiff, Bool.not_eq_true]
  calc n.opening.takeWhile (fun c => !endsName c)
    _ = (n.opening.takeWhile isNameChar ++ c :: after).takeWhile (fun c => !endsName c) := by
      rw [← hopening]
    _ = (n.opening.takeWhile isNameChar).takeWhile (· ≠ oghamMark) :=
      takeWhile_append_cons hsame (by rw [endsName_of_isSpace hc]; rfl) after

/-- No tag is written without a name. -/
theorem written_ne_nil (h : n.StandsIn cs) : n.opening.takeWhile isNameChar ≠ [] := by
  intro hnil
  have hname := h.name
  rw [hnil, QName.ofRun?_nil] at hname
  cases hname

/-- The tag is what is written up to the first Ogham mark; where that comes first, the name is
rebuilt. -/
theorem tag_eq (h : n.StandsIn cs) : n.tag =
    if (n.opening.takeWhile isNameChar).head? = some oghamMark then n.scopedTag
    else String.ofList ((n.opening.takeWhile isNameChar).takeWhile (· ≠ oghamMark)) := by
  have hne := h.written_ne_nil
  rw [tag, h.cut_eq]
  generalize n.opening.takeWhile isNameChar = written at hne ⊢
  cases written with
  | nil => exact absurd rfl hne
  | cons x rest =>
    have hhead : (x :: rest).head? = some oghamMark ↔ x = oghamMark := Option.some_inj
    by_cases hx : x = oghamMark
    · rw [if_pos (hhead.2 hx), List.takeWhile_cons_of_neg (by simp [hx])]
      rfl
    · rw [if_neg fun h => hx (hhead.1 h), List.takeWhile_cons_of_pos (by simp [hx])]
      rfl

/-- The tag is as written just if there is no Ogham mark in it, or one comes first and the rebuilt
name happens to be the one. -/
theorem tag_eq_written_iff (h : n.StandsIn cs) :
    n.tag = String.ofList (n.opening.takeWhile isNameChar) ↔
      oghamMark ∉ n.opening.takeWhile isNameChar ∨
        (n.opening.takeWhile isNameChar).head? = some oghamMark ∧
          n.scopedTag = String.ofList (n.opening.takeWhile isNameChar) := by
  rw [h.tag_eq]
  generalize n.opening.takeWhile isNameChar = written
  have hcut : written.takeWhile (· ≠ oghamMark) = written ↔ oghamMark ∉ written := by
    rw [List.takeWhile_eq_self_iff]
    constructor
    · intro hall hmem
      exact absurd (hall _ hmem) (by decide)
    · intro hmem x hx
      exact decide_eq_true fun heq => hmem (heq ▸ hx)
  by_cases hhead : written.head? = some oghamMark
  · have hmem : oghamMark ∈ written := List.mem_of_head? hhead
    rw [if_pos hhead]
    exact ⟨fun htag => .inr ⟨hhead, htag⟩, fun hor => hor.elim (absurd hmem) And.right⟩
  · rw [if_neg hhead, String.ofList_inj, hcut]
    exact ⟨.inl, fun hor => hor.elim id fun htag => absurd htag.1 hhead⟩

end StandsIn

/-! ### Elements -/

theorem toElement_tag (n : Node) : n.toElement.tag = n.tag := by
  cases n
  rw [toElement]
  rfl

theorem toElement_namespaceUri (n : Node) : n.toElement.namespaceUri = n.namespaceUri := by
  cases n
  rw [toElement]

mutual

/-- The elements are those of the nodes, in the same order. -/
theorem preorder_toElement : ∀ n : Node, n.toElement.preorder = n.preorder.map toElement
  | ⟨opening, name, uri, attributes, scope, children⟩ => by
      rw [preorder, List.map_cons, toElement, Element.preorder, preorderAll_toElements children]

theorem preorderAll_toElements : ∀ ns : List Node,
    Element.preorderAll (toElements ns) = (preorderAll ns).map toElement
  | [] => by rw [toElements, Element.preorderAll, preorderAll, List.map_nil]
  | n :: rest => by
      rw [toElements, Element.preorderAll, preorderAll, List.map_append, preorder_toElement n,
        preorderAll_toElements rest]

end

end Node

end Xml

/-- **Tags are kept as they are written, but for the Ogham space mark.** Every element of a document
that is read of a text comes from a start tag there, in document order, and is in the namespace that
the name of its tag is resolved to. Its own tag is the name as written, cut at the first Ogham space
mark, and where nothing stands in front of that it is what the scope gives. So it is the name as
written if and only if there is no such mark in it, or the mark comes first and the scope happens to
give the name. As written, it has the local part that the name has. -/
theorem Document.tags_as_written (text : String) (d : Document)
    (h : Document.read? text = some d) :
    ∃ root : Xml.Node, Xml.Node.read? text = some root ∧
      d.root.preorder = root.preorder.map Xml.Node.toElement ∧
      ∀ n ∈ root.preorder, n.StandsIn text.toList ∧
        let written := n.opening.takeWhile Xml.isNameChar
        (n.toElement.tag = if written.head? = some Xml.oghamMark then n.scopedTag
          else String.ofList (written.takeWhile (· ≠ Xml.oghamMark))) ∧
        (n.toElement.tag = String.ofList written ↔ Xml.oghamMark ∉ written ∨
          written.head? = some Xml.oghamMark ∧ n.scopedTag = String.ofList written) ∧
        (n.toElement.tag = String.ofList written →
          n.toElement.localName = String.ofList n.name.localPart) ∧
        n.toElement.namespaceUri = n.namespaceUri := by
  rw [Document.read?, Option.map_eq_some_iff] at h
  obtain ⟨root, hroot, rfl⟩ := h
  refine ⟨root, hroot, root.preorder_toElement, fun n hn => ?_⟩
  have hstands := Xml.Node.read?_standsIn hroot n hn
  refine ⟨hstands, ?_, ?_, fun htag => ?_, n.toElement_namespaceUri⟩
  · rw [n.toElement_tag]
    exact hstands.tag_eq
  · rw [n.toElement_tag]
    exact hstands.tag_eq_written_iff
  · rw [Element.localName, htag]
    exact Xml.QName.localPart_ofRun? hstands.name

/-- In a document without the mark, all elements have the names that were read. -/
theorem Document.tags_as_written_unmarked : ∃ d root,
    Document.read? "<p:a xmlns:p='u'><b/></p:a>" = some d ∧
      Xml.Node.read? "<p:a xmlns:p='u'><b/></p:a>" = some root ∧
      d.root.preorder = root.preorder.map Xml.Node.toElement ∧
      ∀ n ∈ root.preorder, n.toElement.localName = String.ofList n.name.localPart := by
  have hread : (Document.read? "<p:a xmlns:p='u'><b/></p:a>").isSome = true := by decide +kernel
  obtain ⟨d, hd⟩ := Option.isSome_iff_exists.1 hread
  obtain ⟨root, hroot, hsame, hnodes⟩ := tags_as_written _ d hd
  refine ⟨d, root, hd, hroot, hsame, fun n hn => ?_⟩
  obtain ⟨hstands, -, htag, hlocal, -⟩ := hnodes n hn
  have hmark : Xml.oghamMark ∉ "<p:a xmlns:p='u'><b/></p:a>".toList := by decide
  refine hlocal (htag.2 (.inl fun hmem => hmark (hstands.place.subset ?_)))
  exact List.mem_cons_of_mem _ (List.takeWhile_subset _ hmem)

/-- Of a name with the mark, only what is in front of it is kept, and that is another name than the
one that was read. -/
theorem Document.tag_cut_at_mark :
    (Xml.Node.read? "<a\u1680b/>").map
        (fun n => (String.ofList (n.opening.takeWhile Xml.isNameChar), String.ofList n.name.localPart))
        = some ("a\u1680b", "a\u1680b") ∧
      (Document.read? "<a\u1680b/>").map (fun d => (d.root.tag, d.root.localName)) =
        some ("a", "a") ∧
      "a" ≠ "a\u1680b" := by
  decide +kernel

end MarkupActions
