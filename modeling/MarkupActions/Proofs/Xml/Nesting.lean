import Mathlib.Data.List.Nodup
import MarkupActions.Proofs.Xml.Spelling
import MarkupActions.Proofs.Xml.Tags

/-!
# MarkupActions.Proofs.Xml.Nesting

**The tree that the pieces of a document make up.** An element is an empty start tag, or a start tag,
what is inside, and the end tag of the same name; inside stand its children, in order, and between
them character data, comments and processing instructions. `Node.Nested` says so for the pieces of a
document. The reader gets there in one pass with a stack of the elements that have begun, and what it
has read is at any time a chain of unfinished elements (`Node.Open`). In the end it has one node for
each start tag, and no others (`Node.Nested.starts`).
-/

namespace MarkupActions.Xml

/-! ### Elements and what is inside -/

/-- The attributes of a start tag with their values read, in the order in which they are written. -/
def StartTag.ReadsAs (tag : StartTag) (all : List Attribute) : Prop :=
  List.Forall₂ (fun raw a => raw.read? = some a) tag.attributes all

/-- The start tag that a piece of a document is, if it is one. -/
def Markup.start? : Markup → Option StartTag
  | .start tag => some tag
  | _ => none

/-- The start tags among some pieces, in order. -/
def Markup.starts (pieces : List Markup) : List StartTag := pieces.filterMap start?

/-- Whether a piece of a document stands between tags. -/
def Markup.isBetween (m : Markup) : Bool :=
  match m with
  | .text _ | .verbatim _ | .aside => true
  | .start _ | .close _ => false

namespace Node

/-- The start tag that an element begins with. -/
structure Begins (tag : StartTag) (n : Node) : Prop where
  opening : n.opening = tag.opening
  name : n.name = tag.name
  /-- Declarations of namespaces are left out. -/
  attributes : ∃ all, tag.ReadsAs all ∧ n.attributes = all.filter fun a => !a.isDeclaration
  distinct : (n.attributes.map fun a => (a.resolve? n.scope, a.localName)).Nodup

mutual

/-- The pieces of a document that an element is written as. -/
inductive Nested : Node → List Markup → Prop where
  | empty {n : Node} {tag : StartTag} (hbegins : n.Begins tag) (hempty : tag.isEmpty = true)
      (hchildren : n.children = []) : Nested n [.start tag]
  | element {n : Node} {tag : StartTag} {inner : List Markup} (hbegins : n.Begins tag)
      (hempty : tag.isEmpty = false) (hinner : AllNested n.children inner) :
      Nested n (.start tag :: inner ++ [.close tag.name])

/-- The pieces that some elements are written as, one after the other, and what stands around
them. -/
inductive AllNested : List Node → List Markup → Prop where
  | nil : AllNested [] []
  | between {ns : List Node} {m : Markup} {rest : List Markup} (hm : m.isBetween = true)
      (hrest : AllNested ns rest) : AllNested ns (m :: rest)
  | child {n : Node} {ns : List Node} {first rest : List Markup} (hfirst : Nested n first)
      (hrest : AllNested ns rest) : AllNested (n :: ns) (first ++ rest)

end

variable {n : Node} {ns ms : List Node} {pieces more : List Markup}

theorem AllNested.append (h : AllNested ns pieces) (hmore : AllNested ms more) :
    AllNested (ns ++ ms) (pieces ++ more) := by
  refine @AllNested.rec (fun _ _ _ => True)
    (fun ns pieces _ => AllNested (ns ++ ms) (pieces ++ more)) ?empty ?element ?nil ?between ?child
    ns pieces h
  case empty =>
    intros
    trivial
  case element =>
    intros
    trivial
  case nil => exact hmore
  case between =>
    intro ns m rest hm _ ih
    exact .between hm ih
  case child =>
    intro n ns first rest hfirst _ _ ih
    rw [List.cons_append, List.append_assoc]
    exact .child hfirst ih

theorem Nested.single (h : n.Nested pieces) : AllNested [n] pieces := by
  have hall := AllNested.child h .nil
  rwa [List.append_nil] at hall

theorem AllNested.single {m : Markup} (hm : m.isBetween = true) : AllNested [] [m] :=
  .between hm .nil

/-! ### Start tags and nodes -/

/-- The start tags of pieces that follow each other follow each other. -/
theorem starts_append (pieces more : List Markup) :
    Markup.starts (pieces ++ more) = Markup.starts pieces ++ Markup.starts more :=
  List.filterMap_append

theorem starts_close (name : QName) : Markup.starts [.close name] = [] := rfl

theorem starts_cons_of_isBetween {m : Markup} (hm : m.isBetween = true) (rest : List Markup) :
    Markup.starts (m :: rest) = Markup.starts rest := by
  cases m with
  | text | verbatim | aside => rfl
  | start | close => cases hm

/-- Outside the root element there are no start tags. -/
theorem starts_of_isMisc (h : ∀ m ∈ pieces, m.isMisc = true) : Markup.starts pieces = [] := by
  refine List.filterMap_eq_nil_iff.mpr fun m hm => ?_
  have hmisc := h m hm
  cases m with
  | text | verbatim | aside | close => rfl
  | start => cases hmisc

/-- There is one node for each start tag, in the order of the document. -/
theorem Nested.starts (h : n.Nested pieces) :
    List.Forall₂ (fun x tag => Begins tag x) n.preorder (Markup.starts pieces) := by
  refine @Nested.rec
    (fun n pieces _ => List.Forall₂ (fun x tag => Begins tag x) n.preorder (Markup.starts pieces))
    (fun ns pieces _ =>
      List.Forall₂ (fun x tag => Begins tag x) (preorderAll ns) (Markup.starts pieces))
    ?empty ?element ?nil ?between ?child n pieces h
  case empty =>
    intro n tag hbegins _ hchildren
    rw [preorder_eq, hchildren, preorderAll]
    exact .cons hbegins .nil
  case element =>
    intro n tag inner hbegins _ _ ih
    rw [preorder_eq, starts_append, starts_close, List.append_nil]
    exact .cons hbegins ih
  case nil =>
    rw [preorderAll]
    exact .nil
  case between =>
    intro ns m rest hm _ ih
    rw [starts_cons_of_isBetween hm]
    exact ih
  case child =>
    intro n ns first rest _ _ hfirst hrest
    rw [preorderAll, starts_append]
    exact List.rel_append hfirst hrest

/-! ### How elements begin -/

/-- The test that the reader makes is that no two are equal. -/
theorem nodup_of_distinctNames {names : List (Option String × String)}
    (h : distinctNames names = true) : names.Nodup := by
  induction names with
  | nil => exact List.nodup_nil
  | cons first rest ih =>
    rw [distinctNames, Bool.and_eq_true, Bool.not_eq_true', List.contains_eq_mem,
      decide_eq_false_iff_not] at h
    exact List.nodup_cons.mpr ⟨h.1, ih h.2⟩

theorem forall₂_of_mapM {α β : Type} {f : α → Option β} {xs : List α} {ys : List β}
    (h : xs.mapM f = some ys) : List.Forall₂ (fun x y => f x = some y) xs ys := by
  induction xs generalizing ys with
  | nil =>
    rw [List.mapM_nil] at h
    cases h
    exact .nil
  | cons x xs ih =>
    simp only [List.mapM_cons, Option.bind_eq_bind, Option.bind_eq_some_iff, Option.pure_def,
      Option.some.injEq] at h
    obtain ⟨y, hy, rest, hrest, rfl⟩ := h
    exact .cons hy (ih hrest)

/-- What a start tag begins has its name, its attributes and its scope. -/
theorem begins_of_begin? {outer : Scope} {tag : StartTag} (h : begin? outer tag = some n) :
    n.Begins tag ∧ n.children = [] := by
  simp only [begin?, Option.bind_eq_bind, Option.bind_eq_some_iff] at h
  obtain ⟨all, hall, own, -, uri, -, resolved, hresolved, hnode⟩ := h
  split at hnode
  · next hdistinct =>
    cases hnode
    refine ⟨⟨rfl, rfl, ⟨all, forall₂_of_mapM hall, rfl⟩, ?_⟩, rfl⟩
    -- Every prefix is declared, so the resolved names are as many and as distinct.
    have hsame : (all.filter fun a => !a.isDeclaration).map
        (fun a => (a.resolve? (Scope.extend own outer), a.localName)) =
          resolved.map fun p => (some p.1, p.2) := by
      rw [← List.forall₂_eq_eq_eq, List.forall₂_map_left_iff, List.forall₂_map_right_iff]
      refine (forall₂_of_mapM hresolved).imp fun a p hp => ?_
      obtain ⟨uri, huri, rfl⟩ := Option.map_eq_some_iff.mp hp
      exact Prod.ext huri rfl
    rw [hsame]
    refine List.Nodup.map ?_ (nodup_of_distinctNames hdistinct)
    intro p q hpq
    obtain ⟨huri, hlocal⟩ := Prod.mk.inj hpq
    exact Prod.ext (Option.some.inj huri) hlocal
  · cases hnode

/-! ### What has been read -/

namespace Unfinished

/-- An element that has begun, and the pieces that have been read behind its start tag. -/
structure Reads (u : Unfinished) (tag : StartTag) (inner : List Markup) : Prop where
  begins : u.node.Begins tag
  isOpen : tag.isEmpty = false
  children : AllNested u.done.reverse inner

namespace Reads

variable {u : Unfinished} {tag : StartTag} {inner : List Markup}

/-- An element that has just begun has read nothing. -/
theorem begun (h : n.Begins tag) (hopen : tag.isEmpty = false) : Reads ⟨n, []⟩ tag [] :=
  ⟨h, hopen, .nil⟩

theorem skip (h : u.Reads tag inner) {m : Markup} (hm : m.isBetween = true) :
    u.Reads tag (inner ++ [m]) := by
  refine ⟨h.begins, h.isOpen, ?_⟩
  have hall := h.children.append (.single hm)
  rwa [List.append_nil] at hall

/-- A child that is finished has its pieces inside. -/
theorem add (h : u.Reads tag inner) (hn : n.Nested pieces) :
    (u.add n).Reads tag (inner ++ pieces) := by
  refine ⟨h.begins, h.isOpen, ?_⟩
  rw [Unfinished.add, List.reverse_cons]
  exact h.children.append hn.single

/-- An element that is closed is nested in its two tags. -/
theorem finish (h : u.Reads tag inner) :
    u.finish.Nested (.start tag :: inner ++ [.close u.node.name]) := by
  rw [h.begins.name]
  exact .element ⟨h.begins.opening, h.begins.name, h.begins.attributes, h.begins.distinct⟩ h.isOpen
    h.children

end Reads

end Unfinished

/-- The elements that have begun, nearest first, and the pieces of the document from the first start
tag on. -/
inductive Open : Unfinished → List Unfinished → List Markup → Prop where
  | root {top : Unfinished} {tag : StartTag} {inner : List Markup} (htop : top.Reads tag inner) :
      Open top [] (.start tag :: inner)
  | inside {top up : Unfinished} {outer : List Unfinished} {tag : StartTag}
      {inner pieces : List Markup} (hup : Open up outer pieces) (htop : top.Reads tag inner) :
      Open top (up :: outer) (pieces ++ .start tag :: inner)

namespace Open

variable {top : Unfinished} {outer : List Unfinished}

theorem skip (h : Open top outer pieces) {m : Markup} (hm : m.isBetween = true) :
    Open top outer (pieces ++ [m]) := by
  cases h with
  | root htop => exact .root (htop.skip hm)
  | inside hup htop =>
    rw [List.append_assoc, List.cons_append]
    exact .inside hup (htop.skip hm)

theorem add (h : Open top outer pieces) (hn : n.Nested more) :
    Open (top.add n) outer (pieces ++ more) := by
  cases h with
  | root htop => exact .root (htop.add hn)
  | inside hup htop =>
    rw [List.append_assoc, List.cons_append]
    exact .inside hup (htop.add hn)

theorem begin {tag : StartTag} (h : Open top outer pieces) (hn : n.Begins tag)
    (hopen : tag.isEmpty = false) : Open ⟨n, []⟩ (top :: outer) (pieces ++ [.start tag]) :=
  .inside h (.begun hn hopen)

/-- The end tag of the nearest element makes it a child of the next. -/
theorem close {up : Unfinished} (h : Open top (up :: outer) pieces) :
    Open (up.add top.finish) outer (pieces ++ [.close top.node.name]) := by
  cases h with
  | inside hup htop =>
    rw [List.append_assoc]
    exact hup.add htop.finish

theorem finish (h : Open top [] pieces) : top.finish.Nested (pieces ++ [.close top.node.name]) := by
  cases h with
  | root htop => exact htop.finish

end Open

/-- Reading on from some open elements ends with the root element, and nothing but what may stand
outside is left. -/
theorem inside?_nested {top : Unfinished} {outer : List Unfinished} {root : Node}
    (h : inside? top outer more = some root) (hopen : Open top outer pieces) :
    ∃ body after, pieces ++ more = body ++ after ∧ root.Nested body ∧
      ∀ m ∈ after, m.isMisc = true := by
  fun_induction inside? top outer more generalizing pieces with
  | case1 => cases h
  | case2 top outer raw rest ih =>
    rw [List.append_cons]
    exact ih h (hopen.skip rfl)
  | case3 top outer raw rest ih =>
    rw [List.append_cons]
    exact ih h (hopen.skip rfl)
  | case4 top outer rest ih =>
    rw [List.append_cons]
    exact ih h (hopen.skip rfl)
  | case5 => cases h
  | case6 top outer tag rest node hbegin hempty ih =>
    obtain ⟨hbegins, hleaf⟩ := begins_of_begin? hbegin
    rw [List.append_cons]
    exact ih h (hopen.add (.empty hbegins hempty hleaf))
  | case7 top outer tag rest node hbegin hempty ih =>
    obtain ⟨hbegins, -⟩ := begins_of_begin? hbegin
    rw [List.append_cons]
    exact ih h (hopen.begin hbegins (Bool.eq_false_iff.mpr hempty))
  | case8 top rest hmisc =>
    cases h
    exact ⟨_, rest, List.append_cons .., hopen.finish, List.all_eq_true.mp hmisc⟩
  | case9 => cases h
  | case10 top rest up further ih =>
    rw [List.append_cons]
    exact ih h hopen.close
  | case11 => cases h

/-- The pieces of a document are those of its root, with asides and blanks around them. -/
theorem ofMarkup?_nested {root : Node} (h : ofMarkup? pieces = some root) :
    ∃ before body after, pieces = before ++ body ++ after ∧ (∀ m ∈ before ++ after, m.isMisc = true) ∧
      root.Nested body := by
  fun_induction ofMarkup? pieces with
  | case1 => cases h
  | case2 => cases h
  | case3 tag rest node hbegin hempty hmisc =>
    cases h
    obtain ⟨hbegins, hleaf⟩ := begins_of_begin? hbegin
    exact ⟨[], [.start tag], rest, rfl, List.all_eq_true.mp hmisc, .empty hbegins hempty hleaf⟩
  | case4 => cases h
  | case5 tag rest node hbegin hempty =>
    obtain ⟨hbegins, -⟩ := begins_of_begin? hbegin
    obtain ⟨body, after, hpieces, hnested, hmisc⟩ :=
      inside?_nested h (.root (.begun hbegins (Bool.eq_false_iff.mpr hempty)))
    exact ⟨[], body, after, hpieces, hmisc, hnested⟩
  | case6 m rest _ hmisc ih =>
    obtain ⟨before, body, after, rfl, hothers, hnested⟩ := ih h
    exact ⟨m :: before, body, after, rfl, List.forall_mem_cons.mpr ⟨hmisc, hothers⟩, hnested⟩
  | case7 => cases h

end Node

end MarkupActions.Xml
