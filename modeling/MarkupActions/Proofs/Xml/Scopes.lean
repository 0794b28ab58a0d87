import MarkupActions.Proofs.Xml.Attributes

/-!
# MarkupActions.Proofs.Xml.Scopes

**The declarations that are in force at an element.** A scope lists declarations, and a name means
what the first one with that name says. Those of an element stand in front of those of its parent that
it does not replace, so a name means what the element declares, or else what it means around the
element (`Scope.uri?_extend`). What is declared again further inside is not listed any more
(`Scope.mem_extend`), and a start tag cannot declare a prefix twice, so prefixes are listed once
(`Scope.Proper`). The default namespace need not be: every attribute with the local name `xmlns` is
taken for a declaration of it, whatever its prefix.

`Node.Scoped` follows the scopes of a document from the root down, and what every start tag does to a
property of scopes decides about all elements (`Node.Scoped.scope_induction`).
-/

namespace MarkupActions.Xml

/-! ### Declarations in force -/

namespace Scope

variable {scope own outer : Scope} {b : Binding} {name : Option String} {uri : String}

/-- The declaration says what its name means: no other one of that name comes first. -/
def InForce (scope : Scope) (b : Binding) : Prop := scope.uri? b.name = some b.uri

/-- Declarations in front hide those behind. -/
theorem uri?_append (scope more : Scope) (name : Option String) :
    (scope ++ more).uri? name = (scope.uri? name).or (more.uri? name) := by
  simp only [uri?, List.find?_append, Option.map_or]

theorem uri?_singleton_self (b : Binding) : uri? [b] b.name = some b.uri := by
  simp [uri?]

theorem uri?_singleton_of_ne (h : b.name ≠ name) : uri? [b] name = none := by
  simp [uri?, h]

/-- A name is bound just if it stands for something. -/
theorem binds_eq_isSome (scope : Scope) (name : Option String) :
    scope.binds name = (scope.uri? name).isSome := by
  rw [binds, uri?, Option.isSome_map, Bool.eq_iff_iff, List.any_eq_true, List.find?_isSome]

/-- A declaration behind others says something about names that these do not have. -/
theorem uri?_addOuter (scope : Scope) (b : Binding) (name : Option String) :
    (scope.addOuter b).uri? name = (scope ++ [b]).uri? name := by
  rw [addOuter]
  split
  · next hbinds =>
    rw [binds_eq_isSome, Option.isSome_iff_exists] at hbinds
    obtain ⟨uri, huri⟩ := hbinds
    rw [uri?_append]
    by_cases hname : b.name = name
    · rw [← hname, huri, Option.some_or]
    · rw [uri?_singleton_of_ne hname, Option.or_none]
  · rfl

/-- Inside an element a name means what the element's own declarations say, or else what it means
outside. -/
theorem uri?_extend (own outer : Scope) (name : Option String) :
    (extend own outer).uri? name = (own.uri? name).or (outer.uri? name) := by
  have hfold : ∀ outer own : Scope, (outer.foldl addOuter own).uri? name = (own ++ outer).uri? name := by
    intro outer
    induction outer with
    | nil =>
      intro own
      rw [List.foldl_nil, List.append_nil]
    | cons b rest ih =>
      intro own
      rw [List.foldl_cons, ih, uri?_append, uri?_addOuter, ← uri?_append, List.append_assoc,
        List.singleton_append]
  rw [extend]
  split
  · next hempty =>
    rw [List.isEmpty_iff.mp hempty]
    rfl
  · rw [hfold, uri?_append]

/-- What is declared again inside is not listed any more. -/
theorem mem_extend (h : b ∈ extend own outer) : b ∈ own ∨ b ∈ outer ∧ own.uri? b.name = none := by
  have hfold : ∀ outer own : Scope, b ∈ outer.foldl addOuter own →
      b ∈ own ∨ b ∈ outer ∧ own.uri? b.name = none := by
    intro outer
    induction outer with
    | nil => exact fun own h => .inl h
    | cons c rest ih =>
      intro own h
      rcases ih _ h with h | ⟨hrest, hnone⟩
      · rw [addOuter] at h
        split at h
        · exact .inl h
        · next hbinds =>
          rcases List.mem_append.mp h with h | h
          · exact .inl h
          · rw [List.mem_singleton.mp h]
            rw [binds_eq_isSome, Option.not_isSome_iff_eq_none] at hbinds
            exact .inr ⟨List.mem_cons_self, hbinds⟩
      · rw [uri?_addOuter, uri?_append, Option.or_eq_none_iff] at hnone
        exact .inr ⟨List.mem_cons_of_mem _ hrest, hnone.1⟩
  rw [extend] at h
  split at h
  · next hempty =>
    rw [List.isEmpty_iff.mp hempty]
    exact .inr ⟨h, rfl⟩
  · exact hfold outer own h

theorem InForce.append (h : own.InForce b) (more : Scope) : (own ++ more).InForce b := by
  rw [InForce, uri?_append, h, Option.some_or]

/-- What an element declares is in force in it. -/
theorem InForce.extend (h : own.InForce b) (outer : Scope) : (extend own outer).InForce b := by
  rw [InForce, uri?_extend, h, Option.some_or]

/-- What is declared around it is, where it does not declare the name itself. -/
theorem InForce.inherit (h : outer.InForce b) (hown : own.uri? b.name = none) :
    (Scope.extend own outer).InForce b := by
  rw [InForce, uri?_extend, hown, Option.none_or]
  exact h

/-- Where no name is declared twice, all declarations are in force. -/
theorem inForce_of_nodup (h : (scope.map Binding.name).Nodup) : ∀ b ∈ scope, scope.InForce b := by
  induction scope with
  | nil => exact nofun
  | cons c rest ih =>
    rw [List.map_cons, List.nodup_cons] at h
    intro b hb
    show uri? ([c] ++ rest) b.name = some b.uri
    rw [uri?_append]
    rcases List.mem_cons.mp hb with rfl | hb
    · rw [uri?_singleton_self, Option.some_or]
    · have hne : c.name ≠ b.name := fun heq => h.1 (heq ▸ List.mem_map_of_mem hb)
      rw [uri?_singleton_of_ne hne, Option.none_or]
      exact ih h.2 b hb

/-! ### Proper scopes -/

/-- Every declaration can be written in front of a local name, and is not of the namespace that the
prefix `xml` is known to have. Prefixes are declared once. -/
structure Proper (scope : Scope) : Prop where
  uris : ∀ b ∈ scope, b.uri ≠ xmlUri
  prefixes : ∀ b ∈ scope, ∀ p, b.name = some p → QName.IsPart p.toList
  inForce : ∀ b ∈ scope, b.name ≠ none → scope.InForce b

theorem Proper.nil : Proper [] := ⟨nofun, nofun, nofun⟩

/-- A declaration with a new name may be added to a proper scope. -/
theorem Proper.append (h : own.Proper) (huri : b.uri ≠ xmlUri)
    (hpart : ∀ p, b.name = some p → QName.IsPart p.toList)
    (hnew : b.name ≠ none → own.uri? b.name = none) : Proper (own ++ [b]) := by
  refine ⟨?_, ?_, ?_⟩
  · exact List.forall_mem_append.mpr ⟨h.uris, List.forall_mem_singleton.mpr huri⟩
  · exact List.forall_mem_append.mpr ⟨h.prefixes, List.forall_mem_singleton.mpr hpart⟩
  · intro c hc hname
    rcases List.mem_append.mp hc with hc | hc
    · exact (h.inForce c hc hname).append [b]
    · rw [List.mem_singleton.mp hc] at hname ⊢
      rw [InForce, uri?_append, hnew hname, Option.none_or, uri?_singleton_self]

/-- The scope of an element is proper. -/
theorem Proper.extend (hown : own.Proper) (houter : outer.Proper) : (extend own outer).Proper := by
  refine ⟨fun b hb => ?_, fun b hb => ?_, fun b hb hname => ?_⟩
  · exact (mem_extend hb).elim (hown.uris b) fun h => houter.uris b h.1
  · exact (mem_extend hb).elim (hown.prefixes b) fun h => houter.prefixes b h.1
  · rcases mem_extend hb with h | ⟨h, hnone⟩
    · exact (hown.inForce b h hname).extend outer
    · exact (houter.inForce b h hname).inherit hnone

/-- No declaration is hidden by another. -/
def AllInForce (scope : Scope) : Prop := ∀ b ∈ scope, scope.InForce b

/-- If an element hides nothing of its own, all that is listed in its scope is in force. -/
theorem AllInForce.extend (hown : own.AllInForce) (houter : outer.AllInForce) :
    (extend own outer).AllInForce := by
  intro b hb
  rcases mem_extend hb with h | ⟨h, hnone⟩
  · exact (hown b h).extend outer
  · exact (houter b h).inherit hnone

end Scope

/-! ### Declarations of a start tag -/

namespace Attribute

variable {own own' : Scope} {a : Attribute} {declaring : List Attribute}

/-- What is declared: a prefix, or else the default namespace. The prefix `xml` is known already. -/
def binding? (a : Attribute) : Option Binding :=
  if a.qualifier = "xmlns" then
    if a.localName = "xml" then none else some ⟨some a.localName, a.value⟩
  else some ⟨none, a.value⟩

/-- A declaration that is accepted is added at the end, and has passed the rules. -/
theorem declare?_eq_some (h : declare? own a = some own') :
    own' = own ++ a.binding?.toList ∧ ∀ b, a.binding? = some b →
      b.uri ≠ xmlUri ∧ (∀ p, b.name = some p → p = a.localName) ∧
        (b.name ≠ none → own.uri? b.name = none) := by
  rw [declare?] at h
  rw [binding?]
  split at h
  · cases h
  split at h
  · next hqualifier =>
    rw [if_pos hqualifier]
    split at h
    · next hxml =>
      rw [if_pos hxml]
      split at h
      · cases h
        exact ⟨(List.append_nil _).symm, nofun⟩
      · cases h
    · next hxml =>
      rw [if_neg hxml]
      split at h
      · cases h
      · next hnew =>
        cases h
        refine ⟨rfl, fun b hb => ?_⟩
        cases hb
        rw [Bool.or_eq_true, not_or, decide_eq_true_iff, Scope.binds_eq_isSome,
          Option.not_isSome_iff_eq_none] at hnew
        exact ⟨hnew.1, fun p hp => (Option.some.inj hp).symm, fun _ => hnew.2⟩
  · next hqualifier =>
    rw [if_neg hqualifier]
    split at h
    · cases h
    · next huri =>
      cases h
      refine ⟨rfl, fun b hb => ?_⟩
      cases hb
      exact ⟨huri, nofun, fun hname => absurd rfl hname⟩

theorem declare?_proper (h : declare? own a = some own') (hown : own.Proper)
    (ha : QName.IsPart a.localName.toList) : own'.Proper := by
  obtain ⟨rfl, hbinding⟩ := declare?_eq_some h
  cases hb : a.binding? with
  | none =>
    rw [Option.toList_none, List.append_nil]
    exact hown
  | some b =>
    obtain ⟨huri, hpart, hnew⟩ := hbinding b hb
    exact hown.append huri (fun p hp => hpart p hp ▸ ha) hnew

/-- The declarations of a start tag are listed in written order. -/
theorem foldlM_declare? (h : declaring.foldlM declare? own = some own') (hown : own.Proper)
    (hparts : ∀ a ∈ declaring, QName.IsPart a.localName.toList) :
    own' = own ++ declaring.filterMap binding? ∧ own'.Proper := by
  induction declaring generalizing own with
  | nil =>
    cases h
    exact ⟨(List.append_nil _).symm, hown⟩
  | cons a rest ih =>
    rw [List.foldlM_cons, Option.bind_eq_bind, Option.bind_eq_some_iff] at h
    obtain ⟨next, hnext, hrest⟩ := h
    obtain ⟨ha, hparts⟩ := List.forall_mem_cons.mp hparts
    obtain ⟨rfl, hproper⟩ := ih hrest (declare?_proper hnext hown ha) hparts
    refine ⟨?_, hproper⟩
    rw [(declare?_eq_some hnext).1, List.append_assoc, List.filterMap_cons]
    cases a.binding? <;> rfl

end Attribute

namespace StartTag

variable {tag : StartTag} {all : List Attribute}

/-- The declarations of a start tag, in written order. -/
def bindings (tag : StartTag) : Scope :=
  ((tag.attributes.filterMap RawAttribute.read?).filter Attribute.isDeclaration).filterMap
    Attribute.binding?

theorem ReadsAs.filterMap_eq (h : tag.ReadsAs all) :
    tag.attributes.filterMap RawAttribute.read? = all := by
  rw [ReadsAs] at h
  generalize tag.attributes = raws at h ⊢
  induction h with
  | nil => rfl
  | cons hfirst _ ih => rw [List.filterMap_cons_some hfirst, ih]

/-- No name is declared twice in the start tag. -/
def DeclaresOnce (tag : StartTag) : Prop := (tag.bindings.map Binding.name).Nodup

instance (tag : StartTag) : Decidable tag.DeclaresOnce := List.nodupDecidable _

/-- A start tag that declares no name twice hides nothing of its own. -/
theorem DeclaresOnce.allInForce (h : tag.DeclaresOnce) : tag.bindings.AllInForce :=
  Scope.inForce_of_nodup h

end StartTag

namespace Node

variable {n root : Node} {scope outer : Scope} {tag : StartTag} {tags : List StartTag}
  {pieces : List Markup}

/-! ### The scopes of a tree -/

/-- An element that begins with a start tag inside a scope. -/
structure BegunIn (outer : Scope) (tag : StartTag) (n : Node) : Prop where
  begins : n.Begins tag
  scope_eq : n.scope = Scope.extend tag.bindings outer
  /-- A name means what the tag declares, or else what it means around the element. -/
  means : ∀ name, n.scope.uri? name = (tag.bindings.uri? name).or (outer.uri? name)
  proper : outer.Proper → n.scope.Proper

/-- What a start tag begins inside a scope has the scope that its declarations make of that. -/
theorem begin?_begunIn (h : begin? outer tag = some n)
    (htag : ∀ raw ∈ tag.attributes, ∃ cs, raw.Spelled cs) : n.BegunIn outer tag := by
  have hbegins := (begins_of_begin? h).1
  simp only [begin?, Option.bind_eq_bind, Option.bind_eq_some_iff] at h
  obtain ⟨all, hall, own, hown, uri, -, resolved, -, hnode⟩ := h
  have hread : tag.ReadsAs all := forall₂_of_mapM hall
  have hparts : ∀ a ∈ all.filter Attribute.isDeclaration, QName.IsPart a.localName.toList := by
    intro a ha
    obtain ⟨raw, hmem, hraw⟩ := hread.exists_raw (List.mem_of_mem_filter ha)
    obtain ⟨cs, ⟨hname, -, -, -, -, -⟩⟩ := htag raw hmem
    rw [RawAttribute.read?, Option.map_eq_some_iff] at hraw
    obtain ⟨value, -, rfl⟩ := hraw
    rw [String.toList_ofList]
    exact hname.localPart_isPart
  obtain ⟨hbindings, hproper⟩ := Attribute.foldlM_declare? hown .nil hparts
  have hown : own = tag.bindings := by
    rw [hbindings, StartTag.bindings, hread.filterMap_eq, List.nil_append]
  subst hown
  split at hnode
  · cases hnode
    exact ⟨hbegins, rfl, Scope.uri?_extend _ outer, hproper.extend⟩
  · cases hnode

/-- What begins inside a scope, and what it is in the end, have the same scope. -/
theorem BegunIn.withChildren (h : n.BegunIn outer tag) (children : List Node) :
    BegunIn outer tag { n with children := children } :=
  ⟨⟨h.begins.opening, h.begins.name, h.begins.attributes, h.begins.distinct⟩, h.scope_eq, h.means,
    h.proper⟩

/-- What the names of a tree mean: every element begins with one of the start tags, the root inside a
given scope and the others inside the scope of their parent. -/
inductive Scoped (tags : List StartTag) : Scope → Node → Prop where
  | element {outer : Scope} {tag : StartTag} {n : Node} (htag : tag ∈ tags)
      (hbegun : n.BegunIn outer tag) (hchildren : ∀ child ∈ n.children, Scoped tags n.scope child) :
      Scoped tags outer n

/-- An element without children is scoped if it has begun in its place. -/
theorem Scoped.leaf (htag : tag ∈ tags) (hbegun : n.BegunIn outer tag) (hleaf : n.children = []) :
    n.Scoped tags outer := by
  refine .element htag hbegun ?_
  rw [hleaf]
  exact List.forall_mem_nil _

/-- What every start tag does to a property of scopes decides about all elements. -/
theorem Scoped.scope_induction {P : Scope → Prop} (h : root.Scoped tags outer)
    (hstep : ∀ {outer tag n}, tag ∈ tags → BegunIn outer tag n → P outer → P n.scope)
    (houter : P outer) : ∀ n ∈ root.preorder, P n.scope := by
  induction h with
  | element htag hbegun _ ih =>
    have hscope := hstep htag hbegun houter
    rw [preorder_eq]
    refine List.forall_mem_cons.mpr ⟨hscope, fun x hx => ?_⟩
    obtain ⟨child, hchild, hx⟩ := mem_preorderAll.mp hx
    exact ih child hchild hscope x hx

/-! ### Scopes as they are read -/

/-- An element that has begun inside a scope, and its children so far. -/
structure Unfinished.ScopedIn (tags : List StartTag) (outer : Scope) (u : Unfinished) : Prop where
  begun : ∃ tag ∈ tags, u.node.BegunIn outer tag
  done : ∀ child ∈ u.done, child.Scoped tags u.node.scope

theorem Unfinished.ScopedIn.start (htag : tag ∈ tags) (hbegun : n.BegunIn outer tag) :
    ScopedIn tags outer ⟨n, []⟩ :=
  ⟨⟨tag, htag, hbegun⟩, List.forall_mem_nil _⟩

/-- The elements that have begun, nearest first, each inside the scope of the next. -/
def Stacked (tags : List StartTag) (top : Unfinished) : List Unfinished → Prop
  | [] => top.ScopedIn tags []
  | up :: further => top.ScopedIn tags up.node.scope ∧ Stacked tags up further

namespace Stacked

variable {top up : Unfinished} {further : List Unfinished}

theorem add (h : Stacked tags top further) {child : Node} (hchild : child.Scoped tags top.node.scope) :
    Stacked tags (top.add child) further := by
  cases further with
  | nil => exact ⟨h.begun, List.forall_mem_cons.mpr ⟨hchild, h.done⟩⟩
  | cons up further => exact ⟨⟨h.1.begun, List.forall_mem_cons.mpr ⟨hchild, h.1.done⟩⟩, h.2⟩

end Stacked

theorem Unfinished.ScopedIn.finish {u : Unfinished} (h : u.ScopedIn tags outer) :
    u.finish.Scoped tags outer := by
  obtain ⟨tag, htag, hbegun⟩ := h.begun
  refine .element htag (hbegun.withChildren _) fun child hchild => ?_
  exact h.done child (List.mem_reverse.mp hchild)

/-- An element begins inside the scope of the nearest that is open, and has its own scope from then
on. -/
theorem inside?_scoped {top : Unfinished} {further : List Unfinished}
    (h : inside? top further pieces = some root) (hopen : Stacked tags top further)
    (htags : ∀ tag ∈ tags, ∀ raw ∈ tag.attributes, ∃ cs, raw.Spelled cs)
    (hpieces : ∀ tag, .start tag ∈ pieces → tag ∈ tags) : root.Scoped tags [] := by
  fun_induction inside? top further pieces with
  | case1 => cases h
  | case2 top further raw rest ih => exact ih h hopen fun tag ht => hpieces tag (.tail _ ht)
  | case3 top further raw rest ih => exact ih h hopen fun tag ht => hpieces tag (.tail _ ht)
  | case4 top further rest ih => exact ih h hopen fun tag ht => hpieces tag (.tail _ ht)
  | case5 => cases h
  | case6 top further tag rest node hbegin hempty ih =>
    have htag := hpieces tag (.head _)
    have hbegun := begin?_begunIn hbegin (htags tag htag)
    have hnode : node.Scoped tags top.node.scope := .leaf htag hbegun (begins_of_begin? hbegin).2
    exact ih h (hopen.add hnode) fun tag ht => hpieces tag (.tail _ ht)
  | case7 top further tag rest node hbegin hempty ih =>
    have htag := hpieces tag (.head _)
    have hbegun := begin?_begunIn hbegin (htags tag htag)
    exact ih h ⟨.start htag hbegun, hopen⟩ fun tag ht => hpieces tag (.tail _ ht)
  | case8 =>
    cases h
    exact hopen.finish
  | case9 => cases h
  | case10 top rest up further ih =>
    exact ih h (hopen.2.add hopen.1.finish) fun tag ht => hpieces tag (.tail _ ht)
  | case11 => cases h

/-- A document is scoped from the root down, by what its start tags declare. -/
theorem ofMarkup?_scoped (h : ofMarkup? pieces = some root)
    (htags : ∀ tag ∈ tags, ∀ raw ∈ tag.attributes, ∃ cs, raw.Spelled cs)
    (hpieces : ∀ tag, .start tag ∈ pieces → tag ∈ tags) : root.Scoped tags [] := by
  fun_induction ofMarkup? pieces with
  | case1 => cases h
  | case2 => cases h
  | case3 tag rest node hbegin =>
    cases h
    have htag := hpieces tag (.head _)
    have hbegun := begin?_begunIn hbegin (htags tag htag)
    exact .leaf htag hbegun (begins_of_begin? hbegin).2
  | case4 => cases h
  | case5 tag rest node hbegin =>
    have htag := hpieces tag (.head _)
    have hbegun := begin?_begunIn hbegin (htags tag htag)
    have hopen : Stacked tags ⟨node, []⟩ [] := .start htag hbegun
    exact inside?_scoped h hopen htags fun tag ht => hpieces tag (.tail _ ht)
  | case6 rest m _ _ ih => exact ih h fun tag ht => hpieces tag (.tail _ ht)
  | case7 => cases h

end Node

end MarkupActions.Xml
