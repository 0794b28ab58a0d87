import Mathlib.Data.String.Basic
import MarkupActions.Proofs.Xml.Scopes

/-!
# MarkupActions.Proofs.Xml.Rebuilding

**Names rebuilt from the scope.** Where the text of a document is not at hand, an element gets the
local name of its tag behind a prefix that is looked up for its namespace. That prefix is the one of
the first declaration that is listed for the namespace, and it means the namespace as long as no other
declaration with the same name stands in front of that. So much is asked of the lookup
(`Node.LooksUp`), and then the name leads back to the element (`Document.scoped_names_resolve`).

For prefixes it always is so. The default namespace may be declared twice in one start tag, and then
the second declaration stays listed although the first hides it.
-/

namespace MarkupActions

namespace Xml

/-! ### Reading names -/

namespace Scope

variable {scope : Scope} {name : Option String} {uri : String}

/-- The namespace that a scope gives to the name of an element: that of the prefix, or the default
namespace where there is none. The outer option is none when the prefix is not declared. -/
def meaning? (scope : Scope) (name : QName) : Option (Option String) :=
  if name.qualifier = [] then some (scope.uri? none)
  else (scope.uri? (some (String.ofList name.qualifier))).map some

/-- The namespace and the local name that a text means as the name of an element. None where it is no
name, or has a prefix that is not declared. -/
def expand? (scope : Scope) (written : String) : Option (Option String × String) :=
  match scanName? written.toList with
  | some (_, name, []) => (scope.meaning? name).map fun uri => (uri, String.ofList name.localPart)
  | _ => none

/-- The reader of documents takes the names of elements so, except that it refuses the prefix `xmlns`
in them even where it is declared. -/
theorem nameUri?_eq_meaning? {name : QName} (h : name.qualifier ≠ "xmlns".toList) :
    Node.nameUri? scope name = scope.meaning? name := by
  have hne : String.ofList name.qualifier ≠ "xmlns" := fun heq => h (String.ofList_eq.mp heq)
  have hempty : String.ofList name.qualifier = "" ↔ name.qualifier = [] := String.ofList_eq_empty_iff
  simp only [Node.nameUri?, meaning?, if_neg hne, hempty]

/-- A name that an element can have means its namespace. -/
theorem meaning?_of_nameUri? {name : QName} {found : Option String}
    (h : Node.nameUri? scope name = some found) : scope.meaning? name = some found := by
  rw [← nameUri?_eq_meaning? ?_, h]
  intro hxmlns
  rw [Node.nameUri?, hxmlns] at h
  cases h

/-- What a name stands for is declared. -/
theorem exists_of_uri? (h : scope.uri? name = some uri) : ∃ b ∈ scope, b.name = name ∧ b.uri = uri := by
  rw [uri?, Option.map_eq_some_iff] at h
  obtain ⟨b, hfind, huri⟩ := h
  exact ⟨b, List.mem_of_find?_eq_some hfind, by simpa using List.find?_some hfind, huri⟩

/-- A prefix is looked up of the first declaration of a namespace. -/
theorem exists_lookupPrefix?_eq (hne : uri ≠ xmlUri) (h : ∃ b ∈ scope, b.uri = uri) :
    ∃ b ∈ scope, b.uri = uri ∧ scope.lookupPrefix? uri = b.name := by
  obtain ⟨b, hb, huri⟩ := h
  have hsome : (scope.find? (·.uri = uri)).isSome = true :=
    List.find?_isSome.mpr ⟨b, hb, decide_eq_true huri⟩
  obtain ⟨c, hfind⟩ := Option.isSome_iff_exists.mp hsome
  refine ⟨c, List.mem_of_find?_eq_some hfind, by simpa using List.find?_some hfind, ?_⟩
  rw [lookupPrefix?, if_neg hne, hfind, Option.bind_some]

end Scope

namespace Node

variable {n root : Node} {scope : Scope} {tags : List StartTag}

/-! ### Rebuilt names -/

/-- A local name behind the prefix of a declaration, or alone where the default namespace is
declared. -/
def nameUnder (name : Option String) (localName : String) : String :=
  match name with
  | some p => if p = "" then localName else p ++ ":" ++ localName
  | none => localName

/-- What is written leads to the element's own namespace and local name. -/
def DenotedBy (n : Node) (written : String) : Prop :=
  n.scope.expand? written = some (n.namespaceUri, String.ofList n.name.localPart)

theorem qualify_none (scope : Scope) (localName : String) : qualify scope none localName = localName :=
  rfl

theorem qualify_some (scope : Scope) (uri localName : String) :
    qualify scope (some uri) localName = nameUnder (scope.lookupPrefix? uri) localName := by
  rw [qualify, Option.bind_some]
  cases scope.lookupPrefix? uri <;> rfl

/-- A name without a prefix is in the default namespace. -/
theorem expand?_localName {localName : String} (h : QName.IsPart localName.toList) :
    scope.expand? localName = some (scope.uri? none, localName) := by
  have hscan : scanName? (localName.toList ++ []) = _ := h.scanName?_append (by simp)
  rw [List.append_nil] at hscan
  simp [Scope.expand?, hscan, Scope.meaning?]

/-- A name with a prefix is in the namespace of the prefix. -/
theorem expand?_behind {p localName : String} (hp : QName.IsPart p.toList)
    (h : QName.IsPart localName.toList) : scope.expand? (p ++ ":" ++ localName) =
      (scope.uri? (some p)).map fun uri => (some uri, localName) := by
  have hlist : (p ++ ":" ++ localName).toList = p.toList ++ ':' :: localName.toList := by simp
  have hchars : ∀ c ∈ p.toList ++ ':' :: localName.toList, isNameChar c = true :=
    List.forall_mem_append.mpr ⟨hp.chars, List.forall_mem_cons.mpr ⟨rfl, h.chars⟩⟩
  have hscan : scanName? (p.toList ++ ':' :: localName.toList ++ []) = _ :=
    QName.scanName?_append hchars (by simp)
  rw [List.append_nil, h.ofRun?_behind hp, Option.map_some] at hscan
  simp only [Scope.expand?, hlist, hscan, Scope.meaning?, if_neg hp.ne_nil, String.ofList_toList,
    Option.map_map]
  rfl

/-- A name under a declaration means what the declaration's own name does. -/
theorem expand?_nameUnder_iff {name : Option String} {uri localName : String}
    (hname : ∀ p, name = some p → QName.IsPart p.toList) (h : QName.IsPart localName.toList) :
    scope.expand? (nameUnder name localName) = some (some uri, localName) ↔
      scope.uri? name = some uri := by
  cases name with
  | none =>
    rw [nameUnder, expand?_localName h]
    simp
  | some p =>
    have hp := hname p rfl
    have hne : p ≠ "" := fun hempty => hp.ne_nil (hempty ▸ rfl)
    rw [nameUnder, if_neg hne, expand?_behind hp h]
    simp

/-- The namespace of an element is that of a declaration in its scope. -/
theorem exists_of_meaning? {name : QName} {uri : String}
    (h : scope.meaning? name = some (some uri)) : ∃ b ∈ scope, b.uri = uri := by
  have hsome : ∃ key, scope.uri? key = some uri := by
    rw [Scope.meaning?] at h
    split at h
    · exact ⟨none, Option.some.inj h⟩
    · rw [Option.map_eq_some_iff] at h
      obtain ⟨u, hu, heq⟩ := h
      exact ⟨_, hu.trans heq⟩
  obtain ⟨key, hkey⟩ := hsome
  obtain ⟨b, hb, -, huri⟩ := Scope.exists_of_uri? hkey
  exact ⟨b, hb, huri⟩

/-- Only a name without prefix has no namespace, and only where no default is declared. -/
theorem uri?_none_of_meaning? {name : QName} (h : scope.meaning? name = some none) :
    scope.uri? none = none := by
  rw [Scope.meaning?] at h
  split at h
  · exact Option.some.inj h
  · rw [Option.map_eq_some_iff] at h
    obtain ⟨u, -, heq⟩ := h
    cases heq

/-- What is looked up for the namespace of an element is the name of a declaration of it that is in
force: the name means that namespace in the element's scope. -/
def LooksUp (n : Node) : Prop := ∀ uri, n.namespaceUri = some uri →
  ∃ b ∈ n.scope, n.scope.InForce b ∧ b.uri = uri ∧ n.scope.lookupPrefix? uri = b.name

/-- An element of which the name, and all declarations that it could be rebuilt with, can be written. -/
structure Nameable (n : Node) : Prop where
  proper : n.scope.Proper
  localPart : QName.IsPart (String.ofList n.name.localPart).toList
  resolved : n.scope.meaning? n.name = some n.namespaceUri

/-- What the name that is rebuilt for an element means. -/
structure Rebuilt (n : Node) : Prop where
  /-- The name as written means the namespace of the element. -/
  resolved : n.scope.meaning? n.name = some n.namespaceUri
  /-- Without a namespace, the local name is enough. -/
  without : n.namespaceUri = none → n.DenotedBy n.scopedTag
  /-- The prefix is looked up of a declaration that is listed for the namespace. -/
  declared : ∀ uri, n.namespaceUri = some uri →
    ∃ b ∈ n.scope, b.uri = uri ∧ n.scope.lookupPrefix? uri = b.name
  /-- Only what declares the default namespace may be hidden by another declaration. -/
  inForce : ∀ b ∈ n.scope, b.name ≠ none → n.scope.InForce b
  /-- Whatever declaration of the namespace is taken, it leads back to the element just if it is in
  force. -/
  denotedBy_iff : ∀ b ∈ n.scope, n.namespaceUri = some b.uri →
    (n.DenotedBy (nameUnder b.name (String.ofList n.name.localPart)) ↔ n.scope.InForce b)
  /-- So the name that is rebuilt does just if the lookup keeps to declarations in force. -/
  scopedTag_iff : n.DenotedBy n.scopedTag ↔ n.LooksUp

namespace Nameable

variable {uri : String}

theorem denotedBy_scopedTag_of_none (h : n.Nameable) (hnone : n.namespaceUri = none) :
    n.DenotedBy n.scopedTag := by
  have hresolved := h.resolved
  rw [hnone] at hresolved
  rw [DenotedBy, scopedTag, hnone, qualify_none, expand?_localName h.localPart,
    uri?_none_of_meaning? hresolved]

theorem exists_declaration (h : n.Nameable) (huri : n.namespaceUri = some uri) :
    ∃ b ∈ n.scope, b.uri = uri ∧ n.scope.lookupPrefix? uri = b.name := by
  have hresolved := h.resolved
  rw [huri] at hresolved
  obtain ⟨b, hb, hbUri⟩ := exists_of_meaning? hresolved
  exact Scope.exists_lookupPrefix?_eq (hbUri ▸ h.proper.uris b hb) ⟨b, hb, hbUri⟩

/-- A name under a declaration of the namespace resolves just if the declaration is in force. -/
theorem denotedBy_nameUnder_iff (h : n.Nameable) {b : Binding} (hb : b ∈ n.scope)
    (huri : n.namespaceUri = some b.uri) :
    n.DenotedBy (nameUnder b.name (String.ofList n.name.localPart)) ↔ n.scope.InForce b := by
  rw [DenotedBy, huri]
  exact expand?_nameUnder_iff (h.proper.prefixes b hb) h.localPart

/-- The declaration that the prefix is looked up of decides about the name that is rebuilt. -/
theorem denotedBy_scopedTag_iff_inForce (h : n.Nameable) {b : Binding} (hb : b ∈ n.scope)
    (huri : n.namespaceUri = some b.uri) (hlookup : n.scope.lookupPrefix? b.uri = b.name) :
    n.DenotedBy n.scopedTag ↔ n.scope.InForce b := by
  rw [scopedTag, huri, qualify_some, hlookup]
  exact h.denotedBy_nameUnder_iff hb huri

/-- The name that is rebuilt resolves just if the lookup does what is asked of it. -/
theorem denotedBy_scopedTag_iff (h : n.Nameable) : n.DenotedBy n.scopedTag ↔ n.LooksUp := by
  constructor
  · intro hdenoted uri huri
    obtain ⟨b, hb, rfl, hlookup⟩ := h.exists_declaration huri
    exact ⟨b, hb, (h.denotedBy_scopedTag_iff_inForce hb huri hlookup).mp hdenoted, rfl, hlookup⟩
  · intro hlooksUp
    cases huri : n.namespaceUri with
    | none => exact h.denotedBy_scopedTag_of_none huri
    | some uri =>
      obtain ⟨b, hb, hinForce, rfl, hlookup⟩ := hlooksUp uri huri
      exact (h.denotedBy_scopedTag_iff_inForce hb huri hlookup).mpr hinForce

theorem rebuilt (h : n.Nameable) : n.Rebuilt where
  resolved := h.resolved
  without := h.denotedBy_scopedTag_of_none
  declared := fun _ => h.exists_declaration
  inForce := h.proper.inForce
  denotedBy_iff := fun _ => h.denotedBy_nameUnder_iff
  scopedTag_iff := h.denotedBy_scopedTag_iff

/-- Where no declaration is hidden, every lookup keeps to those in force. -/
theorem looksUp (h : n.Nameable) (hall : n.scope.AllInForce) : n.LooksUp := by
  intro uri huri
  obtain ⟨b, hb, hbUri, hlookup⟩ := h.exists_declaration huri
  exact ⟨b, hb, hall b hb, hbUri, hlookup⟩

end Nameable

/-- Every element of a document has a name that can be rebuilt. -/
theorem Scoped.nameable {cs : List Char} (h : root.Scoped tags []) (hstands : root.TreeStandsIn cs) :
    ∀ n ∈ root.preorder, n.Nameable := by
  intro n hn
  have hproper : ∀ n ∈ root.preorder, n.scope.Proper :=
    h.scope_induction (fun _ hbegun houter => hbegun.proper houter) .nil
  have hname : n.name.Spelled (n.opening.takeWhile isNameChar) :=
    ⟨fun c hc => List.mem_takeWhile_imp hc, (hstands n hn).name⟩
  refine ⟨hproper n hn, ?_, Scope.meaning?_of_nameUri? (hstands n hn).resolved⟩
  rw [String.toList_ofList]
  exact hname.localPart_isPart

theorem Scoped.allInForce (h : root.Scoped tags []) (htags : ∀ tag ∈ tags, tag.DeclaresOnce) :
    ∀ n ∈ root.preorder, n.scope.AllInForce := by
  refine h.scope_induction (P := Scope.AllInForce) (fun htag hbegun houter => ?_) nofun
  rw [hbegun.scope_eq]
  exact (htags _ htag).allInForce.extend houter

end Node

end Xml

/-- **Names rebuilt from the scope resolve to the same element.** Every element of a document that is
read has the scope that its start tag and those around it make: the tag's declarations, and behind them
those of its parent that are not replaced. The name that is rebuilt for the element means the element's
own namespace and local name in that scope, given that the lookup of a prefix keeps to declarations in
force, and only then. It always does for prefixes, and for the default namespace unless one start tag
declares that twice: in a document where no start tag declares a name twice, every name that is rebuilt
means its element. -/
theorem Document.scoped_names_resolve (text : String) (d : Document)
    (h : Document.read? text = some d) :
    ∃ (root : Xml.Node) (chars : List Char) (pieces : List Xml.Markup),
      Xml.Node.read? text = some root ∧
      d.root.preorder = root.preorder.map Xml.Node.toElement ∧
      Xml.skipProlog? (Xml.skipMark text.toList) = some chars ∧
      Xml.Markup.scan? chars = some pieces ∧
      root.Scoped (Xml.Markup.starts pieces) [] ∧
      (∀ n ∈ root.preorder, n.toElement.namespaceUri = n.namespaceUri ∧ n.Rebuilt) ∧
      (∀ n ∈ root.preorder, n.LooksUp → n.DenotedBy n.scopedTag) ∧
      ((∀ tag ∈ Xml.Markup.starts pieces, tag.DeclaresOnce) →
        ∀ n ∈ root.preorder, n.LooksUp) := by
  rw [Document.read?, Option.map_eq_some_iff] at h
  obtain ⟨root, hroot, rfl⟩ := h
  have hstands := Xml.Node.read?_standsIn hroot
  have hread := hroot
  simp only [Xml.Node.read?, Xml.Node.ofChars?, Option.bind_eq_bind, Option.bind_eq_some_iff] at hread
  obtain ⟨chars, hprolog, pieces, hscan, hmarkup⟩ := hread
  obtain ⟨parts, hspelled, -⟩ := Xml.Markup.scan?_spelled hscan
  have hscoped : root.Scoped (Xml.Markup.starts pieces) [] := by
    refine Xml.Node.ofMarkup?_scoped hmarkup ?_ fun tag htag => ?_
    · exact fun tag htag => Xml.Node.exists_spelled_of_mem_starts hspelled htag
    · exact List.mem_filterMap.mpr ⟨.start tag, htag, rfl⟩
  have hnameable := hscoped.nameable hstands
  refine ⟨root, chars, pieces, hroot, root.preorder_toElement, hprolog, hscan, hscoped, ?_, ?_, ?_⟩
  · intro n hn
    exact ⟨n.toElement_namespaceUri, (hnameable n hn).rebuilt⟩
  · intro n hn hlooksUp
    exact (hnameable n hn).denotedBy_scopedTag_iff.mpr hlooksUp
  · intro htags n hn
    exact (hnameable n hn).looksUp (hscoped.allInForce htags n hn)

/-- Prefixes that share a namespace with each other and with the default, which is reset further
inside. -/
theorem Document.scoped_names_resolve_shared : ∃ (d : Document) (root : Xml.Node),
    Document.read? "<p:a xmlns:p='u' xmlns='d'><b xmlns:q='u' xmlns='u'><p:c xmlns=''/></b></p:a>" =
      some d ∧
    d.root.preorder = root.preorder.map Xml.Node.toElement ∧
    root.preorder.map Xml.Node.scopedTag = ["p:a", "q:b", "q:c"] ∧
    ∀ n ∈ root.preorder, n.LooksUp ∧ n.DenotedBy n.scopedTag := by
  let text := "<p:a xmlns:p='u' xmlns='d'><b xmlns:q='u' xmlns='u'><p:c xmlns=''/></b></p:a>"
  have hread : (Document.read? text).isSome = true := by decide +kernel
  have htags : ((Xml.Node.read? text).map fun root => root.preorder.map Xml.Node.scopedTag) =
      some ["p:a", "q:b", "q:c"] := by decide +kernel
  have honce : (((Xml.skipProlog? (Xml.skipMark text.toList)).bind Xml.Markup.scan?).map fun pieces =>
      decide (∀ tag ∈ Xml.Markup.starts pieces, tag.DeclaresOnce)) = some true := by decide +kernel
  obtain ⟨d, hd⟩ := Option.isSome_iff_exists.mp hread
  obtain ⟨root, chars, pieces, hroot, hsame, hprolog, hscan, -, -, hdenoted, hlooksUp⟩ :=
    scoped_names_resolve text d hd
  rw [hroot, Option.map_some, Option.some_inj] at htags
  rw [hprolog, Option.bind_some, hscan, Option.map_some, Option.some_inj, decide_eq_true_iff] at honce
  refine ⟨d, root, hd, hsame, htags, fun n hn => ?_⟩
  have hn' := hlooksUp honce n hn
  exact ⟨hn', hdenoted n hn hn'⟩

end MarkupActions
