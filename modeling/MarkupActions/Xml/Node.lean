import MarkupActions.Element
import MarkupActions.Xml.Markup

/-!
# MarkupActions.Xml.Node

**Elements with their names resolved.** `Node.ofMarkup?` matches end tags with start tags and
resolves every prefix in the scope of its element: the declarations that are in force there, the
element's own first and then those of its parent that it does not replace. What is left is refused
when a prefix is not declared, when two attributes of one element have the same namespace and local
name, or when a declaration breaks one of the rules about the two reserved namespaces.

`Node.toElement` turns the result into an element tree. An element's tag is cut out of the document
where its start tag was written, so it keeps its prefix; `Node.scopedTag` is the tag that the scope
alone would give it. So is the name of an attribute, but no more of it than the reader knows the place
of: it keeps the length of a name in 16 bits.
-/

namespace MarkupActions.Xml

/-- The namespace of the prefix `xml`, which needs no declaration. -/
def xmlUri : String := "http://www.w3.org/XML/1998/namespace"

/-- The namespace of declarations, which nothing can be put into. -/
def xmlnsUri : String := "http://www.w3.org/2000/xmlns/"

/-! ### Scopes -/

/-- A declaration in force: a prefix, or none for the default namespace, and the URI it stands
for. -/
structure Binding where
  /-- The prefix; none declares the default namespace. -/
  name : Option String
  uri : String
  deriving DecidableEq

/-- The declarations in force at a place, nearest first. -/
abbrev Scope := List Binding

namespace Scope

/-- Whether there is a declaration of the prefix, or of the default namespace. -/
def binds (scope : Scope) (name : Option String) : Bool := scope.any (·.name = name)

/-- What a prefix stands for, or the default namespace: the nearest declaration counts. -/
def uri? (scope : Scope) (name : Option String) : Option String :=
  (scope.find? (·.name = name)).map Binding.uri

/-- The prefix of the first declaration of a URI; none too when that declares the default
namespace. The prefix `xml` is known everywhere. -/
def lookupPrefix? (scope : Scope) (uri : String) : Option String :=
  if uri = xmlUri then some "xml" else (scope.find? (·.uri = uri)).bind Binding.name

/-- Add a declaration behind the others unless its prefix is bound already. -/
def addOuter (scope : Scope) (b : Binding) : Scope :=
  if scope.binds b.name then scope else scope ++ [b]

/-- The scope of an element with declarations of its own inside a scope. -/
def extend (own outer : Scope) : Scope := if own.isEmpty then outer else outer.foldl addOuter own

end Scope

/-- An attribute with its value read. -/
structure Attribute where
  written : String
  /-- The prefix, empty when there is none. -/
  qualifier : String
  localName : String
  /-- The value. -/
  value : String

/-- Read the value of an attribute. -/
def RawAttribute.read? (a : RawAttribute) : Option Attribute :=
  (attributeValue? a.raw).map fun value =>
    ⟨String.ofList a.written, String.ofList a.name.qualifier, String.ofList a.name.localPart, value⟩

namespace Attribute

/-- Whether the reader takes the attribute for a declaration. It looks at both parts of the name. -/
def isDeclaration (a : Attribute) : Bool := a.qualifier = "xmlns" || a.localName = "xmlns"

/-- Add what a declaring attribute declares, behind the declarations already read from the same
element. Only the prefix `xml` can stand for its namespace, nothing can stand for that of
declarations, and a prefix is declared at most once. -/
def declare? (own : Scope) (a : Attribute) : Option Scope :=
  if a.value = xmlnsUri then none
  else if a.qualifier = "xmlns" then
    if a.localName = "xml" then if a.value = xmlUri then some own else none
    else if a.value = xmlUri || own.binds (some a.localName) then none
    else some (own ++ [⟨some a.localName, a.value⟩])
  else if a.value = xmlUri then none
  else some (own ++ [⟨none, a.value⟩])

/-- The namespace of an attribute: none without prefix, whatever the default namespace is. The
outer option is none when the prefix is not declared. -/
def resolve? (scope : Scope) (a : Attribute) : Option (Option String) :=
  if a.qualifier = "xml" then some (some xmlUri)
  else if a.qualifier = "" then some none
  else (scope.uri? (some a.qualifier)).map some

end Attribute

/-! ### Nodes -/

/-- An element of a document, its names resolved. -/
structure Node where
  /-- The text of the document from behind the `<` of its start tag on. -/
  opening : List Char
  name : QName
  /-- The namespace the name is in. -/
  namespaceUri : Option String
  /-- The attributes that declare nothing, in written order. -/
  attributes : List Attribute
  scope : Scope
  children : List Node

namespace Node

/-- The namespace of an element's name. The outer option is none when the prefix is not declared or
is one that no element can have. -/
def nameUri? (scope : Scope) (name : QName) : Option (Option String) :=
  let qualifier := String.ofList name.qualifier
  -- Unlike an attribute, an element without prefix is in the default namespace.
  if qualifier = "xmlns" then none
  else if qualifier = "" then some (scope.uri? none)
  else (scope.uri? (some qualifier)).map some

/-- No two attributes have the same namespace and local name. -/
def distinctNames (names : List (Option String × String)) : Bool :=
  match names with
  | [] => true
  | n :: rest => !rest.contains n && distinctNames rest

/-- The element that a start tag begins inside a scope, so far without children. -/
def begin? (outer : Scope) (tag : StartTag) : Option Node := do
  -- Declarations count for the whole start tag, also for what is written in front of them.
  let all ← tag.attributes.mapM RawAttribute.read?
  let own ← (all.filter Attribute.isDeclaration).foldlM Attribute.declare? []
  let attributes := all.filter fun a => !a.isDeclaration
  let scope := Scope.extend own outer
  let namespaceUri ← nameUri? scope tag.name
  let resolved ← attributes.mapM fun a => (a.resolve? scope).map fun uri => (uri, a.localName)
  if distinctNames resolved then
    some ⟨tag.opening, tag.name, namespaceUri, attributes, scope, []⟩
  else none

/-- An element that has begun, and its children so far, last one first. -/
structure Unfinished where
  node : Node
  done : List Node

/-- One more child. -/
def Unfinished.add (u : Unfinished) (child : Node) : Unfinished :=
  { u with done := child :: u.done }

/-- The element with its children in document order. -/
def Unfinished.finish (u : Unfinished) : Node := { u.node with children := u.done.reverse }

/-- Read on inside an element. `outer` holds the elements around it, nearest first. -/
def inside? (top : Unfinished) (outer : List Unfinished) : List Markup → Option Node
  | [] => none
  | .text _ :: rest => inside? top outer rest
  | .verbatim _ :: rest => inside? top outer rest
  | .aside :: rest => inside? top outer rest
  | .start tag :: rest =>
      match begin? top.node.scope tag with
      | none => none
      | some node =>
          if tag.isEmpty then inside? (top.add node) outer rest
          else inside? ⟨node, []⟩ (top :: outer) rest
  | .close name :: rest =>
      -- Names are compared as written, so another prefix of the same namespace does not close.
      if name = top.node.name then
        match outer with
        | [] => if rest.all Markup.isMisc then some top.finish else none
        | up :: further => inside? (up.add top.finish) further rest
      else none

/-- The root element of a document. Only asides and white space may stand around it. -/
def ofMarkup? : List Markup → Option Node
  | [] => none
  | .start tag :: rest =>
      match begin? [] tag with
      | none => none
      | some node =>
          if tag.isEmpty then if rest.all Markup.isMisc then some node else none
          else inside? ⟨node, []⟩ [] rest
  | m :: rest => if m.isMisc then ofMarkup? rest else none

/-! ### Element trees -/

/-- A name with the prefix that a scope has for its namespace, if it has one. -/
def qualify (scope : Scope) (uri : Option String) (localName : String) : String :=
  match uri.bind scope.lookupPrefix? with
  | some p => if p = "" then localName else p ++ ":" ++ localName
  | none => localName

/-- The tag that the scope gives the element. Of several prefixes for one namespace it knows only
the first, so it may differ from what was written. -/
def scopedTag (n : Node) : String :=
  qualify n.scope n.namespaceUri (String.ofList n.name.localPart)

/-- Whether a character ends a tag's name. -/
def endsName (c : Char) : Bool := Text.isBlank c || c = '/' || c = '>'

/-- The tag as it stands in the document: everything up to a blank, a slash or the end of the start
tag. -/
def tag (n : Node) : String :=
  let written := n.opening.takeWhile fun c => !endsName c
  if written.isEmpty then n.scopedTag else String.ofList written

/-- How many bytes of an attribute's name the reader knows the place of: the greatest number of
16 bits. -/
def placedBytes : Nat := 65535

/-- The characters in the first bytes of a text; none if these end inside a character. -/
def firstBytes? : Nat → List Char → Option (List Char)
  | _, [] => some []
  | n, c :: rest =>
      if n = 0 then some []
      else if c.utf8Size ≤ n then (firstBytes? (n - c.utf8Size) rest).map (c :: ·)
      else none

/-- The name under which an attribute is kept: as it stands in the document, as far as the place is
known, and where that is inside a character the name that the scope gives. -/
def keptName (scope : Scope) (a : Attribute) : String :=
  match firstBytes? placedBytes a.written.toList with
  | some cs => String.ofList cs
  | none => qualify scope (a.resolve? scope).join a.localName

/-- The attributes under the names that are kept. -/
def attributePairs (n : Node) : List (String × String) :=
  n.attributes.foldl (fun acc a => Element.setIn (keptName n.scope a) a.value acc) []

mutual

/-- The element that a node stands for: its tag and its attributes under the names that are kept. -/
def toElement : Node → Element
  | ⟨opening, name, uri, attributes, scope, children⟩ =>
      let n : Node := ⟨opening, name, uri, attributes, scope, []⟩
      ⟨n.tag, uri, n.attributePairs, toElements children⟩

/-- The elements that some nodes stand for. -/
def toElements : List Node → List Element
  | [] => []
  | n :: rest => toElement n :: toElements rest

end

mutual

/-- The node and everything below it, in document order. -/
def preorder : Node → List Node
  | ⟨opening, name, uri, attributes, scope, children⟩ =>
      ⟨opening, name, uri, attributes, scope, children⟩ :: preorderAll children

/-- The walks of a list of nodes, one after the other. -/
def preorderAll : List Node → List Node
  | [] => []
  | n :: rest => preorder n ++ preorderAll rest

end

end Node

end MarkupActions.Xml
