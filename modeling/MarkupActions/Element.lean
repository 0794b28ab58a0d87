import MarkupActions.Location
import MarkupActions.Text.Lowercase

/-!
# MarkupActions.Element

**The element tree that documents are made of.** An element keeps its qualified name and its
attributes' names as they were written, next to the namespace URI that its name was resolved to.
Text between elements plays no part and is not kept.

Two walks visit an element and everything below it: `descendants` keeps a stack of the subtrees
still to come, `preorder` follows the shape of the tree.
-/

namespace MarkupActions

/-- An element of a document, with everything below it. -/
structure Element where
  /-- The qualified name as written, such as `env:get`. -/
  tag : String
  /-- The namespace the element is in, if any. -/
  namespaceUri : Option String
  /-- Values under qualified names, in document order. -/
  attributes : List (String × String)
  children : List Element
  deriving Inhabited

namespace Element

/-- An element in no namespace, without attributes and children. -/
def named (tag : String) : Element := ⟨tag, none, [], []⟩

/-- Put the element into a namespace. -/
def inNamespace (el : Element) (uri : String) : Element := { el with namespaceUri := some uri }

/-- The value of the first attribute with a name. -/
def attribute? (el : Element) (name : String) : Option String :=
  (el.attributes.find? fun a => a.1 = name).map Prod.snd

/-- The value of an attribute, empty when it is absent. -/
def attributeD (el : Element) (name : String) : String := (el.attribute? name).getD ""

/-- Replace the value of the first attribute with the name, or put a new one at the end. -/
def setIn (name value : String) : List (String × String) → List (String × String)
  | [] => [(name, value)]
  | (n, v) :: rest => if n = name then (n, value) :: rest else (n, v) :: setIn name value rest

/-- Set an attribute; a name that is already there keeps its place. -/
def setAttribute (el : Element) (name value : String) : Element :=
  { el with attributes := setIn name value el.attributes }

/-- The element with one more child, behind the others. -/
def withChild (el child : Element) : Element := { el with children := el.children ++ [child] }

/-- The tag without its prefix. -/
def localName (el : Element) : String := localPart el.tag

/-- The tag without its prefix in lower case, by which elements are told apart. -/
def action (el : Element) : String := Text.lowercase el.localName

/-! ### Equality -/

mutual

/-- Equality of elements in every part. -/
def beq : Element → Element → Bool
  | ⟨t, n, as, cs⟩, ⟨t', n', as', cs'⟩ => t == t' && n == n' && as == as' && beqAll cs cs'

/-- Whether two lists of elements are equal, one by one. -/
def beqAll : List Element → List Element → Bool
  | [], [] => true
  | c :: cs, c' :: cs' => beq c c' && beqAll cs cs'
  | _, _ => false

end

instance : BEq Element := ⟨beq⟩

/-! ### Size -/

mutual

/-- The number of elements in a tree. -/
def count : Element → Nat
  | ⟨_, _, _, cs⟩ => 1 + countAll cs

/-- The number of elements in some trees. -/
def countAll : List Element → Nat
  | [] => 0
  | c :: cs => count c + countAll cs

end

theorem countAll_append (xs ys : List Element) :
    countAll (xs ++ ys) = countAll xs + countAll ys := by
  induction xs with
  | nil => simp [countAll]
  | cons x xs ih => simp [countAll, ih, Nat.add_assoc]

theorem count_eq (el : Element) : el.count = 1 + countAll el.children := by
  cases el; simp [count]

/-! ### Walks -/

/-- The elements of the trees on a stack, top first: the top is taken off and its children are put
in its place. -/
def pending : List Element → List Element
  | [] => []
  | el :: stack => el :: pending (el.children ++ stack)
termination_by stack => countAll stack
decreasing_by
  rw [countAll_append, countAll, count_eq]
  omega

/-- An element and everything below it, in document order. -/
def descendants (el : Element) : List Element := pending [el]

mutual

/-- An element and everything below it: the element, then each child's own walk. -/
def preorder : Element → List Element
  | ⟨t, n, as, cs⟩ => ⟨t, n, as, cs⟩ :: preorderAll cs

/-- The walks of a list of trees, one after the other. -/
def preorderAll : List Element → List Element
  | [] => []
  | c :: cs => preorder c ++ preorderAll cs

end

mutual

/-- The elements of a tree in document order, each with the number of its ancestors inside it. -/
def outline (depth : Nat) : Element → List (Nat × Element)
  | ⟨t, n, as, cs⟩ => (depth, ⟨t, n, as, cs⟩) :: outlineAll (depth + 1) cs

/-- The outlines of a list of trees, one after the other. -/
def outlineAll (depth : Nat) : List Element → List (Nat × Element)
  | [] => []
  | c :: cs => outline depth c ++ outlineAll depth cs

end

end Element

/-- A document: its root element, and where it came from if that is known. -/
structure Document where
  root : Element
  /-- The place the document was loaded from. -/
  source : Option String
  deriving Inhabited

namespace Document

/-- A document that came from nowhere in particular. -/
def ofRoot (root : Element) : Document := ⟨root, none⟩

/-- Record where the document came from. -/
def withSource (d : Document) (source : String) : Document := { d with source := some source }

end Document

end MarkupActions
