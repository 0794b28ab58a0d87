import Mathlib.Data.List.Induction
import Mathlib.Data.List.Lex
import MarkupActions.Proofs.Host.Loading

/-!
# MarkupActions.Proofs.DocumentOrder

**The walk with a stack visits a tree in document order.** `Element.descendants` takes the top off a
stack and puts its children there instead. How long this goes on is not told by the length of the
stack, which grows with every element that has children, but by the number of elements in the trees
on it: each step lowers it by one (`Element.countAll_step?`). What the walk gives from a stack on are
the walks of the trees on it, one after the other (`Element.walk_iff`), and for a single tree that is
the walk by recursion.

Two elements of a tree may be equal, so that each is visited once is said about their places: the
numbers of the children on the way there from the root. Document order is the lexicographic order of
the places.
-/

namespace MarkupActions

namespace Element

/-! ### Steps of the walk -/

/-- A step of the walk, from a stack with its top at the end: the top is taken off, and its children
are put there, last one first. -/
def step? (stack : List Element) : Option (Element × List Element) :=
  stack.getLast?.map fun top => (top, stack.dropLast ++ top.children.reverse)

/-- What the walk gives from a stack on. It stops when it finds the stack empty. -/
inductive Walk : List Element → List Element → Prop where
  | stop {stack : List Element} (h : step? stack = none) : Walk stack []
  | next {stack rest visited : List Element} {top : Element} (h : step? stack = some (top, rest))
      (hrest : Walk rest visited) : Walk stack (top :: visited)

variable {stack rest visited : List Element} {top el : Element}

theorem step?_nil : step? [] = none := rfl

/-- A step takes the element on top, and puts its children on the stack in reverse. -/
theorem step?_concat (stack : List Element) (top : Element) :
    step? (stack ++ [top]) = some (top, stack ++ top.children.reverse) := by
  simp [step?]

theorem countAll_reverse (els : List Element) : countAll els.reverse = countAll els := by
  induction els with
  | nil => rfl
  | cons el rest ih => simp [countAll_append, countAll, ih, Nat.add_comm]

/-- Each step takes one element off the trees on the stack. -/
theorem countAll_step? (h : step? stack = some (top, rest)) :
    countAll rest + 1 = countAll stack := by
  cases stack using List.reverseRecOn with
  | nil => cases h
  | append_singleton stack el =>
    rw [step?_concat] at h
    cases h
    simp only [countAll_append, countAll_reverse, countAll, count_eq]
    omega

/-- The walk gives the elements of the trees on the stack, those of the top first. -/
theorem walk_pending (stack : List Element) : Walk stack.reverse (pending stack) := by
  fun_induction pending stack with
  | case1 => exact .stop step?_nil
  | case2 el stack ih =>
    rw [List.reverse_append] at ih
    rw [List.reverse_cons]
    exact .next (step?_concat stack.reverse el) ih

/-- A walk leaves no choice. -/
theorem Walk.unique {other : List Element} (h : Walk stack visited) (hother : Walk stack other) :
    visited = other := by
  induction h generalizing other with
  | stop hstop =>
    cases hother with
    | stop => rfl
    | next hnext =>
      rw [hstop] at hnext
      cases hnext
  | next hnext _ ih =>
    cases hother with
    | stop hstop =>
      rw [hstop] at hnext
      cases hnext
    | next hnext' hrest =>
      rw [hnext] at hnext'
      cases hnext'
      rw [ih hrest]

/-- There are as many steps as elements in the trees on the stack. -/
theorem Walk.length_eq (h : Walk stack visited) : visited.length = countAll stack := by
  induction h with
  | @stop stack hstop =>
    cases stack using List.reverseRecOn with
    | nil => rfl
    | append_singleton stack el =>
      rw [step?_concat] at hstop
      cases hstop
  | next hnext _ ih => rw [List.length_cons, ih, countAll_step? hnext]

/-- From each stack the walk comes to an end, and gives the walks of the trees on it. -/
theorem walk_iff : Walk stack visited ↔ visited = preorderAll stack.reverse := by
  have hwalk : Walk stack (preorderAll stack.reverse) := by
    have hpending := walk_pending stack.reverse
    rwa [List.reverse_reverse, pending_eq] at hpending
  constructor
  · intro h
    exact h.unique hwalk
  · intro h
    rw [h]
    exact hwalk

/-- The descendants of an element are itself and those of its children in turn. -/
theorem descendants_eq_cons_flatMap (el : Element) :
    el.descendants = el :: el.children.flatMap descendants := by
  have hall : ∀ els : List Element, preorderAll els = els.flatMap descendants := by
    intro els
    induction els with
    | nil => rw [preorderAll, List.flatMap_nil]
    | cons first rest ih => rw [preorderAll, ih, List.flatMap_cons, descendants_eq]
  rw [descendants_eq, preorder_eq, hall]

/-- From one element the walk visits its descendants. -/
theorem walk_descendants (el : Element) : Walk [el] visited ↔ visited = el.descendants := by
  rw [walk_iff, List.reverse_singleton, ← pending_eq, descendants]

/-- The walk visits as many elements as the tree has. -/
theorem length_descendants (el : Element) : el.descendants.length = el.count := by
  rw [((walk_descendants el).mpr rfl).length_eq, countAll, countAll, Nat.add_zero]

/-! ### Places in a tree -/

/-- The element at a place, which is given by the numbers of the children on the way there. -/
def at? : Element → List Nat → Option Element
  | el, [] => some el
  | el, i :: place =>
      match el.children[i]? with
      | some child => child.at? place
      | none => none

mutual

/-- The places of a tree, the root's first, and then those in each child. -/
def places : Element → List (List Nat)
  | ⟨_, _, _, children⟩ => [] :: placesFrom 0 children

/-- The places in some children, which are counted from a number on. -/
def placesFrom (i : Nat) : List Element → List (List Nat)
  | [] => []
  | child :: rest => (places child).map (i :: ·) ++ placesFrom (i + 1) rest

end

theorem places_eq (el : Element) : el.places = [] :: placesFrom 0 el.children := by
  cases el
  rw [places]

/-- The place of an element is that of a child and the place below that. -/
theorem mem_placesFrom {i : Nat} {place : List Nat} {els : List Element} :
    place ∈ placesFrom i els ↔
      ∃ j child below, els[j]? = some child ∧ place = (i + j) :: below ∧ below ∈ child.places := by
  induction els generalizing i with
  | nil => simp [placesFrom]
  | cons first rest ih =>
    rw [placesFrom, List.mem_append, List.mem_map, ih]
    constructor
    · rintro (⟨below, hbelow, rfl⟩ | ⟨j, child, below, hchild, rfl, hbelow⟩)
      · exact ⟨0, first, below, rfl, rfl, hbelow⟩
      · exact ⟨j + 1, child, below, hchild, by rw [Nat.add_assoc, Nat.add_comm 1 j], hbelow⟩
    · rintro ⟨j, child, below, hchild, rfl, hbelow⟩
      cases j with
      | zero =>
        cases hchild
        exact .inl ⟨below, hbelow, rfl⟩
      | succ j =>
        exact .inr ⟨j, child, below, hchild, by rw [Nat.add_assoc, Nat.add_comm 1 j], hbelow⟩

/-- At the places of a tree there is an element, and nowhere else. -/
theorem mem_places {place : List Nat} : place ∈ el.places ↔ (el.at? place).isSome = true := by
  induction place generalizing el with
  | nil => simp [places_eq, at?]
  | cons i place ih =>
    rw [places_eq, List.mem_cons, mem_placesFrom, at?]
    constructor
    · rintro (h | ⟨j, child, below, hchild, hplace, hbelow⟩)
      · cases h
      · obtain ⟨rfl, rfl⟩ := List.cons.inj hplace
        rw [Nat.zero_add, hchild]
        exact ih.mp hbelow
    · intro h
      cases hchild : el.children[i]? with
      | none =>
        rw [hchild] at h
        cases h
      | some child =>
        rw [hchild] at h
        exact .inr ⟨i, child, place, hchild, by rw [Nat.zero_add], ih.mpr h⟩

mutual

/-- The places of a tree are listed in ascending order, so each is listed once. -/
theorem places_ascending : ∀ el : Element, el.places.Pairwise (· < ·)
  | ⟨_, _, _, children⟩ => by
      rw [places]
      refine List.pairwise_cons.mpr ⟨fun place hplace => ?_, placesFrom_ascending 0 children⟩
      obtain ⟨j, child, below, -, rfl, -⟩ := mem_placesFrom.mp hplace
      exact List.nil_lt_cons _ _

theorem placesFrom_ascending : ∀ (i : Nat) (els : List Element),
    (placesFrom i els).Pairwise (· < ·)
  | _, [] => by
      rw [placesFrom]
      exact .nil
  | i, child :: rest => by
      rw [placesFrom, List.pairwise_append]
      refine ⟨?_, placesFrom_ascending (i + 1) rest, ?_⟩
      · rw [List.pairwise_map]
        refine (places_ascending child).imp fun hlt => ?_
        exact List.cons_lt_cons_iff.mpr (.inr ⟨rfl, hlt⟩)
      · intro place hplace other hother
        obtain ⟨below, -, rfl⟩ := List.mem_map.mp hplace
        obtain ⟨j, _, _, -, rfl, -⟩ := mem_placesFrom.mp hother
        exact List.cons_lt_cons_iff.mpr (.inl (by omega))

end

mutual

/-- The walk by recursion gives the elements at the places, in the order of these. -/
theorem preorder_places : ∀ el : Element, el.preorder.map some = el.places.map el.at?
  | ⟨tag, ns, attributes, children⟩ => by
      rw [preorder, places, List.map_cons, List.map_cons, at?]
      refine congrArg _ (preorderAll_placesFrom 0 children _ fun j child below hchild => ?_)
      rw [at?, Nat.zero_add, hchild]

theorem preorderAll_placesFrom : ∀ (i : Nat) (els : List Element) (look : List Nat → Option Element),
    (∀ j child below, els[j]? = some child → look ((i + j) :: below) = child.at? below) →
      (preorderAll els).map some = (placesFrom i els).map look
  | _, [], _, _ => by rw [preorderAll, placesFrom, List.map_nil, List.map_nil]
  | i, first :: rest, look, hlook => by
      have hfirst : (first.places.map (i :: ·)).map look = first.places.map first.at? := by
        rw [List.map_map]
        exact List.map_congr_left fun below _ => hlook 0 first below rfl
      have hrest := preorderAll_placesFrom (i + 1) rest look fun j child below hchild => by
        rw [Nat.add_assoc, Nat.add_comm 1 j]
        exact hlook (j + 1) child below hchild
      rw [preorderAll, placesFrom, List.map_append, List.map_append, preorder_places first, hfirst,
        hrest]

end

end Element

/-! ### Both walks over a document -/

namespace Agent

mutual

/-- The scan for schemas looks at one element after the other. -/
theorem scan_eq_forM (uri : String) : ∀ el : Element, scan uri el = forM el.preorder (scanOne uri)
  | ⟨_, _, _, children⟩ => by
      rw [scan, Element.preorder, List.forM_cons, scanAll_eq_forM uri children]

theorem scanAll_eq_forM (uri : String) : ∀ els : List Element,
    scanAll uri els = forM (Element.preorderAll els) (scanOne uri)
  | [] => by rw [scanAll, Element.preorderAll, List.forM_nil]
  | el :: rest => by
      rw [scanAll, Element.preorderAll, List.forM_append, scan_eq_forM uri el,
        scanAll_eq_forM uri rest]

end

end Agent

/-- **The walk with a stack is the walk by recursion, and both follow the document.** From each tree
the steps come to an end, after as many as there are elements, and there is one list that they can
give: the tree's root, then what the walk gives for each child in turn. It holds the element at each
place of the tree once, and in the order of the places, which ascends. A session that looks for what
it is to load and a module that scans for schemas go through this very list. -/
theorem Element.descendants_in_document_order (el : Element) :
    (∀ visited, Element.Walk [el] visited ↔ visited = el.descendants) ∧
      el.descendants = el :: el.children.flatMap descendants ∧
      el.descendants.length = el.count ∧
      (el.places.Pairwise (· < ·) ∧ (∀ place, place ∈ el.places ↔ (el.at? place).isSome = true) ∧
        el.descendants.map some = el.places.map el.at?) ∧
      (∀ uri, Agent.scan uri el = forM el.descendants (Agent.scanOne uri)) ∧
      ∀ (host : Host) (reenter : Reenter), host.document.root = el → host.preload reenter =
        host.loadAll reenter (((el.descendants.filterMap (·.namespaceUri)).filter
          host.registry.contains).foldr Host.insertSorted []) := by
  refine ⟨fun visited => el.walk_descendants, el.descendants_eq_cons_flatMap, el.length_descendants,
    ⟨el.places_ascending, fun place => mem_places, ?places⟩, fun uri => ?scan,
    fun host reenter hroot => ?preload⟩
  case places =>
    rw [descendants_eq]
    exact el.preorder_places
  case scan =>
    rw [descendants_eq]
    exact Agent.scan_eq_forM uri el
  case preload =>
    rw [Host.preload, Host.usedUris, hroot]

end MarkupActions
