/-
Finite ordered trees, and searches in document order.

A tree has inner nodes, which carry a label and an ordered list of children, and
leaves.  A `Node` is an inner node together with the place where it stands, so
that two equal subtrees at different places are different nodes.  `preorderTree`
lists the nodes of a tree in document order.  The recursive searches are then
list functions:

* `firstInForest_eq_find` — the depth-first search for a label returns the first
  match of the preorder list;
* `countInForest_eq_countP` — the recursive count is the count over that list;
* `outermostInForest_sublist` — the matches that stand in no other match are among
  all matches, in their order;
* `forest_unique` — if a label occurs once, any two nodes that carry it are the
  same node.
-/
import Mathlib.Data.List.Basic

namespace OrderedTree

open List

universe u v

/-- A tree with labelled inner nodes, ordered children, and leaves. -/
inductive Tree (α : Type u) (β : Type v) where
  | node (label : α) (children : List (Tree α β))
  | leaf (value : β)

/-- An inner node and its place: the child indices that lead to it, innermost
first. -/
structure Node (α : Type u) (β : Type v) where
  path : List Nat
  label : α
  children : List (Tree α β)

variable {α : Type u} {β : Type v}

/-- The test `m` on the label of a node. -/
def matching (m : α → Bool) (n : Node α β) : Bool := m n.label

/-! ### Document order -/

mutual

/-- The inner nodes of the tree that stands at `p`, in document order. -/
def preorderTree (p : List Nat) : Tree α β → List (Node α β)
  | .node a cs => ⟨p, a, cs⟩ :: preorderForest p 0 cs
  | .leaf _ => []

/-- The inner nodes of the trees that stand below `p` from child index `i` on. -/
def preorderForest (p : List Nat) (i : Nat) : List (Tree α β) → List (Node α β)
  | [] => []
  | t :: ts => preorderTree (i :: p) t ++ preorderForest p (i + 1) ts

end

def Node.descendants (n : Node α β) : List (Node α β) := preorderForest n.path 0 n.children

/-- The node and everything below it. -/
def Node.preorder (n : Node α β) : List (Node α β) := n :: n.descendants

mutual

def leavesTree : Tree α β → List β
  | .node _ cs => leavesForest cs
  | .leaf b => [b]

def leavesForest : List (Tree α β) → List β
  | [] => []
  | t :: ts => leavesTree t ++ leavesForest ts

end

def nodesAt (p : List Nat) (i : Nat) : List (Tree α β) → List (Node α β)
  | [] => []
  | .node a cs :: ts => ⟨i :: p, a, cs⟩ :: nodesAt p (i + 1) ts
  | .leaf _ :: ts => nodesAt p (i + 1) ts

def Node.childNodes (n : Node α β) : List (Node α β) := nodesAt n.path 0 n.children

/-- Induction over trees that stand side by side: the first is a leaf, or a node with trees
below it. -/
@[elab_as_elim]
theorem forest_induction {P : List (Tree α β) → Prop} (nil : P [])
    (leaf : ∀ b ts, P ts → P (.leaf b :: ts))
    (node : ∀ a cs ts, P cs → P ts → P (.node a cs :: ts)) : ∀ ts, P ts
  | [] => nil
  | .leaf b :: ts => leaf b ts (forest_induction nil leaf node ts)
  | .node a cs :: ts =>
    node a cs ts (forest_induction nil leaf node cs) (forest_induction nil leaf node ts)

section Order

variable {p : List Nat} {i : Nat} {ts : List (Tree α β)} {n : Node α β}

theorem preorderForest_node {a : α} {cs : List (Tree α β)} : preorderForest p i (.node a cs :: ts) =
      Node.preorder ⟨i :: p, a, cs⟩ ++ preorderForest p (i + 1) ts := rfl

theorem mem_preorderForest_node {a : α} {cs : List (Tree α β)} :
    n ∈ preorderForest p i (.node a cs :: ts) ↔
      (n = ⟨i :: p, a, cs⟩ ∨ n ∈ preorderForest (i :: p) 0 cs) ∨ n ∈ preorderForest p (i + 1) ts := by
  rw [preorderForest_node, mem_append, Node.preorder, mem_cons]
  rfl

variable (p i ts) in
theorem preorderForest_eq_flatMap :
    preorderForest p i ts = (nodesAt p i ts).flatMap Node.preorder := by
  induction ts using forest_induction generalizing i with
  | nil => rfl
  | leaf b ts ih => exact ih (i + 1)
  | node a cs ts _ ih => rw [preorderForest_node, ih, nodesAt, flatMap_cons]

theorem preorderForest_sublist (h : n ∈ preorderForest p i ts) :
    n.preorder.Sublist (preorderForest p i ts) := by
  induction ts using forest_induction generalizing p i with
  | nil => cases h
  | leaf b ts ih => exact ih h
  | node a cs ts below ih =>
    rcases mem_preorderForest_node.mp h with (rfl | h) | h
    · exact sublist_append_left _ _
    · exact ((below h).cons _).trans (sublist_append_left _ _)
    · exact (ih h).trans (sublist_append_right _ _)

theorem length_lt_of_mem_preorderForest (h : n ∈ preorderForest p i ts) :
    p.length < n.path.length := by
  induction ts using forest_induction generalizing p i with
  | nil => cases h
  | leaf b ts ih => exact ih h
  | node a cs ts below ih =>
    rcases mem_preorderForest_node.mp h with (rfl | h) | h
    · exact Nat.lt_succ_self _
    · exact Nat.lt_of_succ_lt (below h)
    · exact ih h

end Order

/-! ### Searches -/

section Searches

variable (m : α → Bool)

mutual

/-- The first node of the tree whose label matches: the node itself, else the
first one below it. -/
def firstInTree (p : List Nat) : Tree α β → Option (Node α β)
  | .node a cs => if m a then some ⟨p, a, cs⟩ else firstInForest p 0 cs
  | .leaf _ => none

def firstInForest (p : List Nat) (i : Nat) : List (Tree α β) → Option (Node α β)
  | [] => none
  | t :: ts =>
    match firstInTree (i :: p) t with
    | some n => some n
    | none => firstInForest p (i + 1) ts

end

mutual

def countInTree : Tree α β → Nat
  | .node a cs => (if m a then 1 else 0) + countInForest cs
  | .leaf _ => 0

def countInForest : List (Tree α β) → Nat
  | [] => 0
  | t :: ts => countInTree t + countInForest ts

end

mutual

/-- The matches that stand in no other match: the search does not go below a
match. -/
def outermostInTree (p : List Nat) : Tree α β → List (Node α β)
  | .node a cs => if m a then [⟨p, a, cs⟩] else outermostInForest p 0 cs
  | .leaf _ => []

def outermostInForest (p : List Nat) (i : Nat) : List (Tree α β) → List (Node α β)
  | [] => []
  | t :: ts => outermostInTree (i :: p) t ++ outermostInForest p (i + 1) ts

end

def rootMatches : Tree α β → Bool
  | .node a _ => m a
  | .leaf _ => false

mutual

/-- The tree without the subtrees below it whose root matches. -/
def pruneTree : Tree α β → Tree α β
  | .node a cs => .node a (pruneForest cs)
  | .leaf b => .leaf b

/-- The trees without the subtrees whose root matches, at any depth. -/
def pruneForest : List (Tree α β) → List (Tree α β)
  | [] => []
  | t :: ts => if rootMatches m t then pruneForest ts else pruneTree t :: pruneForest ts

end

def Node.first (n : Node α β) : Option (Node α β) :=
  if m n.label then some n else firstInForest m n.path 0 n.children

def Node.count (n : Node α β) : Nat := (if m n.label then 1 else 0) + countInForest m n.children

variable {m}

theorem firstInForest_eq_find (p : List Nat) (i : Nat) (ts : List (Tree α β)) :
    firstInForest m p i ts = (preorderForest p i ts).find? (matching m) := by
  induction ts using forest_induction generalizing p i with
  | nil => rfl
  | leaf b ts ih => exact ih p (i + 1)
  | node a cs ts below ih =>
    rw [firstInForest, firstInTree, preorderForest_node, List.find?_append, Node.preorder, ih]
    by_cases h : m a = true
    · rw [if_pos h, List.find?_cons_of_pos (show matching m ⟨i :: p, a, cs⟩ = true from h)]
      rfl
    · rw [if_neg h, List.find?_cons_of_neg (show ¬matching m ⟨i :: p, a, cs⟩ = true from h), below,
        Node.descendants]
      cases (preorderForest (i :: p) 0 cs).find? (matching m) <;> rfl

theorem Node.first_eq_find (n : Node α β) : n.first m = n.preorder.find? (matching m) := by
  rw [Node.first, Node.preorder]
  by_cases h : m n.label = true
  · rw [if_pos h, List.find?_cons_of_pos (show matching m n = true from h)]
  · rw [if_neg h, List.find?_cons_of_neg (show ¬matching m n = true from h)]
    exact firstInForest_eq_find n.path 0 n.children

theorem countInForest_eq_countP (p : List Nat) (i : Nat) (ts : List (Tree α β)) :
    countInForest m ts = (preorderForest p i ts).countP (matching m) := by
  induction ts using forest_induction generalizing p i with
  | nil => rfl
  | leaf b ts ih => exact (Nat.zero_add _).trans (ih p (i + 1))
  | node a cs ts below ih =>
    rw [countInForest, countInTree, preorderForest_node, countP_append, Node.preorder,
      countP_cons, ih p (i + 1), below (i :: p) 0, Nat.add_comm (ite _ _ _)]
    rfl

/-- A test that at most one entry passes picks out the entry that passes it. -/
theorem filter_eq_singleton {γ : Type*} {test : γ → Bool} {l : List γ} {x : γ}
    (hcount : l.countP test ≤ 1) (hx : x ∈ l) (htest : test x = true) : l.filter test = [x] := by
  have hmem : x ∈ l.filter test := mem_filter.mpr ⟨hx, htest⟩
  have hpos := length_pos_of_mem hmem
  rw [countP_eq_length_filter] at hcount
  have hone : (l.filter test).length = 1 := by omega
  obtain ⟨y, hy⟩ := length_eq_one_iff.mp hone
  rw [hy] at hmem ⊢
  rw [mem_singleton.mp hmem]

theorem forest_unique {p : List Nat} {i : Nat} {ts : List (Tree α β)}
    (hcount : countInForest m ts = 1) {x y : Node α β} (hx : x ∈ preorderForest p i ts)
    (hmx : matching m x = true) (hy : y ∈ preorderForest p i ts) (hmy : matching m y = true) :
    x = y := by
  rw [countInForest_eq_countP p i] at hcount
  have hfilter := filter_eq_singleton (Nat.le_of_eq hcount) hy hmy
  have hmem := mem_filter.mpr ⟨hx, hmx⟩
  rw [hfilter] at hmem
  exact mem_singleton.mp hmem

/-! ### Outermost matches -/

theorem outermostInForest_sublist (p : List Nat) (i : Nat) (ts : List (Tree α β)) :
    (outermostInForest m p i ts).Sublist ((preorderForest p i ts).filter (matching m)) := by
  induction ts using forest_induction generalizing p i with
  | nil => exact nil_sublist _
  | leaf b ts ih => exact ih p (i + 1)
  | node a cs ts below ih =>
    rw [outermostInForest, outermostInTree, preorderForest_node, filter_append, Node.preorder]
    refine List.Sublist.append ?_ (ih p (i + 1))
    by_cases h : m a = true
    · rw [if_pos h, filter_cons_of_pos (show matching m ⟨i :: p, a, cs⟩ = true from h)]
      exact (nil_sublist _).cons_cons _
    · rw [if_neg h, filter_cons_of_neg (show ¬matching m ⟨i :: p, a, cs⟩ = true from h)]
      exact below (i :: p) 0

theorem Node.count_eq_countP (n : Node α β) : n.count m = n.preorder.countP (matching m) := by
  rw [Node.count, countInForest_eq_countP n.path 0, Node.preorder, countP_cons, Nat.add_comm]
  rfl

theorem outermostInForest_eq_filter {p : List Nat} {i : Nat} {ts : List (Tree α β)}
    (h : ∀ n ∈ outermostInForest m p i ts, ∀ d ∈ n.descendants, m d.label = false) :
    outermostInForest m p i ts = (preorderForest p i ts).filter (matching m) := by
  induction ts using forest_induction generalizing p i with
  | nil => rfl
  | leaf b ts ih => exact ih h
  | node a cs ts below ih =>
    rw [outermostInForest, outermostInTree, forall_mem_append] at h
    rw [outermostInForest, outermostInTree, preorderForest_node, filter_append, Node.preorder,
      ih h.2]
    by_cases hm : m a = true
    · rw [if_pos hm] at h ⊢
      have hbelow : ∀ d ∈ Node.descendants ⟨i :: p, a, cs⟩, ¬ matching m d = true := fun d hd => by
        rw [matching, h.1 _ mem_cons_self d hd]
        exact Bool.false_ne_true
      rw [filter_cons_of_pos (show matching m ⟨i :: p, a, cs⟩ = true from hm),
        filter_eq_nil_iff.mpr hbelow]
    · rw [if_neg hm] at h ⊢
      rw [filter_cons_of_neg (show ¬matching m ⟨i :: p, a, cs⟩ = true from hm)]
      exact congrArg (· ++ _) (below h.1)

end Searches

end OrderedTree
