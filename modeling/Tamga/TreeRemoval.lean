/-
The places of nodes in ordered trees.

A place is a path, innermost index first, so that one node stands in the subtree of another only
if the path of the other is a suffix of its own.

* `suffix_of_mem_preorder` — the subtree of a node, by paths;
* `nodup_preorderForest` — every node has its own place.
-/
import Tamga.OrderedTree

namespace OrderedTree

open List

universe u v

variable {α : Type u} {β : Type v} {m : α → Bool}

/-! ### Paths -/

section Paths

variable {p : List Nat} {i : Nat} {ts : List (Tree α β)} {n o : Node α β}

theorem suffix_of_mem_preorderForest (h : n ∈ preorderForest p i ts) :
    ∃ j, i ≤ j ∧ (j :: p) <:+ n.path := by
  induction ts using forest_induction generalizing p i with
  | nil => cases h
  | leaf b ts ih =>
    obtain ⟨j, hle, hj⟩ := ih h
    exact ⟨j, by omega, hj⟩
  | node a cs ts below ih =>
    rcases mem_preorderForest_node.mp h with (rfl | h) | h
    · exact ⟨i, Nat.le_refl i, suffix_refl _⟩
    · obtain ⟨j, -, hj⟩ := below h
      exact ⟨i, Nat.le_refl i, (suffix_cons j _).trans hj⟩
    · obtain ⟨j, hle, hj⟩ := ih h
      exact ⟨j, by omega, hj⟩

theorem suffix_of_mem_preorder (h : n ∈ o.preorder) : o.path <:+ n.path := by
  rcases mem_cons.mp h with rfl | h
  · exact suffix_refl _
  · obtain ⟨j, -, hj⟩ := suffix_of_mem_preorderForest h
    exact (suffix_cons j _).trans hj

theorem eq_of_suffix_cons {j : Nat} {q : List Nat} (hi : (i :: p) <:+ q) (hj : (j :: p) <:+ q) :
    i = j := by
  have heq : i :: p = j :: p := by
    rcases suffix_or_suffix_of_suffix hi hj with h | h
    · exact h.eq_of_length (by simp)
    · exact (h.eq_of_length (by simp)).symm
  exact (List.cons.inj heq).1

variable (p i ts) in
theorem nodup_preorderForest : (preorderForest p i ts).Nodup := by
  induction ts using forest_induction generalizing p i with
  | nil => exact nodup_nil
  | leaf b ts ih => exact ih p (i + 1)
  | node a cs ts below ih =>
    refine nodup_append.mpr ⟨nodup_cons.mpr ⟨fun hself => ?_, below (i :: p) 0⟩,
      ih p (i + 1), fun n hn o ho heq => ?_⟩
    · exact absurd (length_lt_of_mem_preorderForest hself) (Nat.lt_irrefl _)
    · obtain ⟨j, hle, hj⟩ := suffix_of_mem_preorderForest ho
      have heq := eq_of_suffix_cons (suffix_of_mem_preorder hn) (heq ▸ hj)
      omega

end Paths

end OrderedTree
