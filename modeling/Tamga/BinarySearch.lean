/-
Binary search in a list that a comparison cuts in three.

The sought key enters only through `side : α → Int`, the sign of the comparison
of an element with it: negative for elements that belong before the key, zero for
those that are equal to it, positive for those after it.  Several elements may be
equal to the key; the search returns one of them.

* `search_sound` — an element that is returned is in the list and equal to the key;
* `search_isSome` — on a list that is cut by the key the search finds an element
  as soon as there is one.
-/
import Mathlib.Data.List.Basic

namespace BinarySearch

open List

universe u

variable {α : Type u}

/-- Elements before the key come first, then those equal to it, then the rest. -/
def Cut (side : α → Int) (xs : List α) : Prop :=
  xs.Pairwise fun a b => (0 ≤ side a → 0 ≤ side b) ∧ (0 < side a → 0 < side b)

/-- The loop over the positions from `lo` up to but not including `hi`, with a
bound on its rounds. -/
def searchFrom (side : α → Int) (xs : List α) : Nat → Nat → Nat → Option α
  | 0, _, _ => none
  | n + 1, lo, hi =>
    if lo < hi then
      match xs[lo + (hi - 1 - lo) / 2]? with
      | none => none
      | some a =>
        if side a = 0 then some a
        else if side a < 0 then searchFrom side xs n (lo + (hi - 1 - lo) / 2 + 1) hi
        else searchFrom side xs n lo (lo + (hi - 1 - lo) / 2)
    else none

def search (side : α → Int) (xs : List α) : Option α :=
  searchFrom side xs (xs.length + 1) 0 xs.length

variable {side : α → Int} {xs : List α}

theorem searchFrom_sound {a : α} :
    ∀ (n lo hi : Nat), searchFrom side xs n lo hi = some a → a ∈ xs ∧ side a = 0 := by
  intro n
  induction n with
  | zero => intro lo hi h; simp [searchFrom] at h
  | succ n ih =>
    intro lo hi h
    rw [searchFrom] at h
    by_cases hlt : lo < hi
    swap
    · simp [hlt] at h
    rw [if_pos hlt] at h
    cases hm : xs[lo + (hi - 1 - lo) / 2]? with
    | none => simp [hm] at h
    | some b =>
      simp only [hm] at h
      by_cases hzero : side b = 0
      · rw [if_pos hzero, Option.some.injEq] at h
        exact h ▸ ⟨mem_of_getElem? hm, hzero⟩
      · rw [if_neg hzero] at h
        by_cases hneg : side b < 0
        · rw [if_pos hneg] at h
          exact ih _ _ h
        · rw [if_neg hneg] at h
          exact ih _ _ h

theorem search_sound {a : α} (h : search side xs = some a) : a ∈ xs ∧ side a = 0 :=
  searchFrom_sound _ _ _ h

/-- An element equal to the key at a position inside the interval is not lost:
the half that is dropped lies on one side of the key. -/
theorem searchFrom_isSome (hcut : Cut side xs) {i : Nat}
    (hi : i < xs.length) (hzero : side (xs.get ⟨i, hi⟩) = 0) :
    ∀ (n lo up : Nat), up - lo < n → lo ≤ i → i < up → up ≤ xs.length →
      (searchFrom side xs n lo up).isSome = true := by
  intro n
  induction n with
  | zero => intro lo up h; omega
  | succ n ih =>
    intro lo up hn hlo hup hlen
    have hlt : lo < up := by omega
    set m := lo + (up - 1 - lo) / 2 with hm
    have hmlt : m < xs.length := by omega
    have hpair := pairwise_iff_getElem.mp hcut
    rw [searchFrom, if_pos hlt, ← hm, List.getElem?_eq_getElem hmlt]
    by_cases hz : side xs[m] = 0
    · simp [hz]
    simp only [hz, if_false]
    by_cases hneg : side xs[m] < 0
    · rw [if_pos hneg]
      -- the key cannot stand at or before `m`
      have hmi : m < i := by
        by_contra hle
        rcases Nat.lt_or_ge i m with hlt' | hge
        · have := (hpair i m hi hmlt hlt').1 (by simp only [get_eq_getElem] at hzero; omega)
          omega
        · obtain rfl : i = m := by omega
          simp only [get_eq_getElem] at hzero
          omega
      exact ih _ _ (by omega) (by omega) hup hlen
    · rw [if_neg hneg]
      -- nor at or after it
      have him : i < m := by
        by_contra hle
        rcases Nat.lt_or_ge m i with hlt' | hge
        · have := (hpair m i hmlt hi hlt').2 (by omega)
          simp only [get_eq_getElem] at hzero
          omega
        · obtain rfl : i = m := by omega
          simp only [get_eq_getElem] at hzero
          omega
      exact ih _ _ (by omega) hlo him (by omega)

theorem search_isSome (hcut : Cut side xs)
    (h : ∃ a ∈ xs, side a = 0) : (search side xs).isSome = true := by
  obtain ⟨a, ha, hzero⟩ := h
  obtain ⟨i, hi, rfl⟩ := mem_iff_getElem.mp ha
  exact searchFrom_isSome hcut hi hzero _ _ _ (by omega) (Nat.zero_le i) hi (Nat.le_refl _)

end BinarySearch
