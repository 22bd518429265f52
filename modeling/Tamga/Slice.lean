/-
Slices of a list: where one is found, and writing over one.

The search returns the first place, or the last; writing over a stretch keeps the
length of the list and everything around the stretch.

* `findFrom_append` — a slice that does not begin earlier is found where it stands,
  whatever follows it;
* `findLast_spec` — the last place;
* `prefix_of_mem_placesFrom` — texts written one after the other stand where the sum of
  the lengths before them says;
* `overwrite_append` — writing over a middle part of the same length replaces it.
-/
import Mathlib.Data.List.Basic

namespace Slices

open List

variable {α : Type} [DecidableEq α]

/-! ### Searching -/

def findSlice (needle : List α) : List α → Option Nat
  | [] => if needle = [] then some 0 else none
  | x :: xs => if needle <+: x :: xs then some 0 else (findSlice needle xs).map (· + 1)

def findFrom (needle : List α) (pos : Nat) (xs : List α) : Option Nat :=
  (findSlice needle (xs.drop pos)).map (pos + ·)

def findLast (needle xs : List α) : Option Nat :=
  (findSlice needle.reverse xs.reverse).map fun i => xs.length - i - needle.length

theorem findSlice_append {needle mid : List α}
    (h : findSlice needle (mid ++ needle) = some mid.length) (post : List α) :
    findSlice needle (mid ++ needle ++ post) = some mid.length := by
  induction mid with
  | nil =>
    cases needle with
    | nil => cases post <;> simp [findSlice]
    | cons c needle =>
      rw [nil_append, cons_append, findSlice, if_pos]
      · rfl
      · exact ⟨post, rfl⟩
  | cons x mid ih =>
    rw [cons_append, findSlice] at h
    by_cases hpre : needle <+: x :: (mid ++ needle)
    · rw [if_pos hpre] at h
      cases h
    rw [if_neg hpre, Option.map_eq_some_iff] at h
    obtain ⟨i, hi, hlen⟩ := h
    have hi' : i = mid.length := by
      rw [length_cons] at hlen
      omega
    subst hi'
    rw [cons_append, cons_append, findSlice, if_neg, ih hi]
    · rfl
    · -- the needle is not longer than what stood there before
      intro hlong
      refine hpre (prefix_of_prefix_length_le hlong ⟨post, rfl⟩ ?_)
      rw [length_cons, length_append]
      omega

theorem findFrom_append {needle mid : List α}
    (h : findSlice needle (mid ++ needle) = some mid.length) (pre post : List α) :
    findFrom needle pre.length (pre ++ mid ++ needle ++ post) = some (pre ++ mid).length := by
  rw [findFrom, append_assoc pre, append_assoc pre, drop_left, findSlice_append h,
    length_append]
  rfl

theorem findSlice_of_head_not_mem {c : α} {needle mid : List α} (h : c ∉ mid) :
    findSlice (c :: needle) (mid ++ c :: needle) = some mid.length := by
  induction mid with
  | nil =>
    rw [nil_append, findSlice, if_pos (prefix_refl _)]
    rfl
  | cons x mid ih =>
    rw [mem_cons, not_or] at h
    rw [cons_append, findSlice, if_neg, ih h.2]
    · rfl
    · intro hpre
      exact h.1 (cons_prefix_cons.mp hpre).1

theorem findFrom_of_head_not_mem {c : α} {needle xs : List α} {i : Nat} (pre mid post : List α)
    (hc : needle.head? = some c) (h : c ∉ mid) (hxs : xs = pre ++ mid ++ needle ++ post)
    (hi : i = pre.length) : findFrom needle i xs = some (i + mid.length) := by
  obtain ⟨tail, rfl⟩ := List.head?_eq_some_iff.mp hc
  rw [hxs, hi, findFrom_append (findSlice_of_head_not_mem h), length_append]

omit [DecidableEq α] in
theorem take_drop_eq {xs : List α} {i n : Nat} (pre mid post : List α)
    (hxs : xs = pre ++ mid ++ post) (hi : i = pre.length) (hn : n = mid.length) :
    (xs.drop i).take n = mid := by
  rw [hxs, hi, hn, append_assoc, drop_left, take_left]

theorem findSlice_split {needle : List α} : ∀ {xs : List α} {i : Nat},
    findSlice needle xs = some i → ∃ mid post, xs = mid ++ needle ++ post ∧ mid.length = i
  | [], i, h => by
    rw [findSlice] at h
    split at h
    · next hnil =>
      cases h
      exact ⟨[], [], by rw [hnil]; rfl, rfl⟩
    · cases h
  | x :: xs, i, h => by
    rw [findSlice] at h
    split at h
    · next hpre =>
      cases h
      obtain ⟨post, hpost⟩ := hpre
      exact ⟨[], post, hpost.symm, rfl⟩
    · obtain ⟨j, hj, rfl⟩ := Option.map_eq_some_iff.mp h
      obtain ⟨mid, post, rfl, rfl⟩ := findSlice_split hj
      exact ⟨x :: mid, post, rfl, rfl⟩

theorem findSlice_spec {needle xs : List α} {i : Nat} (h : findSlice needle xs = some i) :
    needle <+: xs.drop i := by
  obtain ⟨mid, post, rfl, rfl⟩ := findSlice_split h
  rw [append_assoc, drop_left]
  exact prefix_append _ _

theorem findSlice_le {needle post : List α} : ∀ {mid : List α} {i : Nat},
    findSlice needle (mid ++ needle ++ post) = some i → i ≤ mid.length
  | [], i, h => by
    cases needle with
    | nil => cases post <;> simp_all [findSlice]
    | cons c needle =>
      rw [nil_append, cons_append, findSlice, if_pos ⟨post, rfl⟩] at h
      cases h
      exact Nat.le_refl _
  | x :: mid, i, h => by
    rw [cons_append, cons_append, findSlice] at h
    split at h
    · cases h
      exact Nat.zero_le _
    · obtain ⟨j, hj, rfl⟩ := Option.map_eq_some_iff.mp h
      exact Nat.succ_le_succ (findSlice_le hj)

theorem findLast_spec {needle xs : List α} {i : Nat} (h : findLast needle xs = some i) :
    (∃ pre post, xs = pre ++ needle ++ post ∧ pre.length = i) ∧
      ∀ pre post, xs = pre ++ needle ++ post → pre.length ≤ i := by
  obtain ⟨j, hj, rfl⟩ := Option.map_eq_some_iff.mp h
  constructor
  · obtain ⟨mid, rest, hsplit, rfl⟩ := findSlice_split hj
    have hxs := congrArg List.reverse hsplit
    rw [reverse_reverse, reverse_append, reverse_append, reverse_reverse,
      ← append_assoc] at hxs
    refine ⟨_, _, hxs, ?_⟩
    have hlen := congrArg List.length hxs
    rw [length_append, length_append, @length_reverse _ mid] at hlen
    omega
  · intro pre post hxs
    have hle : j ≤ post.reverse.length := by
      refine @findSlice_le _ _ needle.reverse pre.reverse post.reverse j ?_
      rw [← reverse_append, ← reverse_append, ← append_assoc, ← hxs]
      exact hj
    have hlen := congrArg List.length hxs
    rw [length_append, length_append] at hlen
    rw [length_reverse] at hle
    omega

/-! ### Texts one after the other -/

section Places

variable {β : Type} (text : β → List α)

/-- The items, each with the place at which its text begins. -/
def placesFrom : Nat → List β → List (Nat × β)
  | _, [] => []
  | start, x :: xs => (start, x) :: placesFrom (start + (text x).length) xs

omit [DecidableEq α] in
theorem map_snd_placesFrom (xs : List β) : ∀ start : Nat,
    (placesFrom text start xs).map Prod.snd = xs := by
  induction xs with
  | nil => exact fun _ => rfl
  | cons x xs ih => exact fun start => congrArg (x :: ·) (ih _)

omit [DecidableEq α] in
theorem placesFrom_append (xs ys : List β) : ∀ start : Nat, placesFrom text start (xs ++ ys) =
      placesFrom text start xs ++ placesFrom text (start + (xs.flatMap text).length) ys := by
  induction xs with
  | nil => exact fun _ => rfl
  | cons x xs ih =>
    intro start
    rw [cons_append, placesFrom, ih, placesFrom, flatMap_cons, length_append,
      ← Nat.add_assoc]
    rfl

omit [DecidableEq α] in
theorem prefix_of_mem_placesFrom {post : List α} {k : Nat} {x : β} (xs : List β) :
    ∀ pre : List α, (k, x) ∈ placesFrom text pre.length xs →
      text x <+: (pre ++ (xs.flatMap text ++ post)).drop k := by
  induction xs with
  | nil => exact fun _ h => absurd h not_mem_nil
  | cons y ys ih =>
    intro pre h
    rw [placesFrom, mem_cons, Prod.mk.injEq] at h
    rcases h with ⟨rfl, rfl⟩ | h
    · rw [drop_left, flatMap_cons, append_assoc]
      exact prefix_append _ _
    · rw [← length_append] at h
      have := ih (pre ++ text y) h
      rwa [append_assoc, ← append_assoc (text y), ← flatMap_cons] at this

end Places

/-! ### Writing over a stretch -/

/-- `ys` in the place of as many elements from `start` on. -/
def overwrite (xs : List α) (start : Nat) (ys : List α) : List α :=
  xs.take start ++ ys ++ xs.drop (start + ys.length)

omit [DecidableEq α] in
theorem overwrite_append (pre post : List α) {old new : List α} (h : old.length = new.length) :
    overwrite (pre ++ old ++ post) pre.length new = pre ++ new ++ post := by
  have htake : (pre ++ old ++ post).take pre.length = pre := by
    rw [append_assoc, take_left]
  have hdrop : (pre ++ old ++ post).drop (pre.length + new.length) = post := by
    rw [← h, ← length_append, drop_left]
  rw [overwrite, htake, hdrop]

end Slices
