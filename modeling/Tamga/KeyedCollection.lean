/-
Collecting elements by a key: an element is kept unless its key is that of a base element or of
one that was kept before.

Different elements may have one key; then the later one is lost.

* `Distinct.foldl_keep` — what is kept has distinct keys, apart from those of the base;
* `mem_foldl_keep` — where the key tells the elements apart, every element is kept.
-/
import Mathlib.Data.List.Nodup

namespace KeyedCollection

open List

variable {α κ : Type} [DecidableEq κ] (key : α → κ) (base : List α)

def keep (kept : List α) (x : α) : List α :=
  if key x ∈ (base ++ kept).map key then kept else kept ++ [x]

/-- The keys of a collection are distinct, and none is the key of a base element. -/
structure Distinct (kept : List α) : Prop where
  nodup : (kept.map key).Nodup
  fresh : ∀ x ∈ kept, key x ∉ base.map key

/-- The key tells the elements with `P` from each other and from the base. -/
structure Separates (P : α → Prop) : Prop where
  fresh : ∀ x, P x → x ∉ base → key x ∉ base.map key
  injective : ∀ x y, P x → P y → x ∉ base → y ∉ base → key x = key y → x = y

variable {key base} {kept : List α} {x y : α} {P : α → Prop}

theorem mem_keep_of_mem (h : y ∈ kept) : y ∈ keep key base kept x := by
  rw [keep]
  split
  · exact h
  · exact mem_append_left _ h

theorem mem_or_eq_of_mem_keep (h : y ∈ keep key base kept x) : y ∈ kept ∨ y = x := by
  rw [keep] at h
  split at h
  · exact Or.inl h
  · rcases mem_append.mp h with h | h
    · exact Or.inl h
    · exact Or.inr (mem_singleton.mp h)

omit [DecidableEq κ] in
theorem Distinct.nil : Distinct key base [] :=
  ⟨nodup_nil, fun _ h => absurd h not_mem_nil⟩

omit [DecidableEq κ] in
theorem Distinct.not_mem_base (h : Distinct key base kept) (hy : y ∈ kept) : y ∉ base :=
  fun hbase => h.fresh y hy (mem_map_of_mem hbase)

omit [DecidableEq κ] in
theorem Distinct.eq_of_key (h : Distinct key base kept) (hx : x ∈ kept) (hy : y ∈ kept)
    (hkey : key x = key y) : x = y := inj_on_of_nodup_map h.nodup hx hy hkey

theorem Distinct.keep (h : Distinct key base kept) (x : α) :
    Distinct key base (keep key base kept x) := by
  rw [KeyedCollection.keep]
  split
  · exact h
  next hnew =>
  rw [map_append, mem_append, not_or] at hnew
  refine ⟨?_, fun y hy => ?_⟩
  · rw [map_append, map_singleton]
    exact nodup_append.mpr ⟨h.nodup, nodup_singleton _, fun a ha b hb hab =>
      hnew.2 (mem_singleton.mp hb ▸ hab ▸ ha)⟩
  · rcases mem_append.mp hy with hy | hy
    · exact h.fresh y hy
    · rw [mem_singleton.mp hy]
      exact hnew.1

theorem Distinct.foldl_keep (h : Distinct key base kept) (xs : List α) :
    Distinct key base (xs.foldl (KeyedCollection.keep key base) kept) := by
  induction xs generalizing kept with
  | nil => exact h
  | cons x xs ih => exact ih (h.keep x)

theorem mem_foldl_keep_of_mem (xs : List α) (h : y ∈ kept) : y ∈ xs.foldl (keep key base) kept := by
  induction xs generalizing kept with
  | nil => exact h
  | cons x xs ih => exact ih (mem_keep_of_mem h)

theorem mem_or_mem_of_mem_foldl_keep {xs : List α} (h : y ∈ xs.foldl (keep key base) kept) :
    y ∈ kept ∨ y ∈ xs := by
  induction xs generalizing kept with
  | nil => exact Or.inl h
  | cons x xs ih =>
    rcases ih h with h | h
    · rcases mem_or_eq_of_mem_keep h with h | rfl
      · exact Or.inl h
      · exact Or.inr mem_cons_self
    · exact Or.inr (mem_cons_of_mem _ h)

theorem mem_keep_self (hsep : Separates key base P) (hkept : ∀ y ∈ kept, P y ∧ y ∉ base)
    (hx : P x) (hbase : x ∉ base) : x ∈ keep key base kept x := by
  rw [keep]
  split
  · next hseen =>
    rw [map_append, mem_append] at hseen
    obtain ⟨y, hy, hkey⟩ := mem_map.mp (hseen.resolve_left (hsep.fresh x hx hbase))
    obtain ⟨hPy, hybase⟩ := hkept y hy
    rwa [← hsep.injective y x hPy hx hybase hbase hkey]
  · exact mem_append_right _ mem_cons_self

theorem mem_foldl_keep {xs : List α} (hsep : Separates key base P) (hdist : Distinct key base kept)
    (hkept : ∀ y ∈ kept, P y) (hxs : ∀ y ∈ xs, P y) (hx : x ∈ xs) (hbase : x ∉ base) :
    x ∈ xs.foldl (keep key base) kept := by
  induction xs generalizing kept with
  | nil => exact absurd hx not_mem_nil
  | cons y xs ih =>
    have hPy := hxs y mem_cons_self
    rcases mem_cons.mp hx with rfl | hx
    · refine mem_foldl_keep_of_mem xs (mem_keep_self hsep (fun z hz => ?_) hPy hbase)
      exact ⟨hkept z hz, hdist.not_mem_base hz⟩
    · refine ih (hdist.keep y) (fun z hz => ?_) (fun z hz => hxs z (mem_cons_of_mem _ hz)) hx
      rcases mem_or_eq_of_mem_keep hz with hz | rfl
      · exact hkept z hz
      · exact hPy

end KeyedCollection
