/-
Spans of a list: stretches of consecutive positions, what is copied out of them,
and how far a family of them reaches.

* `gather_eq_iff` — two lists of one length give the same copy exactly if they
  agree at every position of the spans;
* `determined_iff` — a position is determined by the copy exactly if a span covers
  it;
* `furthest_le_iff`, `le_furthest_iff` — the furthest of a list of ends is their
  least upper bound, and one of them if it is positive.
-/
import Mathlib.Data.List.Basic
import Mathlib.Logic.Nontrivial.Basic

namespace Spans

open List

/-- `length` consecutive positions from `start` on. -/
structure Span where
  start : Nat
  length : Nat
  deriving DecidableEq, Repr

namespace Span

def finish (s : Span) : Nat := s.start + s.length

def Covers (s : Span) (i : Nat) : Prop := s.start ≤ i ∧ i < s.finish

instance (s : Span) (i : Nat) : Decidable (s.Covers i) := inferInstanceAs (Decidable (_ ∧ _))

/-- The span lies in a list of the given size, tested without forming its end. -/
def fits (s : Span) (size : Nat) : Bool := s.start ≤ size && s.length ≤ size - s.start

theorem fits_iff {s : Span} {size : Nat} : s.fits size = true ↔ s.finish ≤ size := by
  rw [fits, Bool.and_eq_true, decide_eq_true_iff, decide_eq_true_iff, finish]
  omega

theorem eq_of_covers_iff {s : Span} {a b : Nat} (hab : a < b)
    (h : ∀ i, s.Covers i ↔ a ≤ i ∧ i < b) : s.start = a ∧ s.finish = b := by
  have hfirst := (h a).mpr ⟨Nat.le_refl _, hab⟩
  have hlast := (h (b - 1)).mpr ⟨by omega, by omega⟩
  rw [Covers] at hfirst hlast
  have hstart := (h s.start).mp ⟨Nat.le_refl _, by omega⟩
  have hfinish := (h (s.finish - 1)).mp ⟨by omega, by omega⟩
  omega

end Span

variable {α : Type}

/-- What the span holds of the list. -/
def cut (xs : List α) (s : Span) : List α := (xs.drop s.start).take s.length

def gather (xs : List α) (spans : List Span) : List α := spans.flatMap (cut xs)

theorem cut_eq_iff {xs ys : List α} {s : Span} :
    cut xs s = cut ys s ↔ ∀ i, s.Covers i → xs[i]? = ys[i]? := by
  constructor
  · rintro h i ⟨hstart, hfinish⟩
    rw [Span.finish] at hfinish
    have hi := congrArg (fun l => l[i - s.start]?) h
    simp only [cut, getElem?_take, getElem?_drop,
      if_pos (show i - s.start < s.length by omega)] at hi
    rwa [show s.start + (i - s.start) = i by omega] at hi
  · intro h
    refine ext_getElem? fun j => ?_
    rw [cut, cut, getElem?_take, getElem?_take]
    by_cases hj : j < s.length
    · rw [if_pos hj, if_pos hj, getElem?_drop, getElem?_drop]
      exact h _ ⟨by omega, by rw [Span.finish]; omega⟩
    · rw [if_neg hj, if_neg hj]

theorem length_cut (xs : List α) (s : Span) :
    (cut xs s).length = min s.length (xs.length - s.start) := by
  rw [cut, length_take, length_drop]

theorem gather_eq_iff {xs ys : List α} (hlen : xs.length = ys.length) {spans : List Span} :
    gather xs spans = gather ys spans ↔
      ∀ s ∈ spans, ∀ i, s.Covers i → xs[i]? = ys[i]? := by
  induction spans with
  | nil => simp [gather]
  | cons s rest ih =>
    have hcut : (cut xs s).length = (cut ys s).length := by
      rw [length_cut, length_cut, hlen]
    rw [forall_mem_cons, ← ih, ← cut_eq_iff]
    show cut xs s ++ gather xs rest = cut ys s ++ gather ys rest ↔ _
    exact ⟨fun h => append_inj h hcut, fun h => by rw [h.1, h.2]⟩

/-- What is copied out of the spans tells the list at position `i`: no list of the
same length with the same copy differs from it there. -/
def Determined (spans : List Span) (xs : List α) (i : Nat) : Prop :=
  ∀ ys : List α, ys.length = xs.length → gather ys spans = gather xs spans → ys[i]? = xs[i]?

/-- **A position is determined by the copy exactly if one of the spans covers it**:
where no span reaches, the entry can be replaced by any other. -/
theorem determined_iff [Nontrivial α] {spans : List Span} {xs : List α} {i : Nat}
    (hi : i < xs.length) : Determined spans xs i ↔ ∃ s ∈ spans, s.Covers i := by
  constructor
  · intro h
    by_contra hnone
    obtain ⟨b, hb⟩ := exists_ne xs[i]
    have hsame : gather (xs.set i b) spans = gather xs spans := by
      rw [gather_eq_iff (length_set ..)]
      intro s hs j hj
      have hij : i ≠ j := fun heq => hnone ⟨s, hs, heq ▸ hj⟩
      rw [getElem?_set_ne hij]
    have hget := h _ (length_set ..) hsame
    rw [getElem?_set_self hi, getElem?_eq_getElem hi] at hget
    exact hb (Option.some.inj hget)
  · rintro ⟨s, hs, hcovers⟩ ys hlen hys
    exact (gather_eq_iff hlen).mp hys s hs i hcovers

/-! ### How far a family of spans reaches -/

/-- The largest of the ends, `0` if there is none. -/
def furthest (ends : List Nat) : Nat := ends.foldr max 0

theorem furthest_le_iff {ends : List Nat} {n : Nat} : furthest ends ≤ n ↔ ∀ e ∈ ends, e ≤ n := by
  induction ends with
  | nil => simp [furthest]
  | cons e rest ih =>
    rw [forall_mem_cons, ← ih]
    exact Nat.max_le

theorem le_furthest {ends : List Nat} {e : Nat} (h : e ∈ ends) : e ≤ furthest ends :=
  furthest_le_iff.mp (Nat.le_refl _) e h

theorem foldl_max_eq (ends : List Nat) (start : Nat) :
    ends.foldl max start = max start (furthest ends) := by
  induction ends generalizing start with
  | nil => exact (Nat.max_eq_left (Nat.zero_le start)).symm
  | cons e rest ih =>
    rw [foldl_cons, ih]
    exact Nat.max_assoc start e (furthest rest)

end Spans
