/-
The entry nearest below a reference key, or else the least one.

One pass over keyed entries keeps two candidates: the greatest key that does
not exceed the reference, and the least key of all.  The first is the answer,
the second its replacement.

* `best_spec`, `earliest_spec` — what the two candidates are after any prefix;
* `select_key_congr` — two references select the same key as soon as they
  compare alike with every key that has a smaller one beside it; the least key
  needs no comparison, since it is the answer either way.
-/
import Mathlib.Order.Bounds.Basic
import Mathlib.Order.Defs.LinearOrder
import Mathlib.Data.List.Induction

namespace NearestBelow

open List

variable {κ ν : Type*} [LinearOrder κ]

/-- Keep the greatest key that is at most `k`; the first of several wins. -/
def bestStep (k : κ) (best : Option (κ × ν)) (e : κ × ν) : Option (κ × ν) :=
  if e.1 ≤ k then
    match best with
    | none => some e
    | some b => if e.1 > b.1 then some e else some b
  else best

/-- Keep the least key; the first of several wins. -/
def earliestStep (earliest : Option (κ × ν)) (e : κ × ν) : Option (κ × ν) :=
  match earliest with
  | none => some e
  | some b => if e.1 < b.1 then some e else some b

def best (k : κ) (l : List (κ × ν)) : Option (κ × ν) := l.foldl (bestStep k) none

def earliest (l : List (κ × ν)) : Option (κ × ν) := l.foldl earliestStep none

def select (k : κ) (l : List (κ × ν)) : Option (κ × ν) := (best k l).or (earliest l)

/-! ### What the two candidates are -/

/-- `b` is the greatest entry at most `k` among `l`, and `none` says there is no
such entry. -/
def IsBest (k : κ) (l : List (κ × ν)) : Option (κ × ν) → Prop
  | none => ∀ e ∈ l, ¬e.1 ≤ k
  | some b => b ∈ l ∧ b.1 ≤ k ∧ ∀ e ∈ l, e.1 ≤ k → e.1 ≤ b.1

/-- `b` is the least entry of `l`, and `none` says that `l` is empty. -/
def IsEarliest (l : List (κ × ν)) : Option (κ × ν) → Prop
  | none => l = []
  | some b => b ∈ l ∧ ∀ e ∈ l, b.1 ≤ e.1

omit [LinearOrder κ] in
theorem forall_snoc {l : List (κ × ν)} {e : κ × ν} {P : κ × ν → Prop} (h : ∀ x ∈ l, P x)
    (he : P e) : ∀ x ∈ l ++ [e], P x :=
  forall_mem_append.mpr ⟨h, forall_mem_singleton.mpr he⟩

theorem IsBest.step {k : κ} {l : List (κ × ν)} {b : Option (κ × ν)} (h : IsBest k l b)
    (e : κ × ν) : IsBest k (l ++ [e]) (bestStep k b e) := by
  unfold bestStep
  by_cases he : e.1 ≤ k
  · rw [if_pos he]
    cases b with
    | none =>
      exact ⟨by simp, he, forall_snoc (fun x hx hxk => absurd hxk (h x hx)) fun _ => le_rfl⟩
    | some b =>
      obtain ⟨hb, hbk, hmax⟩ := h
      by_cases hlt : e.1 > b.1
      · simp only [if_pos hlt]
        have hold : ∀ x ∈ l, x.1 ≤ k → x.1 ≤ e.1 := fun x hx hxk => (hmax x hx hxk).trans hlt.le
        exact ⟨by simp, he, forall_snoc hold fun _ => le_rfl⟩
      · simp only [if_neg hlt]
        exact ⟨by simp [hb], hbk, forall_snoc hmax fun _ => not_lt.mp hlt⟩
  · rw [if_neg he]
    cases b with
    | none => exact forall_snoc h he
    | some b =>
      obtain ⟨hb, hbk, hmax⟩ := h
      exact ⟨by simp [hb], hbk, forall_snoc hmax fun hek => absurd hek he⟩

theorem IsEarliest.step {l : List (κ × ν)} {b : Option (κ × ν)} (h : IsEarliest l b)
    (e : κ × ν) : IsEarliest (l ++ [e]) (earliestStep b e) := by
  cases b with
  | none =>
    obtain rfl : l = [] := h
    exact ⟨by simp, by simp⟩
  | some b =>
    obtain ⟨hb, hmin⟩ := h
    by_cases hlt : e.1 < b.1
    · simp only [earliestStep, if_pos hlt]
      exact ⟨by simp, forall_snoc (fun x hx => hlt.le.trans (hmin x hx)) le_rfl⟩
    · simp only [earliestStep, if_neg hlt]
      exact ⟨by simp [hb], forall_snoc hmin (not_lt.mp hlt)⟩

theorem foldl_invariant {α β : Type*} {f : β → α → β} {P : List α → β → Prop} {b₀ : β}
    (h₀ : P [] b₀) (hstep : ∀ l b a, P l b → P (l ++ [a]) (f b a)) (l : List α) :
    P l (l.foldl f b₀) := by
  induction l using List.reverseRecOn with
  | nil => exact h₀
  | append_singleton l a ih =>
    rw [foldl_append]
    exact hstep l _ a ih

theorem best_spec (k : κ) (l : List (κ × ν)) : IsBest k l (best k l) := by
  refine foldl_invariant (P := IsBest k) ?_ (fun _ _ e h => h.step e) l
  intro e he
  simp at he

theorem earliest_spec (l : List (κ × ν)) : IsEarliest l (earliest l) := by
  refine foldl_invariant (P := IsEarliest) ?_ (fun _ _ e h => h.step e) l
  rfl

theorem select_spec {k : κ} {l : List (κ × ν)} {e : κ × ν} (h : select k l = some e) :
    e ∈ l ∧ (e.1 ≤ k ∨ (∀ x ∈ l, ¬x.1 ≤ k) ∧ ∀ x ∈ l, e.1 ≤ x.1) ∧
      ∀ x ∈ l, x.1 ≤ k → x.1 ≤ e.1 := by
  have hbest := best_spec k l
  have hleast := earliest_spec l
  rw [select] at h
  cases hb : best k l with
  | some b =>
    rw [hb] at hbest h
    obtain rfl : b = e := Option.some.inj h
    exact ⟨hbest.1, .inl hbest.2.1, hbest.2.2⟩
  | none =>
    rw [hb, Option.none_or] at h
    rw [h] at hleast
    rw [hb] at hbest
    exact ⟨hleast.1, .inr ⟨hbest, hleast.2⟩, fun x hx hle => absurd hle (hbest x hx)⟩

theorem select_eq_none {k : κ} {l : List (κ × ν)} : select k l = none ↔ l = [] := by
  refine ⟨fun h => ?_, fun h => h ▸ rfl⟩
  have hleast := earliest_spec l
  rw [(Option.or_eq_none_iff.mp h).2] at hleast
  exact hleast

/-! ### Two references -/

theorem select_key_congr {k k' : κ} {l : List (κ × ν)}
    (h : ∀ a ∈ l, ∀ b ∈ l, a.1 < b.1 → (b.1 ≤ k ↔ b.1 ≤ k')) :
    (select k l).map Prod.fst = (select k' l).map Prod.fst := by
  -- an answer above the other one is not the least key, so it is at most both references
  have key : ∀ {k k' : κ}, (∀ a ∈ l, ∀ b ∈ l, a.1 < b.1 → (b.1 ≤ k ↔ b.1 ≤ k')) →
      ∀ {b b'}, select k l = some b → select k' l = some b' → b.1 ≤ b'.1 := by
    intro k k' h b b' hb hb'
    obtain ⟨hmem, hnear, -⟩ := select_spec hb
    obtain ⟨hmem', -, hmax⟩ := select_spec hb'
    by_contra hnot
    rcases hnear with hle | ⟨-, hleast⟩
    · exact hnot (hmax b hmem ((h b' hmem' b hmem (not_le.mp hnot)).mp hle))
    · exact hnot (hleast b' hmem')
  cases hb : select k l with
  | none =>
    rw [select_eq_none.mp hb]
    rfl
  | some b =>
    cases hb' : select k' l with
    | none =>
      rw [select_eq_none.mp hb'] at hb
      cases hb
    | some b' =>
      have hge := key (fun a ha b hb hlt => (h a ha b hb hlt).symm) hb' hb
      exact congrArg some ((key h hb hb').antisymm hge)

theorem select_singleton (k : κ) (e : κ × ν) : select k [e] = some e := by
  by_cases h : e.1 ≤ k <;> simp [select, best, earliest, bestStep, earliestStep, h]

theorem select_pair {a b : κ × ν} (hlt : a.1 < b.1) (k : κ) :
    select k [a, b] = if b.1 ≤ k then some b else some a := by
  by_cases hb : b.1 ≤ k
  · have ha : a.1 ≤ k := hlt.le.trans hb
    simp [select, best, bestStep, ha, hb, hlt]
  · by_cases ha : a.1 ≤ k
    · simp [select, best, bestStep, ha, hb]
    · simp [select, best, earliest, bestStep, earliestStep, ha, hb, not_lt.mpr hlt.le]

end NearestBelow
