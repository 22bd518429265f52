/-
Scanning a list of witnesses for the first one that decides.

`l.findSome? f` asks the witnesses of `l` one after another and takes the first
answer.  Whether the order of the witnesses matters is a question about the
answers alone:

* `findSome_perm_of_agree` — if all answers agree, every permutation gives the
  same one;
* `findSome_perm_iff` — and only then, since every witness that answers stands
  first in some permutation;
* `findSome_eq_none_perm` — whether anyone answers never depends on the order.

Two ways to answer give the same first answer exactly when they agree on each witness up to the
first one that answers (`findSome_eq_iff`).
-/
import Mathlib.Data.List.Perm.Basic

namespace FirstDecision

open List

variable {α β : Type*}

/-- All witnesses that answer give the same answer. -/
def Agree (f : α → Option β) (l : List α) : Prop :=
  ∀ a ∈ l, ∀ b ∈ l, ∀ x y, f a = some x → f b = some y → x = y

theorem findSome_eq_none_perm {f : α → Option β} {l l' : List α} (hp : l'.Perm l) :
    l'.findSome? f = none ↔ l.findSome? f = none := by
  simp only [List.findSome?_eq_none_iff]
  exact ⟨fun h x hx => h x (hp.mem_iff.mpr hx), fun h x hx => h x (hp.mem_iff.mp hx)⟩

theorem findSome_perm_of_agree {f : α → Option β} {l l' : List α} (h : Agree f l)
    (hp : l'.Perm l) : l'.findSome? f = l.findSome? f := by
  cases hl : l.findSome? f with
  | none => exact (findSome_eq_none_perm hp).mpr hl
  | some x =>
    cases hl' : l'.findSome? f with
    | none =>
      rw [findSome_eq_none_perm hp, hl] at hl'
      exact absurd hl' (by simp)
    | some y =>
      obtain ⟨a, ha, hax⟩ := exists_of_findSome?_eq_some hl
      obtain ⟨b, hb, hby⟩ := exists_of_findSome?_eq_some hl'
      rw [h a ha b (hp.mem_iff.mp hb) x y hax hby]

theorem findSome_perm_iff {f : α → Option β} {l : List α} :
    (∀ l' : List α, l'.Perm l → l'.findSome? f = l.findSome? f) ↔ Agree f l := by
  classical
  refine ⟨fun h => ?_, fun h l' => findSome_perm_of_agree h⟩
  -- put either witness in front: both orders give the answer of `l`
  have front : ∀ a ∈ l, ∀ x, f a = some x → l.findSome? f = some x := by
    intro a ha x hax
    rw [← h (a :: l.erase a) (perm_cons_erase ha).symm, List.findSome?_cons, hax]
  intro a ha b hb x y hax hby
  have hx := front a ha x hax
  rw [front b hb y hby] at hx
  exact (Option.some.inj hx).symm

/-- An answer that both give they give for the same witnesses. -/
def Consonant (f g : α → Option β) : Prop :=
  ∀ a b x, f a = some x → g b = some x → g a = some x ∧ f b = some x

theorem findSome_eq_iff {f g : α → Option β} (hfg : Consonant f g) {l : List α} :
    l.findSome? f = l.findSome? g ↔
      ∀ pre a post, l = pre ++ a :: post → (∀ b ∈ pre, g b = none) → f a = g a := by
  induction l with
  | nil => exact ⟨fun _ pre a post h => absurd h (by simp), fun _ => rfl⟩
  | cons c l ih =>
    rw [List.findSome?_cons, List.findSome?_cons]
    cases hg : g c with
    | some y =>
      have hhead : (∀ pre a post, c :: l = pre ++ a :: post → (∀ b ∈ pre, g b = none) → f a = g a) ↔
          f c = some y := by
        refine ⟨fun h => (h [] c l rfl fun b hb => absurd hb not_mem_nil).trans hg, ?_⟩
        intro hf pre a post hl hpre
        rcases pre with - | ⟨b, pre⟩
        · obtain ⟨rfl, -⟩ := List.cons.inj hl
          rw [hf, hg]
        · -- a longer beginning starts with a witness that answers
          obtain ⟨rfl, -⟩ := List.cons.inj hl
          exact absurd (hpre c mem_cons_self) (by rw [hg]; exact Option.some_ne_none y)
      rw [hhead]
      cases hf : f c with
      | some x => rfl
      | none =>
        refine ⟨fun h => ?_, fun h => absurd h (Option.some_ne_none y).symm⟩
        obtain ⟨b, -, hb⟩ := exists_of_findSome?_eq_some h
        rw [← hf, (hfg b c y hb hg).2]
    | none =>
      cases hf : f c with
      | some x =>
        refine ⟨fun h => ?_, fun h => ?_⟩
        · obtain ⟨b, -, hb⟩ := exists_of_findSome?_eq_some h.symm
          rw [(hfg c b x hf hb).1] at hg
          cases hg
        · have hc := h [] c l rfl fun b hb => absurd hb not_mem_nil
          rw [hf, hg] at hc
          cases hc
      | none =>
        refine ih.trans ⟨fun h pre a post hl hpre => ?_, fun h pre a post hl hpre => ?_⟩
        · rcases pre with - | ⟨b, pre⟩
          · obtain ⟨rfl, -⟩ := List.cons.inj hl
            rw [hf, hg]
          · obtain ⟨rfl, htail⟩ := List.cons.inj hl
            exact h pre a post htail fun d hd => hpre d (mem_cons_of_mem _ hd)
        · exact h (c :: pre) a post (by rw [hl]; rfl) (forall_mem_cons.mpr ⟨hg, hpre⟩)

end FirstDecision
