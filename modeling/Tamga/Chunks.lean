/-
Reading a list chunk by chunk.

A step takes one chunk off the front and returns its value.  When the step undoes an
encoding of the values, one chunk for each, reading the whole list undoes the encoding
of a whole list of values.

* `readChunks_eq_some_iff` — what a complete reading returns.
-/
import Mathlib.Data.List.Basic

namespace Chunks

open List

variable {α β : Type}

/-- The values of the chunks, with the number of steps that may be taken. -/
def readChunks (step : List α → Option (β × List α)) : Nat → List α → Option (List β)
  | _, [] => some []
  | 0, _ :: _ => none
  | fuel + 1, x :: xs =>
    match step (x :: xs) with
    | none => none
    | some (b, rest) => (readChunks step fuel rest).map (b :: ·)

/-- The step takes off exactly the encodings of the admissible values. -/
structure Undoes (step : List α → Option (β × List α)) (admissible : β → Prop)
    (encode : β → List α) : Prop where
  nonempty : ∀ b, encode b ≠ []
  step_iff : ∀ xs b rest, step xs = some (b, rest) ↔ admissible b ∧ xs = encode b ++ rest

variable {step : List α → Option (β × List α)} {admissible : β → Prop} {encode : β → List α}

theorem Undoes.eq_nil (h : Undoes step admissible encode) {bs : List β}
    (hflat : bs.flatMap encode = []) : bs = [] := by
  cases bs with
  | nil => rfl
  | cons b bs =>
    rw [flatMap_cons, append_eq_nil_iff] at hflat
    exact absurd hflat.1 (h.nonempty b)

theorem readChunks_nil_iff (h : Undoes step admissible encode) (fuel : Nat) (bs : List β) :
    readChunks step fuel [] = some bs ↔ (∀ b ∈ bs, admissible b) ∧ bs.flatMap encode = [] := by
  rw [readChunks, Option.some.injEq]
  constructor
  · rintro rfl
    simp
  · exact fun hbs => (h.eq_nil hbs.2).symm

theorem Undoes.length_lt (h : Undoes step admissible encode) {xs rest : List α} {b : β}
    (hxs : xs = encode b ++ rest) : rest.length < xs.length := by
  have hpos := length_pos_of_ne_nil (h.nonempty b)
  rw [hxs, length_append]
  omega

theorem readChunks_eq_some_iff (h : Undoes step admissible encode) :
    ∀ (fuel : Nat) (xs : List α) (bs : List β), xs.length ≤ fuel →
      (readChunks step fuel xs = some bs ↔ (∀ b ∈ bs, admissible b) ∧ bs.flatMap encode = xs) := by
  intro fuel
  induction fuel with
  | zero =>
    intro xs bs hlen
    obtain rfl : xs = [] := eq_nil_of_length_eq_zero (by omega)
    exact readChunks_nil_iff h 0 bs
  | succ fuel ih =>
    intro xs bs hlen
    cases xs with
    | nil => exact readChunks_nil_iff h _ bs
    | cons x xs =>
      rw [readChunks]
      constructor
      · intro hread
        cases hstep : step (x :: xs) with
        | none =>
          rw [hstep] at hread
          cases hread
        | some chunk =>
          obtain ⟨b, rest⟩ := chunk
          rw [hstep] at hread
          obtain ⟨bs', hrest, rfl⟩ := Option.map_eq_some_iff.mp hread
          obtain ⟨hb, hxs⟩ := (h.step_iff _ _ _).mp hstep
          have hshort := h.length_lt hxs
          obtain ⟨hbs, hflat⟩ := (ih rest bs' (by omega)).mp hrest
          refine ⟨forall_mem_cons.mpr ⟨hb, hbs⟩, ?_⟩
          rw [flatMap_cons, hflat, hxs]
      · rintro ⟨hadm, hflat⟩
        cases bs with
        | nil => cases hflat
        | cons b bs =>
          rw [flatMap_cons] at hflat
          obtain ⟨hb, hbs⟩ := forall_mem_cons.mp hadm
          have hstep : step (x :: xs) = some (b, bs.flatMap encode) :=
            (h.step_iff _ _ _).mpr ⟨hb, hflat.symm⟩
          have hshort := h.length_lt hflat.symm
          rw [hstep]
          exact Option.map_eq_some_iff.mpr ⟨bs, (ih _ bs (by omega)).mpr ⟨hbs, rfl⟩, rfl⟩

theorem readChunks_map {γ : Type} (f : β → γ) (fuel : Nat) (xs : List α) :
    readChunks (fun ys => (step ys).map (Prod.map f id)) fuel xs =
      (readChunks step fuel xs).map (List.map f) := by
  induction fuel generalizing xs with
  | zero => cases xs <;> rfl
  | succ fuel ih =>
    cases xs with
    | nil => rfl
    | cons x xs =>
      rw [readChunks, readChunks]
      cases step (x :: xs) with
      | none => rfl
      | some chunk =>
        obtain ⟨b, rest⟩ := chunk
        show Option.map _ (readChunks _ fuel rest) = _
        rw [ih, Option.map_map, Option.map_map]
        rfl

end Chunks
