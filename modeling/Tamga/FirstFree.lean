/-
The first free number: a search that goes on while a number is occupied.

The search has a number of turns.  It ends at a free number when fewer numbers can be
occupied than it has turns, for instance because the numbers have distinct names and
the names come from a list.

* `nextFree_free` — the number that is found is free;
* `card_le_of_names` — how many numbers a list of names can occupy.
-/
import Mathlib.Order.Interval.Finset.Nat

namespace FirstFree

/-- An endless loop over the numbers, with the number of turns it may take. -/
def nextFree (occupied : Nat → Bool) : Nat → Nat → Nat
  | 0, n => n
  | turns + 1, n => if occupied n then nextFree occupied turns (n + 1) else n

theorem nextFree_spec (occupied : Nat → Bool) :
    ∀ turns n, occupied (nextFree occupied turns n) = false ∨
      ∀ i, n ≤ i → i ≤ n + turns → occupied i = true := by
  intro turns
  induction turns with
  | zero =>
    intro n
    cases h : occupied n with
    | false => exact Or.inl h
    | true =>
      refine Or.inr fun i hle hge => ?_
      obtain rfl : i = n := by omega
      exact h
  | succ turns ih =>
    intro n
    rw [nextFree]
    cases h : occupied n with
    | false =>
      exact Or.inl h
    | true =>
      refine (ih (n + 1)).imp_right fun hall i hle hge => ?_
      rcases Nat.eq_or_lt_of_le hle with rfl | hlt
      · exact h
      · exact hall i hlt (by omega)

theorem nextFree_free {occupied : Nat → Bool} {turns : Nat}
    (h : ∀ numbers : Finset Nat, (∀ n ∈ numbers, occupied n = true) → numbers.card ≤ turns)
    (start : Nat) : occupied (nextFree occupied turns start) = false := by
  refine (nextFree_spec occupied turns start).resolve_right fun hall => ?_
  have hcard := h (Finset.Icc start (start + turns)) fun n hn => by
    obtain ⟨hle, hge⟩ := Finset.mem_Icc.mp hn
    exact hall n hle hge
  rw [Nat.card_Icc] at hcard
  omega

theorem card_le_of_names {α : Type} [DecidableEq α] {name : Nat → α}
    (hname : Function.Injective name) {numbers : Finset Nat} {names : List α}
    (h : ∀ n ∈ numbers, name n ∈ names) : numbers.card ≤ names.length := by
  refine le_trans (Finset.card_le_card_of_injOn name ?_ hname.injOn) (List.toFinset_card_le names)
  intro n hn
  exact List.mem_toFinset.mpr (h n hn)

end FirstFree
