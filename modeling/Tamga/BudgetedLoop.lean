/-
A loop with a budget that does one thing in each round.

A round may stop the loop before anything is done, do something and end the loop with a result,
or do something and ask for another round.  The last is granted as long as the budget lasts; a
request that cannot be met once the budget is there ends the loop with a result of its own.

* `length_run_le` — how many things are done;
* `forall_mem_run` — what holds of each of them, from what a round keeps.
-/
import Mathlib.Data.List.Basic

namespace BudgetedLoop

open List

/-- What comes out of a round. -/
inductive Turn (σ ε ρ : Type) where
  | stop (result : ρ)
  | last (event : ε) (result : ρ)
  | again (event : ε) (exhausted : ρ) (next : Except ρ σ)

variable {σ ε ρ : Type}

def run (turn : σ → Turn σ ε ρ) : Nat → σ → List ε × ρ
  | 0, s =>
    match turn s with
    | .stop result => ([], result)
    | .last event result => ([event], result)
    | .again event exhausted _ => ([event], exhausted)
  | budget + 1, s =>
    match turn s with
    | .stop result => ([], result)
    | .last event result => ([event], result)
    | .again event _ (.error result) => ([event], result)
    | .again event _ (.ok next) =>
      (event :: (run turn budget next).1, (run turn budget next).2)

/-- A round that does something keeps a condition on events, and asks for another one only in
states that keep a condition on states. -/
def Turn.Keeps (Inv : σ → Prop) (P : ε → Prop) : Turn σ ε ρ → Prop
  | .stop _ => True
  | .last event _ => P event
  | .again event _ next => P event ∧ ∀ s, next = .ok s → Inv s

variable {turn : σ → Turn σ ε ρ}

theorem run_of_again {s next : σ} {event : ε} {exhausted : ρ} (budget : Nat)
    (h : turn s = .again event exhausted (.ok next)) :
    (run turn (budget + 1) s).1 = event :: (run turn budget next).1 := by
  rw [run, h]

/-- **The budget bounds the events.** -/
theorem length_run_le (budget : Nat) : ∀ s, (run turn budget s).1.length ≤ budget + 1 := by
  induction budget with
  | zero =>
    intro s
    rw [run]
    split <;> simp
  | succ budget ih =>
    intro s
    rw [run]
    split
    · simp
    · simp
    · simp
    next next _ =>
      exact Nat.succ_le_succ (ih next)

/-- **The events of a loop** keep what its rounds keep. -/
theorem forall_mem_run {Inv : σ → Prop} {P : ε → Prop} (hturn : ∀ s, Inv s → (turn s).Keeps Inv P)
    (budget : Nat) : ∀ s, Inv s → ∀ event ∈ (run turn budget s).1, P event := by
  induction budget with
  | zero =>
    intro s hs event hevent
    have hkeeps := hturn s hs
    rw [run] at hevent
    split at hevent
    · cases hevent
    next h =>
      rw [h] at hkeeps
      rw [mem_singleton.mp hevent]
      exact hkeeps
    next h =>
      rw [h] at hkeeps
      rw [mem_singleton.mp hevent]
      exact hkeeps.1
  | succ budget ih =>
    intro s hs event hevent
    have hkeeps := hturn s hs
    rw [run] at hevent
    split at hevent
    · cases hevent
    next h =>
      rw [h] at hkeeps
      rw [mem_singleton.mp hevent]
      exact hkeeps
    next h =>
      rw [h] at hkeeps
      rw [mem_singleton.mp hevent]
      exact hkeeps.1
    next next h =>
      rw [h] at hkeeps
      rcases mem_cons.mp hevent with rfl | hrest
      · exact hkeeps.1
      · exact ih next (hkeeps.2 next rfl) event hrest

end BudgetedLoop
