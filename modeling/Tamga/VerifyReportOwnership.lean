/-
`VerifyReportOwnership`: whose report a session holds.

A commit takes the next number of a counter that all sessions share, and then writes it into its
session and into a variable of its thread; in between other threads may do the same.

* `Inv.act` — a number that is taken and not yet written stands nowhere else;
* `stillOwnedByThisThread_latest` — a report that counts as a thread's own is that of the latest
  commit, as long as the counter has not started again.
-/
import Mathlib.Data.List.Induction
import Tamga.OwnedCell

namespace Tamga.Ownership

open List

open OwnedCell (nextEpoch nextEpoch_eq)

/-- The numbers of the sessions and of the threads.  `taken` is the number with which a thread is
inside `MarkCommitted`; `commits` is a record, with the latest one first. -/
structure Epochs (Thread Session : Type) where
  counter : Nat := 0
  epoch : Session → Nat := fun _ => 0
  lastCommitEpoch : Thread → Nat := fun _ => 0
  taken : Thread → Option (Session × Nat) := fun _ => none
  commits : List (Thread × Session) := []

/-- The two halves of `MarkCommitted`. -/
inductive Action (Thread Session : Type) where
  | increment (thread : Thread) (session : Session)
  | write (thread : Thread)

variable {Thread Session : Type}

/-- How many numbers an action takes. -/
def Action.number : Action Thread Session → Nat
  | .increment .. => 1
  | .write _ => 0

/-- `StillOwnedByThisThread`; the number 0 means that nothing was committed. -/
def stillOwnedByThisThread (e : Epochs Thread Session) (thread : Thread) (session : Session) :
    Bool :=
  e.epoch session != 0 && e.epoch session == e.lastCommitEpoch thread

variable [DecidableEq Thread] [DecidableEq Session]

/-- One half of a commit; a thread that is not inside one has nothing to write. -/
def Epochs.act (e : Epochs Thread Session) : Action Thread Session → Epochs Thread Session
  | .increment thread session =>
    let epoch := nextEpoch e.counter
    { e with counter := epoch, taken := Function.update e.taken thread (some (session, epoch)) }
  | .write thread =>
    match e.taken thread with
    | none => e
    | some (session, epoch) =>
      { e with
        epoch := Function.update e.epoch session epoch
        lastCommitEpoch := Function.update e.lastCommitEpoch thread epoch
        taken := Function.update e.taken thread none
        commits := (thread, session) :: e.commits }

def run (actions : List (Action Thread Session)) : Epochs Thread Session :=
  actions.foldl Epochs.act {}

/-- The most recent commit on a session. -/
def Epochs.latest (e : Epochs Thread Session) (session : Session) : Option (Thread × Session) :=
  e.commits.find? fun c => c.2 = session

/-- After `n` numbers: one that is under way stands nowhere else, and a session has the number of no
thread but the one that committed last. -/
structure Inv (e : Epochs Thread Session) (n : Nat) : Prop where
  counter : e.counter = n
  epoch_le : ∀ s, e.epoch s ≤ n
  last_le : ∀ t, e.lastCommitEpoch t ≤ n
  fresh : ∀ t s k, e.taken t = some (s, k) → k ≤ n ∧ (∀ s', e.epoch s' ≠ k) ∧
    (∀ t', e.lastCommitEpoch t' ≠ k) ∧ ∀ t' s', e.taken t' = some (s', k) → t' = t
  owned : ∀ t s, e.epoch s ≠ 0 → e.epoch s = e.lastCommitEpoch t → e.latest s = some (t, s)

theorem Inv.act {e : Epochs Thread Session} {n : Nat} (h : Inv e n) (a : Action Thread Session)
    (hn : n + a.number < 2 ^ 64) : Inv (e.act a) (n + a.number) := by
  obtain ⟨hcounter, hepoch, hlast, hfresh, howned⟩ := h
  cases a with
  | increment t s =>
    change n + 1 < 2 ^ 64 at hn
    show Inv (e.act (.increment t s)) (n + 1)
    rw [Epochs.act, hcounter, nextEpoch_eq hn]
    exact ⟨rfl, by grind, by grind, by grind [Function.update_apply], howned⟩
  | write t =>
    show Inv (e.act (.write t)) n
    rw [Epochs.act]
    cases htaken : e.taken t with
    | none => exact ⟨hcounter, hepoch, hlast, hfresh, howned⟩
    | some p =>
      obtain ⟨hle, hsessions, hthreads, hothers⟩ := hfresh t p.1 p.2 htaken
      refine ⟨hcounter, ?_, ?_, ?_, fun t' s' hne heq => ?_⟩
      · grind [Function.update_apply]
      · grind [Function.update_apply]
      · grind [Function.update_apply]
      · grind [Function.update_apply, Epochs.latest]

theorem inv_run (actions : List (Action Thread Session))
    (h : (actions.map Action.number).sum < 2 ^ 64) :
    Inv (run actions) (actions.map Action.number).sum := by
  induction actions using List.reverseRecOn with
  | nil =>
    exact ⟨rfl, fun _ => Nat.le_refl 0, fun _ => Nat.le_refl 0, by simp [run],
      fun _ _ hne => absurd rfl hne⟩
  | append_singleton actions a ih =>
    rw [map_append, sum_append, map_singleton, sum_singleton] at h ⊢
    rw [run, foldl_append]
    exact (ih (by omega)).act a h

/-- **Whose report it is.**  With fewer than 2 ^ 64 commits, a report that still counts as the
thread's own is that of the most recent commit on the session; so after a commit of another thread
it does not, until the thread commits on the session again. -/
theorem stillOwnedByThisThread_latest (actions : List (Action Thread Session))
    (h : (actions.map Action.number).sum < 2 ^ 64) (thread : Thread) (session : Session) :
    (stillOwnedByThisThread (run actions) thread session = true →
      (run actions).latest session = some (thread, session)) ∧
    ∀ newer other older, (run actions).commits = newer ++ (other, session) :: older →
      other ≠ thread → (thread, session) ∉ newer →
      stillOwnedByThisThread (run actions) thread session = false := by
  have hlatest : stillOwnedByThisThread (run actions) thread session = true →
      (run actions).latest session = some (thread, session) := by
    intro howned
    rw [stillOwnedByThisThread, Bool.and_eq_true, bne_iff_ne, beq_iff_eq] at howned
    exact (inv_run actions h).owned thread session howned.1 howned.2
  refine ⟨hlatest, fun newer other older hcommits hne hnot => ?_⟩
  rw [← Bool.not_eq_true]
  intro howned
  have hfound := hlatest howned
  rw [Epochs.latest, hcommits, List.find?_append, List.find?_cons_of_pos (by simp),
    Option.or_eq_some_iff] at hfound
  rcases hfound with hfound | ⟨-, hfound⟩
  · exact hnot (mem_of_find?_eq_some hfound)
  · exact hne (congrArg Prod.fst (Option.some.inj hfound))

/-- Two threads commit on two sessions, one inside the commit of the other. -/
theorem stillOwnedByThisThread_latest_two : let actions : List (Action Bool Bool) :=
      [.increment false false, .increment true true, .write true, .write false]
    stillOwnedByThisThread (run actions) false false = true ∧
      (run actions).latest false = some (false, false) :=
  ⟨by decide, (stillOwnedByThisThread_latest _ (by decide) false false).1 (by decide)⟩

/-- Commits of the other thread on the other session. -/
def otherCommits : Nat → List (Action Bool Bool)
  | 0 => []
  | n + 1 => .increment true true :: .write true :: otherCommits n

theorem foldl_otherCommits (n : Nat) {e : Epochs Bool Bool} (he : e.counter < 2 ^ 64) :
    ((otherCommits n).foldl Epochs.act e).counter = (e.counter + n) % 2 ^ 64 ∧
      ((otherCommits n).foldl Epochs.act e).lastCommitEpoch false = e.lastCommitEpoch false := by
  induction n generalizing e with
  | zero => exact ⟨(Nat.mod_eq_of_lt he).symm, rfl⟩
  | succ n ih =>
    rw [otherCommits, foldl_cons, foldl_cons]
    have hnext := @ih ((e.act (.increment true true)).act (.write true))
    simp [Epochs.act, nextEpoch, Nat.mod_lt, Nat.add_assoc, Nat.add_comm 1] at hnext ⊢
    exact hnext

/-- After 2 ^ 64 commits the other thread gets the number that this one has from its commit. -/
theorem wrapped_epoch_owned : ∃ actions : List (Action Bool Bool),
    stillOwnedByThisThread (run actions) false false = true ∧
      (run actions).latest false = some (true, false) := by
  obtain ⟨n, hn⟩ : ∃ n, n + 1 = 2 ^ 64 := ⟨2 ^ 64 - 1, by omega⟩
  refine ⟨[.increment false false, .write false] ++ otherCommits n ++
    [.increment true false, .write true], ?_⟩
  obtain ⟨hcounter, hlast⟩ := @foldl_otherCommits n
    (run [.increment false false, .write false]) (by decide)
  rw [run, foldl_append, foldl_append, ← run]
  generalize (otherCommits n).foldl _ _ = e at hcounter hlast ⊢
  have hzero : e.counter = 0 := by
    rw [hcounter, show (run _).counter = 1 from rfl, Nat.add_comm, hn, Nat.mod_self]
  have hone : e.lastCommitEpoch false = 1 := hlast
  simp [Epochs.act, nextEpoch, Epochs.latest, stillOwnedByThisThread, hzero, hone]

end Tamga.Ownership
