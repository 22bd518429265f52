/-
Replacing a family of things in stages: each has its final place, a temporary one for what
shall replace it and a backup.

What is there is moved to the backup, what was staged is moved to the final place, and a
failure on the way is rolled back.  The loops go over a list of the things and stop at the
first failure; the operations on one thing leave the others alone, so that what a loop does
can be said of each thing by itself.

* `backupEach_backed` — what the loop over the backups has done when it stops;
* `restoreEach_of_backed` — putting the backups back undoes it;
* `installEach_installed` — what the loop over the final places has done when it stops;
* `rollBackEach_final` — what is there after the roll-back.
-/
import Mathlib.Data.List.TakeWhile
import Mathlib.Logic.Function.Basic

namespace Tamga.StagedReplace

open List

/-- The three places of one thing. -/
structure Place (β : Type) where
  final : Option β
  temp : Option β
  backup : Option β
  deriving DecidableEq, Repr

namespace Place

variable {β : Type}

variable (p : Place β)

def stage (new : β) : Place β := { p with temp := some new }

def dropTemp : Place β := { p with temp := none }

def dropFinal : Place β := { p with final := none }

def restore : Place β := { p with final := p.backup, backup := none }

/-- What can be moved to `target`: something must be there to be moved, and what is at the
target must be replaceable. -/
def movable (replaceable : β → Bool) (source target : Option β) : Bool :=
  source.isSome && target.all replaceable

def toBackup : Place β := { p with final := none, backup := p.final }

def toFinal : Place β := { p with temp := none, final := p.temp }

end Place

variable {ι β : Type} [DecidableEq ι]

def onEach (f : ι → β → β) (things : List ι) (d : ι → β) : ι → β :=
  things.foldl (fun d i => Function.update d i (f i (d i))) d

theorem onEach_of_notMem (f : ι → β → β) {j : ι} : ∀ (things : List ι) (d : ι → β), j ∉ things →
    onEach f things d j = d j
  | [], _, _ => rfl
  | i :: rest, d, h => by
    obtain ⟨hne, hrest⟩ := not_or.mp (mt mem_cons.mpr h)
    refine (onEach_of_notMem f rest _ hrest).trans ?_
    exact Function.update_of_ne hne _ _

theorem onEach_of_mem (f : ι → β → β) {j : ι} : ∀ (things : List ι) (d : ι → β), things.Nodup →
    j ∈ things → onEach f things d j = f j (d j)
  | i :: rest, d, hnodup, h => by
    obtain ⟨hi, hrest⟩ := nodup_cons.mp hnodup
    show onEach f rest (Function.update d i (f i (d i))) j = f j (d j)
    rcases mem_cons.mp h with rfl | hj
    · rw [onEach_of_notMem f rest _ hi, Function.update_self]
    · have hne : j ≠ i := fun heq => hi (heq ▸ hj)
      rw [onEach_of_mem f rest _ hrest hj, Function.update_of_ne hne]

variable {things backed : List ι} {keep moves : ι → Place β → Bool} {d d' : ι → Place β}

theorem onEach_apply (f : ι → β → β) (hnodup : things.Nodup) (d : ι → β) (j : ι) :
    onEach f things d j = if j ∈ things then f j (d j) else d j := by
  split
  next h => exact onEach_of_mem f things d hnodup h
  next h => exact onEach_of_notMem f things d h

/-! ### Backups -/

/-- The loop over the backups: what is worth keeping is moved, until one move fails.  The
result is the thing at which it stopped, and those that were moved. -/
def backupEach (keep : ι → Place β → Bool) (moves : ι → Place β → Bool) :
    List ι → List ι → (ι → Place β) → Option ι × List ι × (ι → Place β)
  | [], backed, d => (none, backed, d)
  | i :: rest, backed, d =>
    if keep i (d i) then
      if moves i (d i) then
        backupEach keep moves rest (backed ++ [i]) (Function.update d i (d i).toBackup)
      else (some i, backed, d)
    else backupEach keep moves rest backed d

/-- What a loop over backups has done: `backed` are the things before the one at which it
stopped that were worth keeping, and they are moved. -/
structure Backed (keep moves : ι → Place β → Bool) (things : List ι) (d : ι → Place β)
    (stop : Option ι) (backed : List ι) (d' : ι → Place β) : Prop where
  /-- Whatever was moved could be. -/
  kept : ∀ j ∈ backed, j ∈ things ∧ keep j (d j) = true ∧ moves j (d j) = true
  nodup : backed.Nodup
  moved : ∀ j, d' j = if j ∈ backed then (d j).toBackup else d j
  /-- Without a stop, everything worth keeping was moved. -/
  all : stop = none → ∀ j ∈ things, keep j (d j) = true → j ∈ backed
  stopped : ∀ i, stop = some i → i ∈ things ∧ keep i (d i) = true ∧ moves i (d i) = false

/-- The loop in closed form; `k` and `m` are the answers for the places as they are at first. -/
theorem backupEach_eq {k m : ι → Bool} : ∀ (things backed : List ι) (d : ι → Place β), things.Nodup →
    (∀ i ∈ things, keep i (d i) = k i ∧ moves i (d i) = m i) →
    backupEach keep moves things backed d = ((things.filter k).find? (fun i => !m i),
      backed ++ (things.filter k).takeWhile m,
      onEach (fun _ => Place.toBackup) ((things.filter k).takeWhile m) d)
  | [], backed, d, _, _ => by simp [backupEach, onEach]
  | i :: rest, backed, d, hnodup, h => by
    obtain ⟨hi, hrest⟩ := nodup_cons.mp hnodup
    obtain ⟨⟨hkeep, hmoves⟩, hlater⟩ := forall_mem_cons.mp h
    have hnext : ∀ j ∈ rest, keep j (Function.update d i (d i).toBackup j) = k j ∧
        moves j (Function.update d i (d i).toBackup j) = m j := by
      intro j hj
      rw [Function.update_of_ne fun heq : j = i => hi (heq ▸ hj)]
      exact hlater j hj
    rw [backupEach, hkeep, hmoves]
    cases hk : k i with
    | false => simp [hk, backupEach_eq rest backed d hrest hlater]
    | true =>
      cases hm : m i with
      | false => simp [hk, hm, onEach]
      | true => simp [hk, hm, backupEach_eq rest _ _ hrest hnext, onEach]

theorem backupEach_backed (keep moves : ι → Place β → Bool) (hnodup : things.Nodup)
    (d : ι → Place β) :
    Backed keep moves things d (backupEach keep moves things [] d).1
      (backupEach keep moves things [] d).2.1 (backupEach keep moves things [] d).2.2 := by
  rw [backupEach_eq things [] d hnodup fun _ _ => ⟨rfl, rfl⟩]
  have hsub := @takeWhile_sublist _ (things.filter fun i => keep i (d i)) fun i => moves i (d i)
  have hbacked := hsub.nodup (filter_sublist.nodup hnodup)
  refine ⟨fun j hj => ?_, hbacked, onEach_apply _ hbacked d, fun hstop j hj hkeep => ?_,
    fun i hstop => ?_⟩
  · obtain ⟨hmem, hkeep⟩ := mem_filter.mp (hsub.mem hj)
    exact ⟨hmem, hkeep, mem_takeWhile_imp (p := fun i => moves i (d i)) hj⟩
  · have hall : ∀ i ∈ things.filter fun i => keep i (d i), moves i (d i) = true := by
      simpa using hstop
    rw [nil_append, takeWhile_eq_self_iff.mpr hall]
    exact mem_filter.mpr ⟨hj, hkeep⟩
  · obtain ⟨hmem, hkeep⟩ := mem_filter.mp (mem_of_find?_eq_some hstop)
    exact ⟨hmem, hkeep, by simpa using find?_some hstop⟩

theorem Backed.stop_none_iff {stop : Option ι} (h : Backed keep moves things d stop backed d') :
    stop = none ↔ ∀ j ∈ things, keep j (d j) = true → moves j (d j) = true := by
  constructor
  · intro hstop j hj hkeep
    exact (h.kept j (h.all hstop j hj hkeep)).2.2
  · intro hmoves
    cases hstop : stop with
    | none => rfl
    | some i =>
      obtain ⟨hi, hkeep, hnot⟩ := h.stopped i hstop
      exact absurd (hmoves i hi hkeep) (by simp [hnot])

theorem Backed.mem_iff (h : Backed keep moves things d none backed d') (j : ι) :
    j ∈ backed ↔ j ∈ things ∧ keep j (d j) = true :=
  ⟨fun hj => ⟨(h.kept j hj).1, (h.kept j hj).2.1⟩, fun hj => h.all rfl j hj.1 hj.2⟩

theorem Backed.temp {stop : Option ι} (h : Backed keep moves things d stop backed d') (j : ι) :
    (d' j).temp = (d j).temp := by
  rw [h.moved]
  split <;> rfl

theorem Backed.final (h : Backed keep moves things d none backed d') {j : ι} (hj : j ∈ things) :
    (d' j).final = if keep j (d j) = true then none else (d j).final := by
  rw [h.moved]
  by_cases hkeep : keep j (d j) = true
  · rw [if_pos ((h.mem_iff j).mpr ⟨hj, hkeep⟩), if_pos hkeep]
    rfl
  · rw [if_neg fun hmem => hkeep ((h.mem_iff j).mp hmem).2, if_neg hkeep]

theorem restoreEach_of_backed {stop : Option ι} (h : Backed keep moves things d stop backed d')
    (j : ι) :
    (onEach (fun _ => Place.restore) backed d' j).final = (d j).final ∧
      (onEach (fun _ => Place.restore) backed d' j).temp = (d j).temp := by
  rw [onEach_apply _ h.nodup, h.moved]
  by_cases hj : j ∈ backed
  · simp [hj, Place.restore, Place.toBackup]
  · simp [hj]

/-! ### Final places -/

/-- The loop over the final places, until one move fails. -/
def installEach (moves : ι → Place β → Bool) : List ι → (ι → Place β) → Bool × (ι → Place β)
  | [], d => (true, d)
  | i :: rest, d =>
    if moves i (d i) then installEach moves rest (Function.update d i (d i).toFinal)
    else (false, d)

theorem installEach_eq {m : ι → Bool} : ∀ (things : List ι) (d : ι → Place β), things.Nodup →
    (∀ i ∈ things, moves i (d i) = m i) → installEach moves things d =
      (things.all m, onEach (fun _ => Place.toFinal) (things.takeWhile m) d)
  | [], _, _, _ => rfl
  | i :: rest, d, hnodup, h => by
    obtain ⟨hi, hrest⟩ := nodup_cons.mp hnodup
    obtain ⟨hmoves, hlater⟩ := forall_mem_cons.mp h
    have hnext : ∀ j ∈ rest, moves j (Function.update d i (d i).toFinal j) = m j := by
      intro j hj
      rw [Function.update_of_ne fun heq : j = i => hi (heq ▸ hj)]
      exact hlater j hj
    rw [installEach, hmoves]
    cases hm : m i with
    | false => simp [hm, onEach]
    | true => simp [hm, installEach_eq rest _ hrest hnext, onEach]

/-- The loop over the final places: it has filled all of them if all moves succeed, and touches
neither the backups nor what is not in the list. -/
structure Installed (moves : ι → Place β → Bool) (things : List ι) (d : ι → Place β)
    (r : Bool × (ι → Place β)) : Prop where
  ok_iff : r.1 = true ↔ ∀ j ∈ things, moves j (d j) = true
  final : r.1 = true → ∀ j ∈ things, (r.2 j).final = (d j).temp
  backup : ∀ j, (r.2 j).backup = (d j).backup
  other : ∀ j ∉ things, r.2 j = d j

theorem installEach_installed (moves : ι → Place β → Bool) (hnodup : things.Nodup)
    (d : ι → Place β) : Installed moves things d (installEach moves things d) := by
  have hsub := @takeWhile_sublist _ things fun i => moves i (d i)
  rw [installEach_eq things d hnodup fun _ _ => rfl]
  refine ⟨all_eq_true, fun hall j hj => ?_, fun j => ?_,
    fun j hj => onEach_of_notMem _ _ d fun hmem => hj (hsub.mem hmem)⟩
  · dsimp only
    rw [takeWhile_eq_self_iff.mpr (all_eq_true.mp hall), onEach_of_mem _ things d hnodup hj]
    rfl
  · dsimp only
    rw [onEach_apply _ (hsub.nodup hnodup)]
    split <;> rfl

theorem rollBackEach_final {d'' : ι → Place β} (h : Backed keep moves things d none backed d')
    (hnodup : things.Nodup) (hbackup : ∀ j, (d'' j).backup = (d' j).backup)
    (hother : ∀ j ∉ things, d'' j = d' j) (j : ι) :
    (onEach (fun _ => Place.restore) backed (onEach (fun _ => Place.dropFinal) things d'') j).final =
      if j ∈ things ∧ keep j (d j) = false then none else (d j).final := by
  rw [onEach_apply _ h.nodup, onEach_apply _ hnodup]
  by_cases hj : j ∈ things
  · by_cases hkeep : keep j (d j) = true
    · have hbacked : j ∈ backed := (h.mem_iff j).mpr ⟨hj, hkeep⟩
      simp [hbacked, hj, hkeep, Place.restore, Place.dropFinal, hbackup, h.moved, Place.toBackup]
    · have hnot : j ∉ backed := fun hmem => hkeep ((h.mem_iff j).mp hmem).2
      simp [hnot, hj, hkeep, Place.dropFinal]
  · have hnot : j ∉ backed := fun hmem => hj ((h.mem_iff j).mp hmem).1
    simp [hnot, hj, hother j hj, h.moved]

end Tamga.StagedReplace
