/-
A cell that many threads replace and refine, guarded by an epoch.

A call replaces the value of the cell under a lock and marks the replacement with the next
number of a 64-bit counter; the thread keeps the number of its last replacement.  Later the
call refines the value, again under the lock, after it has compared the two numbers or without
any check.  A cell can also be reset, which keeps the number.  Beside the value the cell carries
who wrote each of its fields.

* `Process.Conforms` — what the sections of a process may do;
* `Inv.step` — one section of one thread keeps the invariant;
* `oneWriter_of_compatible` — under every schedule of threads that do not stand in each
  other's way, every field of the value comes from one call, as long as the counter has not
  started again;
* `Process.advance_writtenBy` — from its first store on the value is that of the call, where
  one thread makes its calls one after the other.
-/
import Mathlib.Algebra.GroupWithZero.Nat
import Mathlib.Logic.Function.Basic

namespace Tamga.OwnedCell

/-- A call: the thread that makes it and its number there. -/
abbrev CallId := Nat × Nat

/-- The values of a cell: the one after a reset, and whether a value is a result. -/
structure Content (R : Type) where
  blank : R
  filled : R → Bool
  blank_filled : filled blank = false

/-- A refinement of the value: the fields it writes, and how.  It does not turn a blank
value into a result. -/
structure Patch {R : Type} (K : Content R) (F : Type) where
  fields : List F
  apply : R → R
  filled_apply : ∀ r, K.filled (apply r) = K.filled r

/-- What is looked at before a refinement. -/
inductive Check where
  | unchecked
  | owned
  | ownedFilled
  deriving DecidableEq, Repr

/-- The sections of a call that hold the lock, in their order; what happens between them
is in the data of the process. -/
inductive Process {R : Type} (K : Content R) (F : Type) where
  | done
  /-- The call goes on if the cell is open; otherwise it may store a refusal. -/
  | gate (refusal : Option R) (shut opened : Process K F)
  | store (value : R) (next : Process K F)
  | patch (check : Check) (p : Patch K F) (next : Process K F)
  /-- The value is read if it is still the caller's own. -/
  | look (next : Option R → Process K F)
  | reset (isOpen : Bool) (next : Process K F)

/-- A 64-bit counter, which starts again after its last number. -/
def nextEpoch (counter : Nat) : Nat := (counter + 1) % 2 ^ 64

@[simp]
theorem nextEpoch_zero : nextEpoch 0 = 1 := rfl

theorem nextEpoch_eq {counter : Nat} (h : counter + 1 < 2 ^ 64) : nextEpoch counter = counter + 1 :=
  Nat.mod_eq_of_lt h

/-- The cell, with the numbers of the threads.  `commits`, `origin`, `storer`, `holder` and `writes`
record what happened; nothing depends on them. -/
structure Cell (R F : Type) where
  value : R
  epoch : Nat
  isOpen : Bool
  counter : Nat
  mark : Nat → Nat
  /-- How often a number was taken, before the start as well. -/
  commits : Nat
  /-- The call each field comes from. -/
  origin : F → Option CallId
  /-- The call that stored last. -/
  storer : Option CallId
  /-- The call that stored last, unless there was a reset after it. -/
  holder : Option CallId
  /-- The refinements: the writer, and the holder at that moment. -/
  writes : List (CallId × Option CallId)

section Semantics

variable {R F : Type} [DecidableEq F] {K : Content R}

namespace Cell

/-- The value is replaced and marked with the next number. -/
def store (cell : Cell R F) (call : CallId) (value : R) : Cell R F :=
  { cell with
    value := value
    epoch := nextEpoch cell.counter
    counter := nextEpoch cell.counter
    mark := Function.update cell.mark call.1 (nextEpoch cell.counter)
    commits := cell.commits + 1
    origin := fun _ => some call
    storer := some call
    holder := some call }

/-- The value is cleared, and the number stays. -/
def reset (K : Content R) (cell : Cell R F) (isOpen : Bool) : Cell R F :=
  { cell with
    value := K.blank
    isOpen := isOpen
    origin := fun _ => none
    holder := none }

/-- The value is still the one that the thread stored. -/
def ownedBy (cell : Cell R F) (thread : Nat) : Bool :=
  cell.epoch != 0 && cell.epoch == cell.mark thread

/-- Whether a refinement with this check goes ahead. -/
def permits (K : Content R) (cell : Cell R F) (thread : Nat) : Check → Bool
  | .unchecked => true
  | .owned => cell.ownedBy thread
  | .ownedFilled => K.filled cell.value && cell.ownedBy thread

def write (cell : Cell R F) (call : CallId) (p : Patch K F) : Cell R F :=
  { cell with
    value := p.apply cell.value
    origin := fun f => if f ∈ p.fields then some call else cell.origin f
    writes := cell.writes ++ [(call, cell.holder)] }

end Cell

/-- One section of a call. -/
def Process.exec (call : CallId) (cell : Cell R F) : Process K F → Cell R F × Process K F
  | .done => (cell, .done)
  | .gate refusal shut opened =>
    if cell.isOpen then (cell, opened)
    else match refusal with
    | none => (cell, shut)
    | some value => (cell.store call value, shut)
  | .store value next => (cell.store call value, next)
  | .patch check p next =>
    if cell.permits K call.1 check then (cell.write call p, next) else (cell, next)
  | .look next => (cell, next (if cell.ownedBy call.1 then some cell.value else none))
  | .reset isOpen next => (cell.reset K isOpen, next)

/-- A thread: the rest of the call it is in, the calls after that, and the number of calls
it has begun. -/
structure Thread (K : Content R) (F : Type) where
  current : Process K F
  pending : List (Process K F)
  begun : Nat

structure Config (K : Content R) (F : Type) where
  cell : Cell R F
  threads : Nat → Thread K F

/-- A thread begins its next call or executes the next section of the one it is in. -/
def step (cfg : Config K F) (t : Nat) : Config K F :=
  let thread := cfg.threads t
  match thread.current, thread.pending with
  | .done, [] => cfg
  | .done, p :: pending =>
    { cfg with threads := Function.update cfg.threads t ⟨p, pending, thread.begun + 1⟩ }
  | p, _ =>
    let result := p.exec (t, thread.begun) cfg.cell
    { cell := result.1
      threads := Function.update cfg.threads t { thread with current := result.2 } }

def run (cfg : Config K F) (schedule : List Nat) : Config K F := schedule.foldl step cfg

/-- Nothing has been stored yet; the numbers may come from other cells. -/
def start (K : Content R) (F : Type) (isOpen : Bool) (counter : Nat) (mark : Nat → Nat)
    (programs : Nat → List (Process K F)) : Config K F where
  cell :=
    { value := K.blank
      epoch := 0
      isOpen := isOpen
      counter := counter
      mark := mark
      commits := counter
      origin := fun _ => none
      storer := none
      holder := none
      writes := [] }
  threads := fun t => ⟨.done, programs t, 0⟩

/-- Every field comes from one call, or all are blank, and whoever refined the value held
it. -/
structure OneWriter (cfg : Config K F) : Prop where
  single : ∃ writer, ∀ f, cfg.cell.origin f = writer
  entitled : ∀ w ∈ cfg.cell.writes, w.2 = some w.1

end Semantics

/-! ### What a thread may do -/

/-- What the calls of a thread may do to the cell. -/
structure Profile where
  stores : Prop
  resets : Prop
  ownedPatches : Prop
  rawPatches : Prop

/-- The sections of a process stay within a profile, and a refinement comes only after the
call has stored a value itself; `stored` says whether it has. -/
def Process.Conforms {R F : Type} {K : Content R} (pr : Profile) : Bool → Process K F → Prop
  | _, .done => True
  | stored, .gate refusal shut opened =>
    (refusal.isSome = true → pr.stores) ∧ shut.Conforms pr (stored || refusal.isSome) ∧
      opened.Conforms pr stored
  | _, .store _ next => pr.stores ∧ next.Conforms pr true
  | stored, .patch check _ next =>
    stored = true ∧ (check = .owned → pr.ownedPatches) ∧ (check = .unchecked → pr.rawPatches) ∧
      next.Conforms pr stored
  | stored, .look next => ∀ r, (next r).Conforms pr stored
  | _, .reset _ next => pr.resets ∧ next.Conforms pr false

/-- No thread stands in the way of another: beside a thread that refines without a check
nobody else replaces the value, and beside one that compares only the numbers nobody else
resets it. -/
structure Compatible (prof : Nat → Profile) : Prop where
  raw : ∀ t t', t ≠ t' → (prof t).rawPatches → ¬(prof t').stores ∧ ¬(prof t').resets
  owned : ∀ t t', t ≠ t' → (prof t).ownedPatches → ¬(prof t').resets

section Invariant

variable {R F : Type} {K : Content R}

/-- The counter has not started again, so that the numbers tell who stored last, and all fields come
from the holder. -/
structure CellInv (K : Content R) (cell : Cell R F) : Prop where
  counter : cell.counter = cell.commits
  epoch_le : cell.epoch ≤ cell.counter
  mark_le : ∀ t, cell.mark t ≤ cell.counter
  storer : cell.epoch ≠ 0 → ∀ t, cell.epoch = cell.mark t → ∃ n, cell.storer = some (t, n)
  holder : cell.holder = none ∨ cell.holder = cell.storer
  origin : ∀ f, cell.origin f = cell.holder
  blank : cell.holder = none → K.filled cell.value = false
  entitled : ∀ w ∈ cell.writes, w.2 = some w.1

/-- A call that has stored is the last one of its thread to have done so, and it holds the
value as far as its checks do not find out the contrary. -/
structure Entitled (pr : Profile) (cell : Cell R F) (call : CallId) : Prop where
  last : ∀ n, cell.storer = some (call.1, n) → cell.storer = some call
  owned : pr.ownedPatches → cell.storer = some call → cell.holder = some call
  raw : pr.rawPatches → cell.holder = some call

variable {pr : Profile} {call : CallId} {cell : Cell R F} {stored : Bool}

theorem holder_of_permits (hcell : CellInv K cell) (hcall : Entitled pr cell call) {check : Check}
    (howned : check = .owned → pr.ownedPatches) (hraw : check = .unchecked → pr.rawPatches)
    (h : cell.permits K call.1 check = true) : cell.holder = some call := by
  have hstorer : cell.ownedBy call.1 = true → cell.storer = some call := by
    intro hown
    obtain ⟨hne, heq⟩ := Bool.and_eq_true_iff.mp hown
    obtain ⟨n, hn⟩ := hcell.storer (bne_iff_ne.mp hne) call.1 (beq_iff_eq.mp heq)
    exact hcall.last n hn
  cases check with
  | unchecked => exact hcall.raw (hraw rfl)
  | owned => exact hcall.owned (howned rfl) (hstorer h)
  | ownedFilled =>
    obtain ⟨hfilled, hown⟩ := Bool.and_eq_true_iff.mp h
    rcases hcell.holder with hnone | heq
    · rw [hcell.blank hnone] at hfilled
      cases hfilled
    · exact heq.trans (hstorer hown)

variable [DecidableEq F]

/-- What a section does to the cell, and whether the call has stored afterwards. -/
inductive Effect (pr : Profile) (call : CallId) (cell : Cell R F) (stored : Bool) :
    Cell R F → Bool → Prop
  | keep : Effect pr call cell stored cell stored
  | store (value : R) (h : pr.stores) : Effect pr call cell stored (cell.store call value) true
  | write (p : Patch K F) (h : cell.holder = some call) :
      Effect pr call cell stored (cell.write call p) stored
  | reset (isOpen : Bool) (h : pr.resets) :
      Effect pr call cell stored (cell.reset K isOpen) false

/-- **What one section can do.** -/
theorem exec_effect {p : Process K F} (hcell : CellInv K cell) (hp : p.Conforms pr stored)
    (hcall : stored = true → Entitled pr cell call) :
    ∃ stored', Effect (K := K) pr call cell stored (p.exec call cell).1 stored' ∧
      (p.exec call cell).2.Conforms pr stored' := by
  cases p with
  | done => exact ⟨stored, .keep, trivial⟩
  | gate refusal shut opened =>
    obtain ⟨hstores, hshut, hopened⟩ := hp
    cases hopen : cell.isOpen with
    | true =>
      simp only [Process.exec, hopen, if_true]
      exact ⟨stored, .keep, hopened⟩
    | false =>
      simp only [Process.exec, hopen, Bool.false_eq_true, if_false]
      cases refusal with
      | none => exact ⟨stored, .keep, by simpa using hshut⟩
      | some value => exact ⟨true, .store value (hstores rfl), by simpa using hshut⟩
  | store value next => exact ⟨true, .store value hp.1, hp.2⟩
  | patch check q next =>
    obtain ⟨hstored, howned, hraw, hnext⟩ := hp
    rw [Process.exec]
    split
    next hpermits =>
      exact ⟨stored, .write q (holder_of_permits hcell (hcall hstored) howned hraw hpermits), hnext⟩
    next => exact ⟨stored, .keep, hnext⟩
  | look next => exact ⟨stored, .keep, hp _⟩
  | reset isOpen next => exact ⟨false, .reset isOpen hp.1, hp.2⟩

variable {cell' : Cell R F} {stored' : Bool}

theorem Effect.cellInv (h : Effect (K := K) pr call cell stored cell' stored')
    (hcell : CellInv K cell) (hlt : cell'.commits < 2 ^ 64) : CellInv K cell' := by
  cases h with
  | keep => exact hcell
  | store value _ =>
    have hnext : nextEpoch cell.counter = cell.counter + 1 := by
      refine nextEpoch_eq ?_
      rw [hcell.counter]
      exact hlt
    refine ⟨?_, Nat.le_refl _, fun t => ?_, fun _ t hmark => ?_, .inr rfl, fun _ => rfl,
      fun hnone => (Option.some_ne_none _ hnone).elim, hcell.entitled⟩
    · exact hnext.trans (congrArg (· + 1) hcell.counter)
    · -- the fresh number is the largest
      show Function.update cell.mark call.1 (nextEpoch cell.counter) t ≤ nextEpoch cell.counter
      by_cases ht : t = call.1
      · exact Nat.le_of_eq (by rw [ht, Function.update_self])
      · rw [Function.update_of_ne ht, hnext]
        exact Nat.le_succ_of_le (hcell.mark_le t)
    · by_cases ht : t = call.1
      · exact ⟨call.2, by rw [ht]; rfl⟩
      · have hle := hcell.mark_le t
        have heq : nextEpoch cell.counter =
            Function.update cell.mark call.1 (nextEpoch cell.counter) t := hmark
        rw [Function.update_of_ne ht] at heq
        omega
  | write p hholder =>
    refine ⟨hcell.counter, hcell.epoch_le, hcell.mark_le, hcell.storer, hcell.holder,
      fun f => ?_, fun hnone => ?_, fun w hw => ?_⟩
    · show (if f ∈ p.fields then some call else cell.origin f) = cell.holder
      split
      · exact hholder.symm
      · exact hcell.origin f
    · exact (p.filled_apply cell.value).trans (hcell.blank hnone)
    · rcases List.mem_append.mp hw with hold | hnew
      · exact hcell.entitled w hold
      · rw [List.mem_singleton.mp hnew]
        exact hholder
  | reset isOpen _ =>
    exact ⟨hcell.counter, hcell.epoch_le, hcell.mark_le, hcell.storer, .inl rfl, fun _ => rfl,
      fun _ => K.blank_filled, hcell.entitled⟩

/-- A section takes at most one number. -/
theorem Process.exec_commits (call : CallId) (cell : Cell R F) (p : Process K F) :
    (p.exec call cell).1.commits = cell.commits ∨
      (p.exec call cell).1.commits = cell.commits + 1 := by
  cases p with
  | gate refusal shut opened =>
    cases refusal <;>
    · rw [Process.exec]
      split
      · exact .inl rfl
      · first | exact .inl rfl | exact .inr rfl
  | store value next => exact .inr rfl
  | patch check q next =>
    rw [Process.exec]
    split <;> exact .inl rfl
  | _ => exact .inl rfl

theorem Effect.entitled (h : Effect (K := K) pr call cell stored cell' stored')
    (hcall : stored = true → Entitled pr cell call) (hstored : stored' = true) :
    Entitled pr cell' call := by
  cases h with
  | keep => exact hcall hstored
  | store value _ => exact ⟨fun _ _ => rfl, fun _ _ => rfl, fun _ => rfl⟩
  | write p _ => exact ⟨(hcall hstored).last, (hcall hstored).owned, (hcall hstored).raw⟩
  | reset isOpen _ => cases hstored

variable {prof : Nat → Profile}

/-- So does a call of another thread that does not mind what was done. -/
theorem Effect.entitled_other {t t' n n' : Nat} (hcompat : Compatible prof)
    (hne : t' ≠ t) (h : Effect (K := K) (prof t) (t, n) cell stored cell' stored')
    (hother : Entitled (prof t') cell (t', n')) : Entitled (prof t') cell' (t', n') := by
  cases h with
  | keep => exact hother
  | store value hstores =>
    refine ⟨fun n hn => ?_, fun _ hn => ?_, fun hraw => ?_⟩
    · cases hn
      exact absurd rfl hne
    · cases hn
      exact absurd rfl hne
    · exact absurd hstores (hcompat.raw _ _ hne hraw).1
  | write p _ => exact ⟨hother.last, hother.owned, hother.raw⟩
  | reset isOpen hresets =>
    refine ⟨hother.last, fun howned => ?_, fun hraw => ?_⟩
    · exact absurd hresets (hcompat.owned _ _ hne howned)
    · exact absurd hresets (hcompat.raw _ _ hne hraw).2

/-! ### Runs -/

/-- The calls of a thread conform to its profile, and the one it is in is entitled to what
it may still do. -/
structure ThreadInv (pr : Profile) (cell : Cell R F) (t : Nat) (thread : Thread K F) : Prop where
  pending : ∀ p ∈ thread.pending, p.Conforms pr false
  current : ∃ stored, thread.current.Conforms pr stored ∧
    (stored = true → Entitled pr cell (t, thread.begun))

structure Inv (prof : Nat → Profile) (cfg : Config K F) : Prop where
  cell : CellInv K cfg.cell
  threads : ∀ t, ThreadInv (prof t) cfg.cell t (cfg.threads t)

theorem Inv.exec {cfg : Config K F} (hcompat : Compatible prof) (h : Inv prof cfg) (t : Nat)
    (hlt : ((cfg.threads t).current.exec (t, (cfg.threads t).begun) cfg.cell).1.commits < 2 ^ 64) :
    Inv prof
      { cell := ((cfg.threads t).current.exec (t, (cfg.threads t).begun) cfg.cell).1
        threads := Function.update cfg.threads t { cfg.threads t with
          current := ((cfg.threads t).current.exec (t, (cfg.threads t).begun) cfg.cell).2 } } := by
  obtain ⟨stored, hconforms, hentitled⟩ := (h.threads t).current
  obtain ⟨stored', heffect, hnext⟩ := exec_effect h.cell hconforms hentitled
  refine ⟨heffect.cellInv h.cell hlt, fun t' => ?_⟩
  dsimp only
  by_cases ht : t' = t
  · subst ht
    rw [Function.update_self]
    exact ⟨(h.threads t').pending, stored', hnext, heffect.entitled hentitled⟩
  · rw [Function.update_of_ne ht]
    obtain ⟨other, hother, hcalls⟩ := (h.threads t').current
    exact ⟨(h.threads t').pending, other, hother,
      fun hstored => heffect.entitled_other hcompat ht (hcalls hstored)⟩

/-- **One step keeps the invariant**, as long as the counter does not start again. -/
theorem Inv.step {prof : Nat → Profile} {cfg : Config K F} (hcompat : Compatible prof)
    (h : Inv prof cfg) (t : Nat) (hlt : (step cfg t).cell.commits < 2 ^ 64) :
    Inv prof (step cfg t) := by
  rw [OwnedCell.step] at hlt ⊢
  split at hlt
  · exact h
  next p pending hcurrent hpending =>
    -- a new call: nothing is stored yet
    refine ⟨h.cell, fun t' => ?_⟩
    dsimp only
    by_cases ht : t' = t
    · subst ht
      rw [Function.update_self]
      have hall := (h.threads t').pending
      rw [hpending] at hall
      exact ⟨fun q hq => hall q (List.mem_cons_of_mem _ hq), false, hall p List.mem_cons_self,
        fun hfalse => by cases hfalse⟩
    · rw [Function.update_of_ne ht]
      exact h.threads t'
  · exact h.exec hcompat t hlt

theorem step_commits (cfg : Config K F) (t : Nat) : (step cfg t).cell.commits = cfg.cell.commits ∨
    (step cfg t).cell.commits = cfg.cell.commits + 1 := by
  rw [step]
  split
  · exact .inl rfl
  · exact .inl rfl
  · exact Process.exec_commits _ _ _

theorem run_commits (schedule : List Nat) : ∀ cfg : Config K F,
    cfg.cell.commits ≤ (run cfg schedule).cell.commits ∧
      (run cfg schedule).cell.commits ≤ cfg.cell.commits + schedule.length := by
  induction schedule with
  | nil => exact fun cfg => ⟨Nat.le_refl _, Nat.le_refl _⟩
  | cons t schedule ih =>
    intro cfg
    obtain ⟨hle, hge⟩ := ih (step cfg t)
    have hstep := step_commits cfg t
    rw [List.length_cons]
    change _ ≤ (run (step cfg t) schedule).cell.commits ∧
      (run (step cfg t) schedule).cell.commits ≤ _
    omega

theorem Inv.run (hcompat : Compatible prof) : ∀ (schedule : List Nat) {cfg : Config K F},
    Inv prof cfg → (run cfg schedule).cell.commits < 2 ^ 64 → Inv prof (run cfg schedule)
  | [], _, h, _ => h
  | t :: schedule, cfg, h, hlt =>
    Inv.run hcompat schedule
      (h.step hcompat t (Nat.lt_of_le_of_lt (run_commits schedule (OwnedCell.step cfg t)).1 hlt)) hlt

omit [DecidableEq F] in
theorem inv_start {isOpen : Bool} {counter : Nat} {mark : Nat → Nat}
    {programs : Nat → List (Process K F)} (hmark : ∀ t, mark t ≤ counter)
    (h : ∀ t, ∀ p ∈ programs t, p.Conforms (prof t) false) :
    Inv prof (start K F isOpen counter mark programs) where
  cell := ⟨rfl, Nat.zero_le _, hmark, fun hne => absurd rfl hne, .inl rfl, fun _ => rfl,
    fun _ => K.blank_filled, fun _ hw => by cases hw⟩
  threads := fun t => ⟨h t, false, trivial, fun hfalse => by cases hfalse⟩

/-- **One value, one call**: under every schedule of threads that keep to compatible
profiles, with fewer than 2 ^ 64 numbers taken, all fields of the value come from one call, and
a call refines the value only while it holds it. -/
theorem oneWriter_of_compatible (hcompat : Compatible prof) {isOpen : Bool}
    {counter : Nat} {mark : Nat → Nat} {programs : Nat → List (Process K F)}
    (hmark : ∀ t, mark t ≤ counter) (h : ∀ t, ∀ p ∈ programs t, p.Conforms (prof t) false)
    (schedule : List Nat)
    (hlt : (run (start K F isOpen counter mark programs) schedule).cell.commits < 2 ^ 64) :
    OneWriter (run (start K F isOpen counter mark programs) schedule) := by
  have hinv := Inv.run hcompat schedule (@inv_start _ _ K prof isOpen counter mark _ hmark h) hlt
  exact ⟨⟨_, hinv.cell.origin⟩, hinv.cell.entitled⟩

end Invariant

theorem Process.Conforms.mono {R F : Type} {K : Content R} {pr pr' : Profile}
    (hstores : pr.stores → pr'.stores) (hresets : pr.resets → pr'.resets)
    (howned : pr.ownedPatches → pr'.ownedPatches) (hraw : pr.rawPatches → pr'.rawPatches) :
    ∀ {stored : Bool} {p : Process K F}, p.Conforms pr stored → p.Conforms pr' stored
  | _, .done, _ => trivial
  | _, .gate _ _ _, h =>
    ⟨fun hsome => hstores (h.1 hsome), h.2.1.mono hstores hresets howned hraw,
      h.2.2.mono hstores hresets howned hraw⟩
  | _, .store _ _, h => ⟨hstores h.1, h.2.mono hstores hresets howned hraw⟩
  | _, .patch _ _ _, h =>
    ⟨h.1, fun hcheck => howned (h.2.1 hcheck), fun hcheck => hraw (h.2.2.1 hcheck),
      h.2.2.2.mono hstores hresets howned hraw⟩
  | _, .look _, h => fun r => (h r).mono hstores hresets howned hraw
  | _, .reset _ _, h => ⟨hresets h.1, h.2.mono hstores hresets howned hraw⟩

/-! ### Late refinements -/

section Late

variable {R F : Type} [DecidableEq F] {K : Content R} {cfg : Config K F} {t t' : Nat}

theorem not_oneWriter_of_late {check : Check} {p : Patch K F} {next : Process K F}
    (hcurrent : (cfg.threads t).current = .patch check p next)
    (hpermits : cfg.cell.permits K t check = true)
    (hholder : cfg.cell.holder ≠ some (t, (cfg.threads t).begun)) : ¬OneWriter (step cfg t) := by
  intro h
  refine hholder (h.entitled ((t, (cfg.threads t).begun), cfg.cell.holder) ?_)
  rw [step]
  simp [hcurrent, Process.exec, hpermits, Cell.write]

theorem step_threads_of_ne (h : t' ≠ t) : (step cfg t').threads t = cfg.threads t := by
  rw [step]
  split
  · rfl
  · exact Function.update_of_ne h.symm _ _
  · exact Function.update_of_ne h.symm _ _

theorem run_threads_of_notMem : ∀ (schedule : List Nat) {cfg : Config K F}, t ∉ schedule →
    (run cfg schedule).threads t = cfg.threads t
  | [], _, _ => rfl
  | u :: schedule, cfg, h => by
    obtain ⟨hne, hrest⟩ := not_or.mp (mt List.mem_cons.mpr h)
    exact (run_threads_of_notMem schedule hrest).trans (step_threads_of_ne (Ne.symm hne))

/-- A call that stores at once, or as soon as it has found the cell open. -/
inductive StoresAtOnce : Process K F → Prop
  | store (value : R) (next : Process K F) : StoresAtOnce (.store value next)
  | gate (refusal : Option R) (shut : Process K F) (value : R) (next : Process K F) :
      StoresAtOnce (.gate refusal shut (.store value next))

theorem holder_of_storesAtOnce {q : Process K F} (hq : StoresAtOnce q)
    (hthread : cfg.threads t' = ⟨.done, [q], 0⟩) (hopen : cfg.cell.isOpen = true) :
    ∃ n ≤ 3, (run cfg (List.replicate n t')).cell.holder = some (t', 1) := by
  cases hq with
  | store value next =>
    refine ⟨2, by decide, ?_⟩
    simp [run, step, List.replicate, hthread, Process.exec, Cell.store]
  | gate refusal shut value next =>
    refine ⟨3, by decide, ?_⟩
    simp [run, step, List.replicate, hthread, hopen, Process.exec, Cell.store]

theorem cell_of_reset {isOpen : Bool} (hthread : cfg.threads t' = ⟨.done, [.reset isOpen .done], 0⟩) :
    (run cfg (List.replicate 2 t')).cell = cfg.cell.reset K isOpen := by
  simp [run, step, List.replicate, hthread, Process.exec]

end Late

/-! ### One thread alone

A single thread makes its calls one after the other.  A call runs to its end, or something
stops it after some of its sections. -/

section Sequential

variable {R F : Type} [DecidableEq F] {K : Content R}

namespace Process

def finish (call : CallId) : Process K F → Cell R F → Cell R F
  | .done, cell => cell
  | .gate refusal shut opened, cell =>
    if cell.isOpen then opened.finish call cell
    else match refusal with
    | none => shut.finish call cell
    | some value => shut.finish call (cell.store call value)
  | .store value next, cell => next.finish call (cell.store call value)
  | .patch check p next, cell =>
    if cell.permits K call.1 check then next.finish call (cell.write call p)
    else next.finish call cell
  | .look next, cell =>
    (next (if cell.ownedBy call.1 then some cell.value else none)).finish call cell
  | .reset isOpen next, cell => next.finish call (cell.reset K isOpen)

def advance (call : CallId) : Nat → Process K F → Cell R F → Cell R F
  | 0, _, cell => cell
  | n + 1, p, cell => advance call n (p.exec call cell).2 (p.exec call cell).1

/-- How many sections of a call that finds the cell open come before its first store; calls
that look at the value or refine it before that are not counted. -/
def beforeStore : Process K F → Option Nat
  | .gate _ _ opened => opened.beforeStore.map (· + 1)
  | .store _ _ => some 0
  | _ => none

end Process

/-- Every field of the value comes from the call. -/
def Cell.WrittenBy (cell : Cell R F) (call : CallId) : Prop := ∀ f, cell.origin f = some call

variable {call : CallId} {cell : Cell R F} {p : Process K F}

theorem Process.exec_gate_of_open {refusal : Option R} {shut opened : Process K F}
    (h : cell.isOpen = true) :
    (Process.gate refusal shut opened).exec call cell = (cell, opened) := by
  simp only [Process.exec, h, if_true]

theorem Process.finish_exec (p : Process K F) (cell : Cell R F) :
    p.finish call cell = (p.exec call cell).2.finish call (p.exec call cell).1 := by
  cases p with
  | gate refusal shut opened =>
    cases refusal <;>
    · rw [Process.finish, Process.exec]
      split <;> rfl
  | patch check q next =>
    rw [Process.finish, Process.exec]
    split <;> rfl
  | _ => rfl

theorem Process.advance_done (n : Nat) (cell : Cell R F) :
    (Process.done : Process K F).advance call n cell = cell := by
  induction n with
  | zero => rfl
  | succ n ih => exact ih

theorem Process.exists_advance (p : Process K F) :
    ∀ cell : Cell R F, ∃ n, ∀ m, n ≤ m → p.advance call m cell = p.finish call cell := by
  -- one section more than what the rest of the call takes
  have succ : ∀ {p : Process K F} {cell : Cell R F},
      (∃ n, ∀ m, n ≤ m → (p.exec call cell).2.advance call m (p.exec call cell).1 =
        (p.exec call cell).2.finish call (p.exec call cell).1) →
      ∃ n, ∀ m, n ≤ m → p.advance call m cell = p.finish call cell := by
    rintro p cell ⟨n, hn⟩
    refine ⟨n + 1, fun m hm => ?_⟩
    obtain ⟨m', rfl⟩ : ∃ m', m = m' + 1 := ⟨m - 1, by omega⟩
    rw [p.finish_exec]
    exact hn m' (by omega)
  induction p with
  | done =>
    exact fun cell => ⟨0, fun m _ => Process.advance_done m cell⟩
  | gate refusal shut opened ihShut ihOpened =>
    intro cell
    refine succ ?_
    cases refusal <;>
    · rw [Process.exec]
      split
      · exact ihOpened _
      · exact ihShut _
  | store value next ih => exact fun cell => succ (ih _)
  | patch check q next ih =>
    intro cell
    refine succ ?_
    rw [Process.exec]
    split
    · exact ih _
    · exact ih _
  | look next ih => exact fun cell => succ (ih _ _)
  | reset isOpen next ih => exact fun cell => succ (ih _)

/-- What a section of a call that does not reset can do to the fields and to the cell. -/
structure Touches (call : CallId) (cell cell' : Cell R F) : Prop where
  isOpen : cell'.isOpen = cell.isOpen
  origin : ∀ f, cell'.origin f = cell.origin f ∨ cell'.origin f = some call

omit [DecidableEq F] in
theorem Touches.refl (call : CallId) (cell : Cell R F) : Touches call cell cell :=
  ⟨rfl, fun _ => .inl rfl⟩

omit [DecidableEq F] in
theorem Touches.trans {cell₁ cell₂ cell₃ : Cell R F} (h : Touches call cell₁ cell₂)
    (h' : Touches call cell₂ cell₃) : Touches call cell₁ cell₃ := by
  refine ⟨h'.isOpen.trans h.isOpen, fun f => ?_⟩
  rcases h'.origin f with hf | hf
  · rw [hf]
    exact h.origin f
  · exact .inr hf

omit [DecidableEq F] in
theorem Touches.writtenBy {cell' : Cell R F} (h : Touches call cell cell')
    (hcell : cell.WrittenBy call) : cell'.WrittenBy call := by
  intro f
  rcases h.origin f with hf | hf
  · exact hf.trans (hcell f)
  · exact hf

section NoReset

variable {pr : Profile} {stored : Bool} (hresets : ¬pr.resets)

include hresets

theorem Process.exec_touches (hp : p.Conforms pr stored) : Touches call cell (p.exec call cell).1 ∧
      ∃ stored', (p.exec call cell).2.Conforms pr stored' := by
  have hstore : ∀ value, Touches call cell (cell.store call value) :=
    fun value => ⟨rfl, fun _ => .inr rfl⟩
  cases p with
  | done => exact ⟨.refl _ _, stored, trivial⟩
  | gate refusal shut opened =>
    cases refusal with
    | none =>
      rw [Process.exec]
      split
      · exact ⟨.refl _ _, stored, hp.2.2⟩
      · exact ⟨.refl _ _, _, hp.2.1⟩
    | some value =>
      rw [Process.exec]
      split
      · exact ⟨.refl _ _, stored, hp.2.2⟩
      · exact ⟨hstore value, _, hp.2.1⟩
  | store value next => exact ⟨hstore value, true, hp.2⟩
  | patch check q next =>
    rw [Process.exec]
    split
    · refine ⟨⟨rfl, fun f => ?_⟩, stored, hp.2.2.2⟩
      show (if f ∈ q.fields then some call else cell.origin f) = _ ∨ _
      split
      next hmem => exact .inr (if_pos hmem)
      next => exact .inl rfl
    · exact ⟨.refl _ _, stored, hp.2.2.2⟩
  | look next => exact ⟨.refl _ _, stored, hp _⟩
  | reset isOpen next => exact absurd hp.1 hresets

theorem Process.advance_touches (n : Nat) : ∀ {p : Process K F} {stored : Bool} {cell : Cell R F},
    p.Conforms pr stored → Touches call cell (p.advance call n cell) := by
  induction n with
  | zero => exact fun _ => .refl _ _
  | succ n ih =>
    intro p stored cell hp
    obtain ⟨htouches, stored', hnext⟩ := Process.exec_touches hresets hp
    exact htouches.trans (ih hnext)

/-- **The first store** makes the value that of the call, and it stays so. -/
theorem Process.advance_writtenBy : ∀ {p : Process K F} {stored : Bool} {k n : Nat},
    p.Conforms pr stored → p.beforeStore = some k → cell.isOpen = true → k < n →
    (p.advance call n cell).WrittenBy call
  | .store value next, _, _, n + 1, hp, _, _, _ =>
    (Process.advance_touches hresets n hp.2).writtenBy fun _ => rfl
  | .gate refusal shut opened, _, k, n + 1, hp, hbefore, hopen, hn => by
    obtain ⟨k', hk', rfl⟩ := Option.map_eq_some_iff.mp hbefore
    rw [Process.advance, Process.exec_gate_of_open hopen]
    exact Process.advance_writtenBy hp.2.2 hk' hopen (Nat.lt_of_succ_lt_succ hn)

theorem Process.finish_writtenBy {k : Nat} (hp : p.Conforms pr stored)
    (hbefore : p.beforeStore = some k) (hopen : cell.isOpen = true) :
    (p.finish call cell).WrittenBy call := by
  obtain ⟨n, hn⟩ := p.exists_advance cell
  rw [← hn (max n (k + 1)) (Nat.le_max_left _ _)]
  exact Process.advance_writtenBy hresets hp hbefore hopen
    (Nat.lt_of_lt_of_le (Nat.lt_succ_self k) (Nat.le_max_right _ _))

theorem Process.finish_touches (hp : p.Conforms pr stored) :
    Touches call cell (p.finish call cell) := by
  obtain ⟨n, hn⟩ := p.exists_advance cell
  rw [← hn n (Nat.le_refl n)]
  exact Process.advance_touches hresets n hp

end NoReset

theorem Process.advance_eq_of_le : ∀ {p : Process K F} {k n : Nat}, p.beforeStore = some k →
    cell.isOpen = true → n ≤ k → p.advance call n cell = cell
  | _, _, 0, _, _, _ => rfl
  | .store _ _, k, n + 1, hbefore, _, hn => by
    cases hbefore
    exact absurd hn (Nat.not_succ_le_zero n)
  | .gate refusal shut opened, k, n + 1, hbefore, hopen, hn => by
    obtain ⟨k', hk', rfl⟩ := Option.map_eq_some_iff.mp hbefore
    rw [Process.advance, Process.exec_gate_of_open hopen]
    exact Process.advance_eq_of_le hk' hopen (Nat.le_of_succ_le_succ hn)

end Sequential

end Tamga.OwnedCell
