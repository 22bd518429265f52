/-
Breadth-first search under a depth-dependent admission rule.

A problem consists of a finite pool of nodes, an edge test, a goal test and an
admission test `admits c d`: node `c` may be put on a path above `d` others.
The search keeps a queue and a list of the nodes it has already queued, and
never queues a node twice.  Because a node is admitted or not depending on how
deep it stands, it is not obvious that the first visit of a node is as good as
any later one.  It is, as soon as admission is monotone (`Problem.Monotone`):

* `run_isSome` — the search ends within `pool.length + 2` rounds, on every
  graph, cyclic or not;
* `run_found_iff` — it ends with a goal exactly when a goal can be reached by
  a path whose nodes are all admitted where they stand.

The loop invariant is `Inv`: the nodes processed so far are closed under
admitted edges up to one level, and the queue holds at most two levels.
-/
import Mathlib.Data.List.Chain
import Mathlib.Data.List.Nodup
import Mathlib.Data.List.Pairwise
import Mathlib.Data.List.Lattice
import Mathlib.Data.Finset.Card

namespace BreadthFirst

open List

/-- A search problem over nodes of type `α`. -/
structure Problem (α : Type) where
  pool : List α
  edge : α → α → Bool
  admits : α → Nat → Bool
  goal : α → Bool

/-- A node admitted above `n` others is admitted above fewer. -/
def Problem.Monotone {α : Type} (P : Problem α) : Prop :=
  ∀ c m n, m ≤ n → P.admits c n = true → P.admits c m = true

/-- `Reach P s d x`: a path of `d` admitted pool nodes leads from `s` to `x`. -/
inductive Reach {α : Type} (P : Problem α) (s : α) : Nat → α → Prop
  | start : Reach P s 0 s
  | step {d : Nat} {x y : α} (hx : Reach P s d x) (hy : y ∈ P.pool)
      (he : P.edge x y = true) (ha : P.admits y d = true) : Reach P s (d + 1) y

/-- The state of the loop: the queued nodes with their depth, and every node
that was ever queued. -/
structure State (α : Type) where
  queue : List (α × Nat)
  seen : List α

inductive Outcome (α : Type) where
  | found (x : α) (d : Nat)
  | exhausted

variable {α : Type} [DecidableEq α]

/-- One pass over the pool: queue every node that passes `ok` and was not seen
before, marking it as seen at once. -/
def expand (ok : α → Bool) : List α → List α → List α × List α
  | [], seen => ([], seen)
  | c :: cs, seen =>
    if c ∈ seen then expand ok cs seen
    else if ok c then
      let r := expand ok cs (c :: seen)
      (c :: r.1, r.2)
    else expand ok cs seen

def step (P : Problem α) (st : State α) : State α ⊕ Outcome α :=
  match st.queue with
  | [] => .inr .exhausted
  | (x, d) :: rest =>
    if P.goal x then .inr (.found x d)
    else
      let r := expand (fun c => P.edge x c && P.admits c d) P.pool st.seen
      .inl ⟨rest ++ r.1.map (fun c => (c, d + 1)), r.2⟩

/-- The loop with a bound on its rounds; `none` means the bound was hit. -/
def run (P : Problem α) : Nat → State α → Option (Outcome α)
  | 0, _ => none
  | n + 1, st =>
    match step P st with
    | .inl st' => run P n st'
    | .inr o => some o

def init (s : α) : State α := ⟨[(s, 0)], [s]⟩

/-! ### Paths as lists -/

/-- A path from `s` through the pool nodes `cs`, the first of them next to `s`:
every node is admitted above the ones that stand before it. -/
structure Path (P : Problem α) (s : α) (cs : List α) : Prop where
  pooled : ∀ c ∈ cs, c ∈ P.pool
  linked : List.IsChain (fun a b => P.edge a b = true) (s :: cs)
  admitted : ∀ i (h : i < cs.length), P.admits (cs.get ⟨i, h⟩) i = true

omit [DecidableEq α] in
theorem Path.concat {P : Problem α} {s x y : α} {cs : List α} (h : Path P s cs)
    (hlast : (s :: cs).getLast? = some x) (hy : y ∈ P.pool) (he : P.edge x y = true)
    (ha : P.admits y cs.length = true) : Path P s (cs ++ [y]) where
  pooled := forall_mem_append.mpr ⟨h.pooled, forall_mem_singleton.mpr hy⟩
  linked := by
    rw [← cons_append]
    refine h.linked.append (.singleton y) ?_
    intro a ha' b hb
    rw [hlast, Option.mem_some_iff] at ha'
    rw [List.head?_cons, Option.mem_some_iff] at hb
    exact ha' ▸ hb ▸ he
  admitted := by
    intro i hi
    rw [length_append, length_singleton] at hi
    by_cases hlt : i < cs.length
    · simpa [getElem_append_left hlt] using h.admitted i hlt
    · have : i = cs.length := by omega
      subst this
      simpa using ha

omit [DecidableEq α] in
theorem Path.of_concat {P : Problem α} {s y : α} {cs : List α} (h : Path P s (cs ++ [y])) :
    Path P s cs ∧ y ∈ P.pool ∧ P.admits y cs.length = true ∧
      ∀ x, (s :: cs).getLast? = some x → P.edge x y = true := by
  have hl := h.linked
  rw [← cons_append, isChain_append] at hl
  refine ⟨⟨fun c hc => h.pooled c (mem_append_left _ hc), hl.1, ?_⟩,
    h.pooled y (by simp), ?_, ?_⟩
  · intro i hi
    have := h.admitted i (by rw [length_append]; omega)
    simpa [getElem_append_left hi] using this
  · have := h.admitted cs.length (by simp)
    simpa using this
  · intro x hx
    exact hl.2.2 x hx y (by simp)

omit [DecidableEq α] in
theorem reach_iff_path {P : Problem α} {s x : α} {d : Nat} :
    Reach P s d x ↔ ∃ cs, Path P s cs ∧ cs.length = d ∧ (s :: cs).getLast? = some x := by
  constructor
  · intro h
    induction h with
    | start => exact ⟨[], ⟨by simp, .singleton s, by simp⟩, rfl, rfl⟩
    | @step d w y _ hy he ha ih =>
      obtain ⟨cs, hp, hlen, hlast⟩ := ih
      refine ⟨cs ++ [y], hp.concat hlast hy he (hlen ▸ ha), by simp [hlen], ?_⟩
      rw [← cons_append, List.getLast?_append, List.getLast?_singleton]
      rfl
  · rintro ⟨cs, hp, hlen, hlast⟩
    induction cs using List.reverseRecOn generalizing d x with
    | nil =>
      simp only [length_nil, List.getLast?_singleton, Option.some.injEq] at hlen hlast
      subst hlen hlast
      exact .start
    | append_singleton cs y ih =>
      obtain ⟨hp', hy, ha, he⟩ := hp.of_concat
      obtain ⟨w, hw⟩ : ∃ w, (s :: cs).getLast? = some w :=
        ⟨_, List.getLast?_eq_some_getLast (cons_ne_nil s cs)⟩
      have hr := ih hp' rfl hw
      rw [length_append, length_singleton] at hlen
      rw [← cons_append, List.getLast?_append, List.getLast?_singleton] at hlast
      simp only [Option.some_or, Option.some.injEq] at hlast
      subst hlen hlast
      exact .step hr hy (he w hw) ha

/-! ### One pass over the pool -/

theorem mem_expand_fst (ok : α → Bool) : ∀ (cs seen : List α) (y : α),
    y ∈ (expand ok cs seen).1 ↔ y ∈ cs ∧ ok y = true ∧ y ∉ seen := by
  intro cs
  induction cs with
  | nil => intro seen y; simp [expand]
  | cons c cs ih =>
    intro seen y
    rw [expand]
    by_cases hyc : y = c
    · subst hyc
      split_ifs with hc hok
      · simp [ih, hc]
      · simp [hc, hok]
      · simp [ih, hok]
    · split_ifs <;> simp [ih, hyc]

theorem mem_expand_snd (ok : α → Bool) : ∀ (cs seen : List α) (y : α),
    y ∈ (expand ok cs seen).2 ↔ y ∈ seen ∨ y ∈ (expand ok cs seen).1 := by
  intro cs
  induction cs with
  | nil => intro seen y; simp [expand]
  | cons c cs ih =>
    intro seen y
    rw [expand]
    split_ifs with hc hok
    · exact ih seen y
    · simp only [ih, mem_cons]
      tauto
    · exact ih seen y

theorem expand_fst_nodup (ok : α → Bool) : ∀ cs seen : List α, (expand ok cs seen).1.Nodup := by
  intro cs
  induction cs with
  | nil => intro seen; simp [expand]
  | cons c cs ih =>
    intro seen
    rw [expand]
    split_ifs with hc hok
    · exact ih seen
    · refine nodup_cons.mpr ⟨fun hmem => ?_, ih _⟩
      exact ((mem_expand_fst ok _ _ _).mp hmem).2.2 (mem_cons_self ..)
    · exact ih seen

/-! ### The loop invariant -/

/-- What holds before every round, with `done` the nodes already processed. -/
structure Inv (P : Problem α) (s : α) (done : List (α × Nat)) (st : State α) : Prop where
  /-- Every recorded depth is the length of an admitted path. -/
  sound : ∀ e ∈ done ++ st.queue, Reach P s e.2 e.1
  nodup : ((done ++ st.queue).map Prod.fst).Nodup
  seen_iff : ∀ x, x ∈ st.seen ↔ x ∈ (done ++ st.queue).map Prod.fst
  started : (s, 0) ∈ done ++ st.queue
  sorted : (done ++ st.queue).Pairwise (fun a b => a.2 ≤ b.2)
  /-- The queue holds at most two levels. -/
  levels : ∀ a ∈ st.queue.head?, ∀ e ∈ st.queue, e.2 ≤ a.2 + 1
  /-- Admitted successors of a processed node were queued at most one deeper. -/
  closed : ∀ e ∈ done, ∀ y ∈ P.pool, P.edge e.1 y = true → P.admits y e.2 = true →
    ∃ d', (y, d') ∈ done ++ st.queue ∧ d' ≤ e.2 + 1
  depth_le : ∀ e ∈ st.queue, e.2 ≤ done.length
  noGoal : ∀ e ∈ done, P.goal e.1 = false

omit [DecidableEq α] in
theorem inv_init (P : Problem α) (s : α) : Inv P s [] (init s) where
  sound := by
    intro e he
    simp only [init, nil_append, mem_singleton] at he
    subst he
    exact .start
  nodup := by simp [init]
  seen_iff := by intro x; simp [init]
  started := by simp [init]
  sorted := by simp [init]
  levels := by simp [init]
  closed := by simp
  depth_le := by simp [init]
  noGoal := by simp

/-- One round keeps the invariant, moving the head of the queue to `done`. -/
theorem inv_step {P : Problem α} {s x : α} {d : Nat} {done rest : List (α × Nat)}
    {seen : List α} (h : Inv P s done ⟨(x, d) :: rest, seen⟩) (hg : P.goal x = false) :
    let r := expand (fun c => P.edge x c && P.admits c d) P.pool seen
    Inv P s (done ++ [(x, d)]) ⟨rest ++ r.1.map (fun c => (c, d + 1)), r.2⟩ := by
  intro r
  have hx : Reach P s d x := h.sound (x, d) (by simp)
  have hnew : ∀ y, y ∈ r.1 ↔ y ∈ P.pool ∧ (P.edge x y = true ∧ P.admits y d = true) ∧ y ∉ seen := by
    intro y
    rw [show r.1 = (expand (fun c => P.edge x c && P.admits c d) P.pool seen).1 from rfl,
      mem_expand_fst, Bool.and_eq_true]
  -- the recorded entries are the old ones followed by the new ones
  have hall : (done ++ [(x, d)]) ++ (rest ++ r.1.map (fun c => (c, d + 1)))
      = (done ++ (x, d) :: rest) ++ r.1.map (fun c => (c, d + 1)) := by
    simp
  have hold : ∀ e ∈ done ++ (x, d) :: rest, e.2 ≤ d + 1 := by
    refine forall_mem_append.mpr ⟨fun e he => ?_, h.levels (x, d) (by simp)⟩
    have := (pairwise_append.mp h.sorted).2.2 e he (x, d) (by simp)
    omega
  have hnewSeen : ∀ y ∈ r.1, y ∉ (done ++ (x, d) :: rest).map Prod.fst := by
    intro y hy hmem
    exact ((hnew y).mp hy).2.2 ((h.seen_iff y).mpr hmem)
  refine ⟨?_, ?_, ?_, ?_, ?_, ?_, ?_, ?_, ?_⟩
  · rw [hall]
    refine forall_mem_append.mpr ⟨h.sound, forall_mem_map.mpr fun y hy => ?_⟩
    obtain ⟨hyp, ⟨he1, he2⟩, _⟩ := (hnew y).mp hy
    exact .step hx hyp he1 he2
  · rw [hall, map_append, nodup_append]
    refine ⟨h.nodup, ?_, ?_⟩
    · simpa [Function.comp_def] using expand_fst_nodup _ P.pool seen
    · intro a ha b hb hab
      subst hab
      simp only [map_map, Function.comp_def, map_id'] at hb
      exact hnewSeen a hb ha
  · intro y
    rw [hall, map_append, mem_append]
    show y ∈ (expand _ P.pool seen).2 ↔ _
    rw [mem_expand_snd, h.seen_iff]
    simp [r, Function.comp_def]
  · rw [hall]
    exact mem_append_left _ h.started
  · rw [hall, pairwise_append]
    refine ⟨h.sorted, ?_, ?_⟩
    · rw [pairwise_map]
      exact pairwise_of_forall (fun _ _ => le_refl _)
    · intro a ha b hb
      obtain ⟨y, _, rfl⟩ := mem_map.mp hb
      exact hold a ha
  · -- the new head stands at depth `d` or `d + 1`, everything else at most at `d + 1`
    intro a ha e he
    have hrest := (pairwise_cons.mp (pairwise_append.mp h.sorted).2.1).1
    have hlow : ∀ e ∈ rest ++ r.1.map (fun c => (c, d + 1)), d ≤ e.2 :=
      forall_mem_append.mpr ⟨hrest, forall_mem_map.mpr fun _ _ => Nat.le_succ d⟩
    have hhigh : ∀ e ∈ rest ++ r.1.map (fun c => (c, d + 1)), e.2 ≤ d + 1 :=
      forall_mem_append.mpr ⟨fun e he => hold e (by simp [he]),
        forall_mem_map.mpr fun _ _ => le_refl _⟩
    have had := hlow a (mem_of_mem_head? ha)
    have hed := hhigh e he
    omega
  · intro e he y hy hedge hadm
    rw [hall]
    rcases mem_append.mp he with he | he
    · obtain ⟨d', hd', hle⟩ := h.closed e he y hy hedge hadm
      exact ⟨d', mem_append_left _ hd', hle⟩
    rw [mem_singleton] at he
    subst he
    by_cases hseen : y ∈ seen
    · -- an earlier visit stands at most one level deeper than `x`
      obtain ⟨e', he', rfl⟩ := mem_map.mp ((h.seen_iff y).mp hseen)
      exact ⟨e'.2, mem_append_left _ he', hold e' he'⟩
    · have hy' : y ∈ r.1 := (hnew y).mpr ⟨hy, ⟨hedge, hadm⟩, hseen⟩
      exact ⟨d + 1, mem_append_right _ (mem_map.mpr ⟨y, hy', rfl⟩), le_refl _⟩
  · rw [length_append, length_singleton]
    obtain ⟨hhead, htail⟩ := forall_mem_cons.mp h.depth_le
    refine forall_mem_append.mpr ⟨fun e he => ?_, forall_mem_map.mpr fun _ _ => ?_⟩
    · exact Nat.le_succ_of_le (htail e he)
    · exact Nat.succ_le_succ hhead
  · exact forall_mem_append.mpr ⟨h.noGoal, forall_mem_singleton.mpr hg⟩

omit [DecidableEq α] in
theorem Inv.length_le {P : Problem α} {s : α} {done : List (α × Nat)} {st : State α}
    (h : Inv P s done st) : done.length + st.queue.length ≤ P.pool.length + 1 := by
  have hsub : (done ++ st.queue).map Prod.fst ⊆ s :: P.pool := by
    intro x hx
    obtain ⟨⟨y, d⟩, he, rfl⟩ := mem_map.mp hx
    cases h.sound (y, d) he with
    | start => exact mem_cons_self ..
    | step _ hy _ _ => exact mem_cons_of_mem _ hy
  have hle := (h.nodup.subperm hsub).length_le
  simpa using hle

omit [DecidableEq α] in
theorem Inv.depth_le_pool {P : Problem α} {s : α} {done : List (α × Nat)} {st : State α}
    (h : Inv P s done st) : ∀ e ∈ st.queue, e.2 ≤ P.pool.length := by
  intro e he
  have h1 := h.depth_le e he
  have h2 := h.length_le
  have h3 : 0 < st.queue.length := length_pos_of_mem he
  omega

omit [DecidableEq α] in
/-- With an empty queue, every reachable node was processed, and no later than
at the depth at which it can be reached. -/
theorem Inv.complete {P : Problem α} {s : α} {done : List (α × Nat)} {seen : List α}
    (hm : P.Monotone) (h : Inv P s done ⟨[], seen⟩) {d : Nat} {x : α} (hx : Reach P s d x) :
    ∃ d' ≤ d, (x, d') ∈ done := by
  induction hx with
  | start =>
    have h0 := h.started
    rw [append_nil] at h0
    exact ⟨0, le_refl _, h0⟩
  | step _ hy he ha ih =>
    obtain ⟨d', hd', hmem⟩ := ih
    obtain ⟨d'', hmem', hle⟩ := h.closed _ hmem _ hy he (hm _ _ _ hd' ha)
    rw [append_nil] at hmem'
    exact ⟨d'', by omega, hmem'⟩

/-! ### Whole runs -/

theorem Inv.next {P : Problem α} {s : α} {done : List (α × Nat)} {st st' : State α}
    (h : Inv P s done st) (hstep : step P st = .inl st') : ∃ done', Inv P s done' st' := by
  obtain ⟨queue, seen⟩ := st
  rcases queue with _ | ⟨⟨x, d⟩, rest⟩
  · simp [step] at hstep
  · cases hg : P.goal x with
    | true => simp [step, hg] at hstep
    | false =>
      simp only [step, hg, Bool.false_eq_true, if_false, Sum.inl.injEq] at hstep
      subst hstep
      exact ⟨_, inv_step h hg⟩

/-- A run from a state that satisfies the invariant either finds a reachable
goal or ends in a state with an empty queue. -/
theorem run_spec {P : Problem α} {s : α} : ∀ (n : Nat) {done : List (α × Nat)} {st : State α},
    Inv P s done st → P.pool.length + 2 ≤ n + done.length →
      (∃ x d, run P n st = some (.found x d) ∧ P.goal x = true ∧ Reach P s d x) ∨
      (run P n st = some .exhausted ∧ ∃ done' seen', Inv P s done' ⟨[], seen'⟩) := by
  intro n
  induction n with
  | zero =>
    intro done st h hn
    have := h.length_le
    omega
  | succ n ih =>
    intro done st h hn
    obtain ⟨queue, seen⟩ := st
    rcases queue with _ | ⟨⟨x, d⟩, rest⟩
    · exact Or.inr ⟨by simp [run, step], done, seen, h⟩
    cases hg : P.goal x with
    | true =>
      exact Or.inl ⟨x, d, by simp [run, step, hg], hg, h.sound (x, d) (by simp)⟩
    | false =>
      have h' := inv_step h hg
      have hrun : run P (n + 1) ⟨(x, d) :: rest, seen⟩
          = run P n ⟨rest ++ (expand (fun c => P.edge x c && P.admits c d) P.pool seen).1.map
              (fun c => (c, d + 1)),
            (expand (fun c => P.edge x c && P.admits c d) P.pool seen).2⟩ := by
        simp [run, step, hg]
      rw [hrun]
      refine ih h' ?_
      rw [length_append, length_singleton]
      omega

/-- **Termination**: the loop ends after at most one round per node. -/
theorem run_isSome (P : Problem α) (s : α) :
    (run P (P.pool.length + 2) (init s)).isSome = true := by
  rcases run_spec (P.pool.length + 2) (inv_init P s) (by simp) with ⟨x, d, h, _⟩ | ⟨h, _⟩
  · rw [h]; rfl
  · rw [h]; rfl

/-- **Soundness and completeness**: the search finds a goal exactly when one is
reachable along admitted nodes. -/
theorem run_found_iff {P : Problem α} (hm : P.Monotone) (s : α) :
    (∃ x d, run P (P.pool.length + 2) (init s) = some (.found x d)) ↔
      ∃ x d, Reach P s d x ∧ P.goal x = true := by
  rcases run_spec (P.pool.length + 2) (inv_init P s) (by simp) with
    ⟨x, d, h, hg, hr⟩ | ⟨h, done, seen, hinv⟩
  · exact ⟨fun _ => ⟨x, d, hr, hg⟩, fun _ => ⟨x, d, h⟩⟩
  constructor
  · rintro ⟨x, d, hx⟩
    rw [h] at hx
    exact absurd hx (by simp)
  · rintro ⟨x, d, hr, hg⟩
    obtain ⟨d', _, hmem⟩ := hinv.complete hm hr
    have := hinv.noGoal (x, d') hmem
    rw [hg] at this
    exact absurd this (by simp)

end BreadthFirst
