/-
Certificates in an answer of unknown shape (`CertificateFetcher.cpp`, `HarvestCertificates`).

The scan goes through the octets one by one and jumps over every certificate that it finds.

* `scan_greedy` — what a scan that jumps over its findings returns;
* `harvestCertificates_greedy` — the certificates that are harvested.
-/
import Tamga.DerTlv

namespace Tamga.Fetch

open Spans Util List

/-! ### Greedy scans -/

/-- A loop over the positions before `stop`, with the number of turns that are left.  `find` gives
the length of what is found at a position. -/
def scan (find : Nat → Option Nat) (stop : Nat) : Nat → Nat → Option (List Span)
  | 0, _ => none
  | turns + 1, i =>
    if i < stop then
      match find i with
      | some n => (scan find stop turns (i + n)).map (⟨i, n⟩ :: ·)
      | none => scan find stop turns (i + 1)
    else some []

/-- The good spans from `i` on, in order and without overlaps: whatever is missing starts inside
one of them. -/
structure Greedy (good : Span → Prop) (stop i : Nat) (spans : List Span) : Prop where
  ordered : spans.Pairwise fun a b => a.finish ≤ b.start
  found : ∀ s ∈ spans, i ≤ s.start ∧ good s
  complete : ∀ s, good s → i ≤ s.start → s.start < stop →
    s ∈ spans ∨ ∃ a ∈ spans, a.start < s.start ∧ s.start < a.finish

theorem scan_greedy {find : Nat → Option Nat} {stop : Nat} (hpos : ∀ i n, find i = some n → 0 < n)
    (turns i : Nat) (hturns : stop ≤ turns + i) : ∃ spans, scan find stop (turns + 1) i = some spans ∧
      Greedy (fun s => find s.start = some s.length) stop i spans := by
  induction turns generalizing i with
  | zero => exact ⟨[], if_neg (by omega), .nil, nofun, fun s _ _ _ => by omega⟩
  | succ turns ih =>
    rw [scan]
    split
    · cases hfind : find i with
      | none =>
        obtain ⟨spans, hrun, hspans⟩ := ih (i + 1) (by omega)
        refine ⟨spans, hrun, hspans.ordered, fun s hs => ?_, fun s hs hle hlt => ?_⟩
        · exact ⟨Nat.le_of_succ_le (hspans.found s hs).1, (hspans.found s hs).2⟩
        · -- nothing good starts at `i`
          rcases Nat.eq_or_lt_of_le hle with rfl | hlater
          · rw [hfind] at hs
            cases hs
          · exact hspans.complete s hs hlater hlt
      | some n =>
        have hn := hpos i n hfind
        obtain ⟨spans, hrun, hspans⟩ := ih (i + n) (by omega)
        refine ⟨⟨i, n⟩ :: spans, by simp [hrun], ?_, ?_, fun s hs hle hlt => ?_⟩
        · exact pairwise_cons.mpr ⟨fun s hs => (hspans.found s hs).1, hspans.ordered⟩
        · refine forall_mem_cons.mpr ⟨⟨Nat.le_refl i, hfind⟩, fun s hs => ?_⟩
          exact ⟨Nat.le_of_add_right_le (hspans.found s hs).1, (hspans.found s hs).2⟩
        · rcases Nat.lt_or_ge s.start (i + n) with hin | hout
          · rcases Nat.eq_or_lt_of_le hle with rfl | hinside
            · exact .inl (Option.some.inj (hfind.symm.trans hs) ▸ mem_cons_self)
            · exact .inr ⟨_, mem_cons_self, hinside, hin⟩
          · exact (hspans.complete s hs hout hlt).imp (mem_cons_of_mem _)
              fun ⟨a, ha, hstart⟩ => ⟨a, mem_cons_of_mem _ ha, hstart⟩
    · exact ⟨[], rfl, .nil, nofun, fun s _ _ _ => by omega⟩

/-! ### `HarvestCertificates` -/

section Harvest

variable (w : Nat) (isCertificateDer : Bytes → Bool) (blob : Bytes)

/-- The body of the loop: the length of the certificate that starts at `i`, if one does. -/
def harvestAt (i : Nat) : Option Nat := do
  guard (blob.getD i 0 = 0x30)
  guard (blob.getD (i + 1) 0 &&& 0x80 ≠ 0)
  let tlv ← parseTlvAt w blob i blob.length
  guard (tlv.valueLength ≠ 0)
  guard (isCertificateDer (cut blob ⟨i, tlv.nextOffset - i⟩))
  pure (tlv.nextOffset - i)

/-- `HarvestCertificates`, with the number of turns that its loop may take. -/
def harvestCertificates (turns : Nat) : Option (List Bytes) :=
  if blob.length < 64 then some []
  else (scan (harvestAt w isCertificateDer blob) (blob.length - 4) turns 0).map
    (List.map (cut blob))

/-- A `SEQUENCE` with a length in the long form and some content, which is a certificate. -/
structure Acceptable (s : Span) : Prop where
  isSequence : blob.getD s.start 0 = 0x30
  longForm : ¬(blob.getD (s.start + 1) 0).toNat < 0x80
  readable : ¬LengthFault w blob blob.length (s.start + 1)
  nonempty : statedLength blob (s.start + 1) ≠ 0
  whole : s.finish = (statedTlv blob s.start).nextOffset
  recognised : isCertificateDer (cut blob s) = true

end Harvest

theorem guard_bind_eq_some {p : Prop} [Decidable p] {f : Unit → Option Nat} {n : Nat} :
    (guard p >>= f) = some n ↔ p ∧ f () = some n := by
  rw [guard]
  split <;> simp [*]

section

variable {w : Nat} {isCertificateDer : Bytes → Bool} {blob : Bytes}
  (hsize : blob.length < sizeRange w)

include hsize

theorem harvestAt_eq_some_iff (s : Span) : harvestAt w isCertificateDer blob s.start = some s.length ↔
    Acceptable w isCertificateDer blob s := by
  obtain ⟨i, n⟩ := s
  show harvestAt w _ blob i = some n ↔ _
  have hend : i < (statedTlv blob i).nextOffset := by
    simp only [statedTlv, valueStart]
    omega
  rw [harvestAt, guard_bind_eq_some, guard_bind_eq_some, parseTlvAt_eq hsize, Nat.min_self, ne_eq,
    (high_bit _).1]
  by_cases hfault : LengthFault w blob blob.length (i + 1)
  · rw [if_pos hfault]
    exact iff_of_false (fun h => Option.some_ne_none n h.2.2.symm) fun h => h.readable hfault
  rw [if_neg hfault, Option.bind_eq_bind, Option.bind_some, guard_bind_eq_some, guard_bind_eq_some]
  constructor
  · rintro ⟨hseq, hform, hne, hrec, hn⟩
    obtain rfl := Option.some.inj hn
    exact ⟨hseq, hform, hfault, hne, Nat.add_sub_of_le (Nat.le_of_lt hend), hrec⟩
  · rintro ⟨hseq, hform, -, hne, hwhole, hrec⟩
    obtain rfl : (statedTlv blob i).nextOffset - i = n := Nat.sub_eq_of_eq_add' hwhole.symm
    exact ⟨hseq, hform, hne, hrec, rfl⟩

/-- **Every certificate is harvested, and none inside another one.**  The scan ends after at most
one turn for each octet, with disjoint spans in increasing order, each of them acceptable.  An
acceptable span that does not start in the last four octets is among them, unless it starts inside
one of them. -/
theorem harvestCertificates_greedy (hlong : 64 ≤ blob.length) {turns : Nat}
    (hturns : blob.length ≤ turns) : ∃ spans,
    harvestCertificates w isCertificateDer blob turns = some (spans.map (cut blob)) ∧
      Greedy (Acceptable w isCertificateDer blob) (blob.length - 4) 0 spans := by
  obtain ⟨turns, rfl⟩ := Nat.exists_eq_succ_of_ne_zero (show turns ≠ 0 by omega)
  have hpos : ∀ i n, harvestAt w isCertificateDer blob i = some n → 0 < n := by
    intro i n hn
    have hwhole := ((harvestAt_eq_some_iff hsize ⟨i, n⟩).mp hn).whole
    simp only [Span.finish, statedTlv, valueStart] at hwhole
    omega
  obtain ⟨spans, hrun, hspans⟩ := scan_greedy hpos turns 0 (show blob.length - 4 ≤ _ by omega)
  simp only [harvestAt_eq_some_iff hsize] at hspans
  refine ⟨spans, ?_, hspans⟩
  rw [harvestCertificates, if_neg (Nat.not_lt.mpr hlong), hrun]
  rfl

end

/-- Two certificates in a wrapper of unknown shape: the first has another one inside, and between
them stands a `SEQUENCE` that is none.  A certificate ends in a `NULL` here. -/
def nestedCertificates : Bytes :=
  [0xA0, 0x3E] ++ [0x30, 0x81, 9, 0x30, 0x81, 2, 5, 0, 1, 1, 5, 0] ++ [0x30, 0x81, 1, 7] ++
    [0x30, 0x81, 2, 5, 0] ++ List.replicate 41 0

def endsInNull (der : Bytes) : Bool := [5, 0].isSuffixOf der

/-- The certificate at 5 is acceptable as well, but it lies inside the one at 2. -/
theorem harvestCertificates_greedy_nested :
    Acceptable 4 endsInNull nestedCertificates ⟨5, 5⟩ ∧
    harvestCertificates 4 endsInNull nestedCertificates 64 =
      some [[0x30, 0x81, 9, 0x30, 0x81, 2, 5, 0, 1, 1, 5, 0], [0x30, 0x81, 2, 5, 0]] ∧
    ∃ spans, harvestCertificates 4 endsInNull nestedCertificates 64 =
        some (spans.map (cut nestedCertificates)) ∧
      Greedy (Acceptable 4 endsInNull nestedCertificates) 60 0 spans :=
  ⟨(harvestAt_eq_some_iff (by decide) ⟨5, 5⟩).mp (by decide), by decide +kernel,
    harvestCertificates_greedy (by decide) (by decide) (by decide)⟩

end Tamga.Fetch
