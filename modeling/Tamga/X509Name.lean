/-
`util/X509Name`: object identifiers as text.

`oidToString` splits the first octet by 40, whatever it is, and collects each further arc in
an `unsigned long` of `bits` bits.

* `oidArcs_subidentifiers` — the loop takes every arc modulo the range of the type;
* `oidToString_dotted_iff` — the identifiers whose text is the dotted-decimal form.
-/
import Mathlib.Algebra.Group.Nat.Defs
import Tamga.DerTlv

namespace Tamga.Util

open List

/-- Numbers in decimal, with dots between them. -/
def dottedText (arcs : List Nat) : String :=
  String.ofList (['.'].intercalate (arcs.map (Nat.toDigits 10)))

/-- The loop of `OidToString`: the arcs that are printed. -/
def oidArcs (bits : Nat) : Nat → Bytes → List Nat
  | _, [] => []
  | arc, octet :: rest =>
    let arc := (arc <<< 7 ||| (octet &&& 0x7F).toNat) % 2 ^ bits
    if octet &&& 0x80 = 0 then arc :: oidArcs bits 0 rest else oidArcs bits arc rest

def oidToString (bits : Nat) : Bytes → String
  | [] => ""
  | first :: rest => dottedText (first.toNat / 40 :: first.toNat % 40 :: oidArcs bits 0 rest)

/-! ### Identifiers and their encoding -/

/-- An object identifier. -/
structure Oid where
  first : Nat
  second : Nat
  further : List Nat
  first_le : first ≤ 2
  second_lt : first < 2 → second < 40

/-- The octets of a number in base 128 that are continued. -/
def continuedOctets : Nat → Nat → Bytes
  | 0, _ => []
  | fuel + 1, n =>
    if n = 0 then [] else continuedOctets fuel (n / 128) ++ [UInt8.ofNat (n % 128 + 128)]

/-- A subidentifier: seven bits in each octet, the last one without the high bit. -/
def subidentifier (n : Nat) : Bytes := continuedOctets n (n / 128) ++ [UInt8.ofNat (n % 128)]

/-- The content octets; the first two arcs share a subidentifier. -/
def Oid.contents (oid : Oid) : Bytes :=
  subidentifier (40 * oid.first + oid.second) ++ oid.further.flatMap subidentifier

def Oid.dotted (oid : Oid) : String := dottedText (oid.first :: oid.second :: oid.further)

/-! ### What the loop reads -/

section

variable (bits : Nat)

/-- One octet is put behind what was collected, in the arithmetic of the type. -/
theorem collect_octet {octet : UInt8} {n : Nat} (h : octet.toNat % 128 = n % 128) :
    ((n / 128 % 2 ^ bits) <<< 7 ||| (octet &&& 0x7F).toNat) % 2 ^ bits = n % 2 ^ bits := by
  rw [(high_bit octet).2, h, ← Nat.shiftLeft_add_eq_or_of_lt (Nat.mod_lt _ (by decide)),
    Nat.shiftLeft_eq, Nat.add_mod, Nat.mul_mod, Nat.mod_mod, ← Nat.mul_mod, ← Nat.add_mod,
    Nat.div_add_mod']

theorem oidArcs_continued (rest : Bytes) {fuel n : Nat} (h : n ≤ fuel) :
    oidArcs bits 0 (continuedOctets fuel n ++ rest) = oidArcs bits (n % 2 ^ bits) rest := by
  induction fuel generalizing n rest with
  | zero =>
    rw [Nat.le_zero.mp h, Nat.zero_mod]
    rfl
  | succ fuel ih =>
    rw [continuedOctets]
    by_cases hn : n = 0
    · rw [if_pos hn, hn, Nat.zero_mod]
      rfl
    have hoctet : (UInt8.ofNat (n % 128 + 128)).toNat = n % 128 + 128 := by
      rw [UInt8.toNat_ofNat']
      omega
    rw [if_neg hn, append_assoc, ih _ (by omega), singleton_append, oidArcs,
      collect_octet bits (by omega), if_neg]
    rw [(high_bit _).1, hoctet]
    omega

theorem oidArcs_subidentifiers (arcs : List Nat) :
    oidArcs bits 0 (arcs.flatMap subidentifier) = arcs.map (· % 2 ^ bits) := by
  induction arcs with
  | nil => rfl
  | cons arc arcs ih =>
    have hoctet : (UInt8.ofNat (arc % 128)).toNat = arc % 128 := by
      rw [UInt8.toNat_ofNat']
      omega
    rw [flatMap_cons, subidentifier, append_assoc,
      oidArcs_continued bits _ (Nat.div_le_self ..), singleton_append, oidArcs,
      collect_octet bits (by omega), if_pos, ih, map_cons]
    rw [(high_bit _).1, hoctet]
    omega

end

/-! ### The identifiers that are printed as they are -/

theorem continuedOctets_high {fuel n : Nat} :
    ∀ octet ∈ continuedOctets fuel n, 128 ≤ octet.toNat := by
  induction fuel generalizing n with
  | zero => exact fun _ h => absurd h not_mem_nil
  | succ fuel ih =>
    intro octet h
    rw [continuedOctets] at h
    split at h
    · exact absurd h not_mem_nil
    · rcases mem_append.mp h with h | h
      · exact ih octet h
      · rw [mem_singleton.mp h, UInt8.toNat_ofNat']
        omega

theorem subidentifier_cons (n : Nat) : ∃ octet rest, subidentifier n = octet :: rest ∧
    (octet.toNat = n ∧ rest = [] ∨ 128 ≤ n ∧ 128 ≤ octet.toNat) := by
  rw [subidentifier]
  by_cases hn : n < 128
  · refine ⟨UInt8.ofNat n, [], ?_, Or.inl ⟨Nat.mod_eq_of_lt (by omega), rfl⟩⟩
    rw [Nat.div_eq_of_lt hn, Nat.mod_eq_of_lt hn]
    cases n <;> rfl
  cases h : continuedOctets n (n / 128) with
  | nil =>
    obtain ⟨k, rfl⟩ : ∃ k, n = k + 1 := ⟨n - 1, by omega⟩
    rw [continuedOctets, if_neg (by omega)] at h
    exact absurd h (by simp)
  | cons octet rest =>
    exact ⟨octet, _, rfl, Or.inr ⟨by omega, continuedOctets_high octet (h ▸ mem_cons_self ..)⟩⟩

theorem dottedText_inj {arcs arcs' : List Nat} (hne : arcs ≠ []) (hne' : arcs' ≠ []) :
    dottedText arcs = dottedText arcs' ↔ arcs = arcs' := by
  have hsplit : ∀ {arcs : List Nat}, arcs ≠ [] →
      ((dottedText arcs).toList.splitOn '.').map (Nat.ofDigitChars 10 · 0) = arcs := by
    intro arcs hne
    rw [dottedText, String.toList_ofList, splitOn_intercalate _ _ (by simpa using hne),
      map_map]
    · exact (map_congr_left fun n _ => Nat.ofDigitChars_ten_toDigits).trans (map_id _)
    · intro l hl hdot
      obtain ⟨n, -, rfl⟩ := mem_map.mp hl
      exact absurd (Nat.isDigit_of_mem_toDigits (by decide) (Nat.le_refl 10) hdot) (by decide)
  exact ⟨fun h => by rw [← hsplit hne, h, hsplit hne'], congrArg _⟩

/-- **Which identifiers are printed as they are**: the second arc is below 40, under the arc
`2` as well, and no further arc exceeds the range of an `unsigned long`. -/
theorem oidToString_dotted_iff (bits : Nat) (oid : Oid) :
    oidToString bits oid.contents = oid.dotted ↔
      oid.second < 40 ∧ ∀ arc ∈ oid.further, arc < 2 ^ bits := by
  have hfirst := oid.first_le
  obtain ⟨octet, rest, hsub, hoctet⟩ := subidentifier_cons (40 * oid.first + oid.second)
  rw [Oid.contents, hsub, cons_append, oidToString, Oid.dotted,
    dottedText_inj (cons_ne_nil _ _) (cons_ne_nil _ _), List.cons.injEq, List.cons.injEq]
  by_cases h : oid.second < 40
  · obtain ⟨hvalue, rfl⟩ : octet.toNat = _ ∧ rest = [] := hoctet.resolve_right (by omega)
    rw [nil_append, oidArcs_subidentifiers]
    refine ⟨fun heq => ⟨h, fun arc harc => ?_⟩, fun hsmall => ⟨by omega, by omega, ?_⟩⟩
    · have hmod := map_inj_left.mp (heq.2.2.trans (map_id _).symm)
      rw [← show arc % 2 ^ bits = arc from hmod arc harc]
      exact Nat.mod_lt _ (Nat.two_pow_pos bits)
    · rw [map_congr_left fun arc harc => Nat.mod_eq_of_lt (hsmall.2 arc harc), map_id']
  · -- the identifier starts with the arc `2`, and its first octet is at least 120
    exact iff_of_false (fun heq => by omega) fun hc => h hc.1

/-- The identifiers `2.40` and `2.999.3` are printed as others, and two identifiers alike. -/
theorem oid_printed_as_another :
    oidToString 64 (Oid.contents ⟨2, 40, [], by decide, by decide⟩) = "3.0" ∧
      oidToString 64 (Oid.contents ⟨2, 999, [3], by decide, by decide⟩) = "3.16.55.3" ∧
      oidToString 64 (Oid.contents ⟨1, 2, [2 ^ 64], by decide, by decide⟩) =
        oidToString 64 (Oid.contents ⟨1, 2, [0], by decide, by decide⟩) := by
  decide +kernel

end Tamga.Util
