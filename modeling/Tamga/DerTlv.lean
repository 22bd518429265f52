/-
`util/Der`: the one reader of DER tag-length-value triples.

`std::size_t` has `w` bytes (eight, or four in the 32-bit build); sums and shifts
are taken modulo its range, as the machine does.

* `parseTlvAt_eq` — the triple that the octets state, or nothing for one of five reasons;
* `parseTlvAt_exact` — an accepted triple lies inside the limit, without wrap-around.
-/
import Mathlib.Algebra.Group.Nat.Defs
import Tamga.Basic
import Tamga.Span

namespace Tamga.Util

open Spans

structure TlvView where
  tag : UInt8
  valueOffset : Nat
  valueLength : Nat
  nextOffset : Nat
  deriving DecidableEq, Repr

/-- The number of values of `std::size_t`. -/
def sizeRange (w : Nat) : Nat := 2 ^ (8 * w)

/-- One octet of a long-form length.  The reader stops before the shift would lose
the high bits. -/
def lengthStep (w length : Nat) (octet : UInt8) : Option Nat :=
  if length > (sizeRange w - 1) >>> 8 then none
  else some (((length <<< 8) ||| octet.toNat) % sizeRange w)

/-- `ParseDerLength`: the offset of the value and its length. -/
def parseDerLength (w : Nat) (data : Bytes) (limit offset : Nat) : Option (Nat × Nat) :=
  -- The vector overload never looks past the buffer.
  let limit := min limit data.length
  if offset ≥ limit then none
  else
    let first := data.getD offset 0
    if first &&& 0x80 = 0 then
      if Span.fits ⟨offset + 1, first.toNat⟩ limit then some (offset + 1, first.toNat) else none
    else
      let count := (first &&& 0x7F).toNat
      if count = 0 ∨ count > w ∨ Span.fits ⟨offset + 1, count⟩ limit = false then none
      else
        match (cut data ⟨offset + 1, count⟩).foldlM (lengthStep w) 0 with
        | none => none
        | some length =>
          if Span.fits ⟨offset + 1 + count, length⟩ limit then some (offset + 1 + count, length)
          else none

def parseTlvAt (w : Nat) (data : Bytes) (offset limit : Nat) : Option TlvView :=
  if offset ≥ min limit data.length then none
  else
    match parseDerLength w data limit (offset + 1) with
    | none => none
    | some (valueOffset, valueLength) =>
      some {
        tag := data.getD offset 0
        valueOffset
        valueLength
        nextOffset := (valueOffset + valueLength) % sizeRange w }

/-! ### What the length octets say -/

/-- The number written by octets, the most significant one first. -/
def octetsValue (octets : Bytes) : Nat := octets.foldl (fun n octet => n * 256 + octet.toNat) 0

/-- The number of length octets after the first one; none in the short form. -/
def longOctets (first : UInt8) : Nat := if first.toNat < 0x80 then 0 else first.toNat % 0x80

/-- The length stated at an offset, as a number without bound. -/
def statedLength (data : Bytes) (offset : Nat) : Nat :=
  let first := data.getD offset 0
  if first.toNat < 0x80 then first.toNat
  else octetsValue (cut data ⟨offset + 1, longOctets first⟩)

/-- Where the value starts after the length at an offset. -/
def valueStart (data : Bytes) (offset : Nat) : Nat := offset + 1 + longOctets (data.getD offset 0)

/-- Why a length is refused: no octet is left, the form is indefinite, there are more length octets
than a `std::size_t` has bytes, or the limit cuts off them or the value. -/
def LengthFault (w : Nat) (data : Bytes) (limit offset : Nat) : Prop :=
  limit ≤ offset ∨ data.getD offset 0 = 0x80 ∨ w < longOctets (data.getD offset 0) ∨
    limit < valueStart data offset ∨ limit < valueStart data offset + statedLength data offset

instance (w : Nat) (data : Bytes) (limit offset : Nat) :
    Decidable (LengthFault w data limit offset) :=
  inferInstanceAs (Decidable (_ ∨ _ ∨ _ ∨ _ ∨ _))

theorem high_bit : ∀ b : UInt8,
    (b &&& 0x80 = 0 ↔ b.toNat < 0x80) ∧ (b &&& 0x7F).toNat = b.toNat % 0x80 :=
  forall_byte (by decide +kernel)

/-- As many octets as the type has bytes never reach the overflow guard. -/
theorem foldlM_lengthStep {w : Nat} (octets : Bytes) (length k : Nat) (hk : length < 256 ^ k)
    (hw : k + octets.length ≤ w) :
    octets.foldlM (lengthStep w) length =
      some (octets.foldl (fun n octet => n * 256 + octet.toNat) length) := by
  induction octets generalizing length k with
  | nil => rfl
  | cons octet octets ih =>
    rw [List.length_cons] at hw
    have hoctet := octet.toNat_lt
    have hnext : length * 256 + octet.toNat < 256 ^ (k + 1) := by rw [Nat.pow_succ]; omega
    have hrange : 256 ^ (k + 1) ≤ sizeRange w := by
      rw [sizeRange, Nat.pow_mul]
      exact Nat.pow_le_pow_right (by decide) (by omega)
    have hguard : ¬length > (sizeRange w - 1) >>> 8 := by
      omega
    have hshift : length <<< 8 ||| octet.toNat = length * 256 + octet.toNat := by
      rw [← Nat.shiftLeft_add_eq_or_of_lt hoctet, Nat.shiftLeft_eq]
    rw [List.foldlM_cons, lengthStep, if_neg hguard, hshift, Nat.mod_eq_of_lt (by omega)]
    exact ih _ (k + 1) hnext (by omega)

theorem parseDerLength_eq (w : Nat) (data : Bytes) (limit offset : Nat) :
    parseDerLength w data limit offset =
      if LengthFault w data (min limit data.length) offset then none
      else some (valueStart data offset, statedLength data offset) := by
  rw [parseDerLength]
  have hdata : min limit data.length ≤ data.length := Nat.min_le_right ..
  generalize min limit data.length = m at hdata ⊢
  have hfits : ∀ start n : Nat, Span.fits ⟨start, n⟩ m = true ↔ start + n ≤ m :=
    fun _ _ => Span.fits_iff
  have hbyte := (data.getD offset 0).toNat_lt
  have hindefinite : data.getD offset 0 = 0x80 ↔ (data.getD offset 0).toNat = 0x80 :=
    UInt8.toNat_inj.symm
  obtain ⟨hhigh, hlow⟩ := high_bit (data.getD offset 0)
  have hoctets := foldlM_lengthStep (w := w)
    (cut data ⟨offset + 1, longOctets (data.getD offset 0)⟩) 0 0 (by decide)
  rw [length_cut] at hoctets
  -- In either form the branches of the reader are the reasons of `LengthFault` in turn.
  by_cases hshort : (data.getD offset 0).toNat < 0x80
  · grind [LengthFault, valueStart, statedLength, longOctets]
  · grind [LengthFault, valueStart, statedLength, longOctets, octetsValue]

def statedTlv (data : Bytes) (offset : Nat) : TlvView where
  tag := data.getD offset 0
  valueOffset := valueStart data (offset + 1)
  valueLength := statedLength data (offset + 1)
  nextOffset := valueStart data (offset + 1) + statedLength data (offset + 1)

/-- **The reader of triples**: the stated triple, unless its length is refused.  Nothing wraps
around. -/
theorem parseTlvAt_eq {w : Nat} {data : Bytes} (hsize : data.length < sizeRange w)
    (offset limit : Nat) :
    parseTlvAt w data offset limit =
      if LengthFault w data (min limit data.length) (offset + 1) then none
      else some (statedTlv data offset) := by
  rw [parseTlvAt, parseDerLength_eq]
  by_cases hoffset : offset ≥ min limit data.length
  · rw [if_pos hoffset, if_pos (show LengthFault .. from Or.inl (by omega))]
  rw [if_neg hoffset]
  by_cases hfault : LengthFault w data (min limit data.length) (offset + 1)
  · rw [if_pos hfault, if_pos hfault]
  · rw [if_neg hfault, if_neg hfault]
    simp only [LengthFault, not_or] at hfault
    have hwrap := Nat.mod_eq_of_lt (show valueStart data (offset + 1) +
      statedLength data (offset + 1) < sizeRange w by omega)
    show some (TlvView.mk _ _ _ (_ % _)) = _
    rw [hwrap]
    rfl

/-- **Triples are read exactly.**  In both word sizes an accepted triple has the length that its
octets state and lies inside the limit, and a triple is refused exactly for the reasons of
`LengthFault`. -/
theorem parseTlvAt_exact {w : Nat} {data : Bytes} (hsize : data.length < sizeRange w)
    (offset limit : Nat) :
    (∀ t, parseTlvAt w data offset limit = some t →
      t.tag = data.getD offset 0 ∧ t.valueLength = statedLength data (offset + 1) ∧
        t.valueOffset = valueStart data (offset + 1) ∧
        t.nextOffset = t.valueOffset + t.valueLength ∧ t.nextOffset < sizeRange w ∧
        offset + 1 < t.valueOffset ∧ t.nextOffset ≤ min limit data.length) ∧
    (parseTlvAt w data offset limit = none ↔
      LengthFault w data (min limit data.length) (offset + 1)) := by
  rw [parseTlvAt_eq hsize]
  by_cases hfault : LengthFault w data (min limit data.length) (offset + 1)
  · rw [if_pos hfault]
    exact ⟨fun t h => (Option.some_ne_none t h.symm).elim, iff_of_true rfl hfault⟩
  · rw [if_neg hfault]
    refine ⟨fun t h => ?_, iff_of_false (Option.some_ne_none _) hfault⟩
    obtain rfl := Option.some.inj h
    simp only [LengthFault, not_or] at hfault
    have hstart : offset + 1 < valueStart data (offset + 1) :=
      Nat.lt_add_right _ (Nat.lt_succ_self _)
    exact ⟨rfl, rfl, rfl, rfl, show _ + _ < _ by omega, hstart, show _ + _ ≤ _ by omega⟩

theorem parseTlvAt_exact_integer : [0x02, 0x01, 0x05].length < sizeRange 4 ∧
      (parseTlvAt 4 [0x02, 0x01, 0x05] 0 3).map TlvView.valueLength = some 1 ∧
      (parseTlvAt 4 [0x02, 0x01, 0x05] 0 2 = none ↔ LengthFault 4 [0x02, 0x01, 0x05] 2 1) :=
  ⟨by decide, by decide, (parseTlvAt_exact (by decide) 0 2).2⟩

/-- A tag of more than one octet is not refused, its second octet is read as the length; and a
length that would fit is refused if leading zeros make it longer than a `std::size_t`. -/
theorem tag_continued_and_length_padded :
    (∀ w ∈ [4, 8], parseTlvAt w [0x1F, 0x00] 0 2 = some ⟨0x1F, 2, 0, 2⟩) ∧
      parseTlvAt 4 [0x04, 0x85, 0, 0, 0, 0, 0] 0 7 = none ∧
      statedLength [0x04, 0x85, 0, 0, 0, 0, 0] 1 = 0 := by
  decide

end Tamga.Util
