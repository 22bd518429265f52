/-
UTF-8 and UTF-16 (`util/Utf.cpp`), and the path guard of the session
(`SessionHelpers.ipp`), which has a UTF-8 decoder of its own.

A step of a decoder takes one code point off the text.  Each step undoes the Unicode
encoding form of the scalar values, so the loops around them read exactly the
well-formed texts:

* `decodeStep_undoes`, `pathStep_eq`, `unitStep_undoes` — the steps;
* `utf_exact` — what the conversions accept, that they are inverse to each other, and
  that the path guard accepts what the decoder accepts.
-/
import Mathlib.Algebra.Group.Nat.Defs
import Mathlib.Logic.Equiv.Defs
import Tamga.Basic
import Tamga.Chunks
import Tamga.Unicode

namespace Tamga.Util

open Unicode Chunks List

/-! ### Appending a code point -/

/-- `AppendUtf8CodePoint`: the bytes it appends. -/
def appendUtf8CodePoint (codePoint : Nat) : Option Bytes :=
  if codePoint > 0x10FFFF ∨ codePoint ≥ 0xD800 ∧ codePoint ≤ 0xDFFF then none
  else if codePoint ≤ 0x7F then some [UInt8.ofNat codePoint]
  else if codePoint ≤ 0x7FF then
    some [UInt8.ofNat (0xC0 ||| (codePoint >>> 6 &&& 0x1F)),
      UInt8.ofNat (0x80 ||| (codePoint &&& 0x3F))]
  else if codePoint ≤ 0xFFFF then
    some [UInt8.ofNat (0xE0 ||| (codePoint >>> 12 &&& 0x0F)),
      UInt8.ofNat (0x80 ||| (codePoint >>> 6 &&& 0x3F)), UInt8.ofNat (0x80 ||| (codePoint &&& 0x3F))]
  else
    some [UInt8.ofNat (0xF0 ||| (codePoint >>> 18 &&& 0x07)),
      UInt8.ofNat (0x80 ||| (codePoint >>> 12 &&& 0x3F)),
      UInt8.ofNat (0x80 ||| (codePoint >>> 6 &&& 0x3F)), UInt8.ofNat (0x80 ||| (codePoint &&& 0x3F))]

/-- The payload of a byte below its marker bits. -/
theorem marker_or {high width n : Nat} (h : n < 2 ^ width) :
    high * 2 ^ width ||| n = high * 2 ^ width + n := by
  rw [← Nat.shiftLeft_eq, Nat.shiftLeft_add_eq_or_of_lt h]

theorem marker_mod (high width n : Nat) :
    high * 2 ^ width ||| (n &&& (2 ^ width - 1)) = high * 2 ^ width + n % 2 ^ width := by
  rw [Nat.and_two_pow_sub_one_eq_mod, marker_or (Nat.mod_lt _ (Nat.two_pow_pos width))]

theorem continuation_or (n : Nat) : 0x80 ||| (n &&& 0x3F) = 0x80 + n % 64 := marker_mod 2 6 n

theorem lead2_or (n : Nat) : 0xC0 ||| (n &&& 0x1F) = 0xC0 + n % 32 := marker_mod 6 5 n

theorem lead3_or (n : Nat) : 0xE0 ||| (n &&& 0x0F) = 0xE0 + n % 16 := marker_mod 14 4 n

theorem lead4_or (n : Nat) : 0xF0 ||| (n &&& 0x07) = 0xF0 + n % 8 := marker_mod 30 3 n

variable {n : Nat} {text rest : Bytes} {u : List UInt16}

theorem appendUtf8CodePoint_eq (h : IsScalar n) : appendUtf8CodePoint n = some (utf8 n) := by
  rw [IsScalar] at h
  rw [appendUtf8CodePoint, if_neg (by omega), utf8]
  simp only [continuation_or, lead2_or, lead3_or, lead4_or, Nat.shiftRight_eq_div_pow]
  by_cases h₁ : n < 0x80
  · rw [if_pos (by omega), if_pos h₁]
  · rw [if_neg (by omega), if_neg h₁]
    by_cases h₂ : n < 0x800
    · rw [if_pos (by omega), if_pos h₂, Nat.mod_eq_of_lt (a := n / 2 ^ 6) (by omega)]
    · rw [if_neg (by omega), if_neg h₂]
      by_cases h₃ : n < 0x10000
      · rw [if_pos (by omega), if_pos h₃, Nat.mod_eq_of_lt (a := n / 2 ^ 12) (by omega)]
      · rw [if_neg (by omega), if_neg h₃, Nat.mod_eq_of_lt (a := n / 2 ^ 18) (by omega)]

/-! ### Reading a code point from bytes -/

def continuationBytes : Nat → Nat → Bytes → Option (Nat × Bytes)
  | 0, codePoint, text => some (codePoint, text)
  | _ + 1, _, [] => none
  | count + 1, codePoint, continuation :: text =>
    if continuation &&& 0xC0 ≠ 0x80 then none
    else continuationBytes count (codePoint <<< 6 ||| (continuation &&& 0x3F).toNat) text

/-- The values that the decoders turn away after the loop. -/
def outOfRange (count codePoint : Nat) : Prop :=
  count = 1 ∧ codePoint < 0x80 ∨ count = 2 ∧ codePoint < 0x800 ∨
    count = 3 ∧ codePoint < 0x10000 ∨ codePoint > 0x10FFFF ∨
      codePoint ≥ 0xD800 ∧ codePoint ≤ 0xDFFF

instance (count codePoint : Nat) : Decidable (outOfRange count codePoint) :=
  inferInstanceAs (Decidable (_ ∨ _))

/-- The payload of a leading byte and the number of continuation bytes it announces. -/
def leadByte (lead : UInt8) : Option (Nat × Nat) :=
  if lead ≤ 0x7F then some (lead.toNat, 0)
  else if lead &&& 0xE0 = 0xC0 then
    if lead &&& 0x1F = 0 then none else some ((lead &&& 0x1F).toNat, 1)
  else if lead &&& 0xF0 = 0xE0 then some ((lead &&& 0x0F).toNat, 2)
  else if lead &&& 0xF8 = 0xF0 then some ((lead &&& 0x07).toNat, 3)
  else none

/-- What both decoders do after the leading byte: the continuation bytes must be there
and the value in range. -/
def readSequence (count payload : Nat) (text : Bytes) : Option (Nat × Bytes) :=
  if text.length < count then none
  else do
    let (codePoint, rest) ← continuationBytes count payload text
    if outOfRange count codePoint then none else some (codePoint, rest)

/-- One round of the loop of `DecodeUtf8ToUtf16`. -/
def decodeStep : Bytes → Option (Nat × Bytes)
  | [] => none
  | lead :: text => do
    let (payload, count) ← leadByte lead
    readSequence count payload text

/-- The leading bytes as the path guard reads them: it has no case of its own for the
payload 0. -/
def pathLead (lead : UInt8) : Option (Nat × Nat) :=
  if lead &&& 0xE0 = 0xC0 then some ((lead &&& 0x1F).toNat, 1)
  else if lead &&& 0xF0 = 0xE0 then some ((lead &&& 0x0F).toNat, 2)
  else if lead &&& 0xF8 = 0xF0 then some ((lead &&& 0x07).toNat, 3)
  else none

/-- One round of the loop of `IsValidUtf8Path`, which moves on at once after an ASCII
byte. -/
def pathStep : Bytes → Option (Nat × Bytes)
  | [] => none
  | lead :: text =>
    if lead < 0x80 then some (lead.toNat, text)
    else do
      let (payload, extra) ← pathLead lead
      readSequence extra payload text

theorem continuation_mask : ∀ b : UInt8,
    (b &&& 0xC0 = 0x80 ↔ 0x80 ≤ b.toNat ∧ b.toNat < 0xC0) ∧ (b &&& 0x3F).toNat = b.toNat % 64 :=
  forall_byte (by decide +kernel)

theorem lead2_mask : ∀ b : UInt8,
    (b &&& 0xE0 = 0xC0 ↔ 0xC0 ≤ b.toNat ∧ b.toNat < 0xE0) ∧ (b &&& 0x1F).toNat = b.toNat % 32 :=
  forall_byte (by decide +kernel)

theorem lead3_mask : ∀ b : UInt8,
    (b &&& 0xF0 = 0xE0 ↔ 0xE0 ≤ b.toNat ∧ b.toNat < 0xF0) ∧ (b &&& 0x0F).toNat = b.toNat % 16 :=
  forall_byte (by decide +kernel)

theorem lead4_mask : ∀ b : UInt8,
    (b &&& 0xF8 = 0xF0 ↔ 0xF0 ≤ b.toNat ∧ b.toNat < 0xF8) ∧ (b &&& 0x07).toNat = b.toNat % 8 :=
  forall_byte (by decide +kernel)

theorem continuationBytes_succ {count cp : Nat} :
    continuationBytes (count + 1) cp text = some (n, rest) ↔
      ∃ b tail, text = b :: tail ∧ (0x80 ≤ b.toNat ∧ b.toNat < 0xC0) ∧
        continuationBytes count (cp * 64 + b.toNat % 64) tail = some (n, rest) := by
  cases text with
  | nil => simp [continuationBytes]
  | cons b tail =>
    obtain ⟨hrange, hbits⟩ := continuation_mask b
    have hvalue : cp <<< 6 ||| (b &&& 0x3F).toNat = cp * 64 + b.toNat % 64 := by
      rw [hbits, Nat.shiftLeft_eq]
      exact @marker_or cp 6 _ (Nat.mod_lt _ (by decide))
    rw [continuationBytes, hvalue]
    simp [hrange]

theorem continuationBytes_zero {cp : Nat} :
    continuationBytes 0 cp text = some (n, rest) ↔ n = cp ∧ rest = text := by
  rw [continuationBytes, Option.some.injEq, Prod.mk.injEq]
  exact and_congr eq_comm eq_comm

theorem continuationBytes_length {count cp : Nat}
    (h : continuationBytes count cp text = some (n, rest)) : count ≤ text.length := by
  induction count generalizing cp text with
  | zero => exact Nat.zero_le _
  | succ count ih =>
    obtain ⟨b, tail, rfl, -, hrest⟩ := continuationBytes_succ.mp h
    exact Nat.succ_le_succ (ih hrest)

theorem readSequence_iff {count payload : Nat} : readSequence count payload text = some (n, rest) ↔
      continuationBytes count payload text = some (n, rest) ∧ ¬ outOfRange count n := by
  rw [readSequence]
  constructor
  · intro h
    split at h
    · cases h
    · obtain ⟨⟨cp, tail⟩, hbytes, h⟩ := Option.bind_eq_some_iff.mp h
      replace h : (if outOfRange count cp then none else some (cp, tail)) = some (n, rest) := h
      split at h
      · cases h
      · cases h
        exact ⟨hbytes, ‹_›⟩
  · rintro ⟨hbytes, hrange⟩
    have hlen := continuationBytes_length hbytes
    rw [if_neg (by omega), hbytes]
    exact if_neg hrange

/-- The extra case of the decoder changes nothing: two bytes with the payload 0 are an
overlong form. -/
theorem readSequence_overlong {payload : Nat} (h : payload < 2) (text : Bytes) :
    readSequence 1 payload text = none := by
  refine Option.eq_none_iff_forall_ne_some.mpr fun ⟨n, rest⟩ hread => ?_
  obtain ⟨hbytes, hrange⟩ := readSequence_iff.mp hread
  obtain ⟨b, tail, -, -, hlast⟩ := continuationBytes_succ.mp hbytes
  obtain ⟨hn, -⟩ := continuationBytes_zero.mp hlast
  rw [outOfRange] at hrange
  omega

theorem pathStep_eq : pathStep = decodeStep := by
  funext text
  cases text with
  | nil => rfl
  | cons lead text =>
    have hascii : lead < 0x80 ↔ lead ≤ 0x7F := by
      exact Nat.lt_succ_iff
    rw [pathStep, decodeStep, leadByte, pathLead]
    by_cases hlead : lead < 0x80
    · rw [if_pos hlead, if_pos (hascii.mp hlead)]
      have hvalue : lead.toNat < 0x80 := UInt8.lt_iff_toNat_lt.mp hlead
      have hrange : ¬ outOfRange 0 lead.toNat := by
        rw [outOfRange]
        omega
      have hread : readSequence 0 lead.toNat text = some (lead.toNat, text) :=
        readSequence_iff.mpr ⟨rfl, hrange⟩
      exact hread.symm
    · rw [if_neg hlead, if_neg (mt hascii.mpr hlead)]
      by_cases htwo : lead &&& 0xE0 = 0xC0
      · rw [if_pos htwo, if_pos htwo]
        by_cases hzero : lead &&& 0x1F = 0
        · rw [if_pos hzero, hzero]
          exact readSequence_overlong (by decide) text
        · rw [if_neg hzero]
      · rw [if_neg htwo, if_neg htwo]

theorem decodeStep_cons (lead : UInt8) (text : Bytes) : decodeStep (lead :: text) =
    if lead.toNat < 0x80 then some (lead.toNat, text)
    else if 0xC0 ≤ lead.toNat ∧ lead.toNat < 0xE0 then readSequence 1 (lead.toNat % 32) text
    else if 0xE0 ≤ lead.toNat ∧ lead.toNat < 0xF0 then readSequence 2 (lead.toNat % 16) text
    else if 0xF0 ≤ lead.toNat ∧ lead.toNat < 0xF8 then readSequence 3 (lead.toNat % 8) text
    else none := by
  obtain ⟨hmask₂, hbits₂⟩ := lead2_mask lead
  obtain ⟨hmask₃, hbits₃⟩ := lead3_mask lead
  obtain ⟨hmask₄, hbits₄⟩ := lead4_mask lead
  have hascii : lead < 0x80 ↔ lead.toNat < 0x80 := UInt8.lt_iff_toNat_lt
  simp only [← pathStep_eq, pathStep, pathLead, hascii, hmask₂, hmask₃, hmask₄, hbits₂, hbits₃,
    hbits₄]
  repeat' split
  all_goals rfl

theorem decodeStep_utf8 (h : IsScalar n) (rest : Bytes) :
    decodeStep (utf8 n ++ rest) = some (n, rest) := by
  have hcont : ∀ k, (UInt8.ofNat (0x80 + k % 64)).toNat = 0x80 + k % 64 := fun k =>
    toNat_ofNat (by omega)
  rw [IsScalar] at h
  rw [utf8]
  split
  · rw [singleton_append, decodeStep_cons, toNat_ofNat (by omega)]
    exact if_pos (by omega)
  split
  · have hlead : (UInt8.ofNat (0xC0 + n / 64)).toNat = 0xC0 + n / 64 := toNat_ofNat (by omega)
    rw [cons_append, decodeStep_cons, hlead, if_neg (by omega), if_pos (by omega)]
    refine readSequence_iff.mpr ⟨?_, ?_⟩
    · refine continuationBytes_succ.mpr ⟨_, _, rfl, ?_, continuationBytes_zero.mpr ⟨?_, rfl⟩⟩
      all_goals rw [hcont]
      all_goals omega
    · rw [outOfRange]
      omega
  · split
    · have hlead : (UInt8.ofNat (0xE0 + n / 4096)).toNat = 0xE0 + n / 4096 :=
        toNat_ofNat (by omega)
      rw [cons_append, decodeStep_cons, hlead, if_neg (by omega), if_neg (by omega),
        if_pos (by omega)]
      refine readSequence_iff.mpr ⟨?_, ?_⟩
      · refine continuationBytes_succ.mpr ⟨_, _, rfl, ?_, continuationBytes_succ.mpr
          ⟨_, _, rfl, ?_, continuationBytes_zero.mpr ⟨?_, rfl⟩⟩⟩
        all_goals simp only [hcont]
        all_goals omega
      · rw [outOfRange]
        omega
    · have hlead : (UInt8.ofNat (0xF0 + n / 262144)).toNat = 0xF0 + n / 262144 :=
        toNat_ofNat (by omega)
      rw [cons_append, decodeStep_cons, hlead, if_neg (by omega), if_neg (by omega),
        if_neg (by omega), if_pos (by omega)]
      refine readSequence_iff.mpr ⟨?_, ?_⟩
      · refine continuationBytes_succ.mpr ⟨_, _, rfl, ?_, continuationBytes_succ.mpr
          ⟨_, _, rfl, ?_, continuationBytes_succ.mpr
            ⟨_, _, rfl, ?_, continuationBytes_zero.mpr ⟨?_, rfl⟩⟩⟩⟩
        all_goals simp only [hcont]
        all_goals omega
      · rw [outOfRange]
        omega

theorem row_of_decodeStep (h : decodeStep text = some (n, rest)) :
    ∃ row, Row row ∧ text = row ++ rest := by
  cases text with
  | nil => cases h
  | cons lead text =>
    rw [decodeStep_cons] at h
    split at h
    next hlead =>
      cases h
      exact ⟨[lead], ⟨Nat.zero_le _, Nat.le_of_lt_succ hlead⟩, rfl⟩
    repeat' split at h
    pick_goal 4
    · cases h
    all_goals
      obtain ⟨hbytes, hrange⟩ := readSequence_iff.mp h
      rw [outOfRange] at hrange
      obtain ⟨b, tail, rfl, hb, hbytes⟩ := continuationBytes_succ.mp hbytes
    · obtain ⟨hn, rfl⟩ := continuationBytes_zero.mp hbytes
      refine ⟨[lead, b], ?_, rfl⟩
      simp only [Row, Between]
      omega
    · obtain ⟨c, tail, rfl, hc, hbytes⟩ := continuationBytes_succ.mp hbytes
      obtain ⟨hn, rfl⟩ := continuationBytes_zero.mp hbytes
      refine ⟨[lead, b, c], ?_, rfl⟩
      simp only [Row, Between]
      omega
    · obtain ⟨c, tail, rfl, hc, hbytes⟩ := continuationBytes_succ.mp hbytes
      obtain ⟨d, tail, rfl, hd, hbytes⟩ := continuationBytes_succ.mp hbytes
      obtain ⟨hn, rfl⟩ := continuationBytes_zero.mp hbytes
      refine ⟨[lead, b, c, d], ?_, rfl⟩
      simp only [Row, Between]
      omega

theorem utf8_of_decodeStep (h : decodeStep text = some (n, rest)) :
    IsScalar n ∧ text = utf8 n ++ rest := by
  obtain ⟨row, hrow, rfl⟩ := row_of_decodeStep h
  obtain ⟨m, hm, rfl⟩ := row_iff.mp hrow
  rw [decodeStep_utf8 hm rest] at h
  cases h
  exact ⟨hm, rfl⟩

theorem decodeStep_undoes : Undoes decodeStep IsScalar utf8 where
  nonempty := utf8_ne_nil
  step_iff _ _ rest := by
    constructor
    · exact utf8_of_decodeStep
    · rintro ⟨hn, rfl⟩
      exact decodeStep_utf8 hn rest

/-! ### Reading a code point from code units -/

/-- What the loop of `DecodeUtf8ToUtf16` appends for a code point. -/
def codeUnits (codePoint : Nat) : List UInt16 :=
  if codePoint ≤ 0xFFFF then [UInt16.ofNat codePoint]
  else
    let adjusted := codePoint - 0x10000
    [UInt16.ofNat (0xD800 + (adjusted >>> 10 &&& 0x3FF)),
      UInt16.ofNat (0xDC00 + (adjusted &&& 0x3FF))]

/-- One round of the loop of `EncodeUtf16ToUtf8`, up to the code point it appends. -/
def unitStep : List UInt16 → Option (Nat × List UInt16)
  | [] => none
  | unit :: rest =>
    if unit ≥ 0xD800 ∧ unit ≤ 0xDBFF then
      match rest with
      | [] => none
      | trail :: rest =>
        if trail < 0xDC00 ∨ trail > 0xDFFF then none
        else some (0x10000 + ((unit.toNat - 0xD800) <<< 10) + (trail.toNat - 0xDC00), rest)
    else if unit ≥ 0xDC00 ∧ unit ≤ 0xDFFF then none
    else some (unit.toNat, rest)

theorem codeUnits_eq (h : IsScalar n) : codeUnits n = utf16 n := by
  rw [IsScalar] at h
  simp only [codeUnits, utf16, show 0x3FF = 2 ^ 10 - 1 from rfl, Nat.and_two_pow_sub_one_eq_mod,
    Nat.shiftRight_eq_div_pow]
  by_cases hn : n < 0x10000
  · rw [if_pos (by omega), if_pos hn]
  · rw [if_neg (by omega), if_neg hn, Nat.mod_eq_of_lt (a := (n - 0x10000) / 2 ^ 10) (by omega)]

theorem unitStep_cons (unit : UInt16) (text : List UInt16) : unitStep (unit :: text) =
    if 0xD800 ≤ unit.toNat ∧ unit.toNat ≤ 0xDBFF then
      match text with
      | [] => none
      | trail :: rest =>
        if trail.toNat < 0xDC00 ∨ 0xDFFF < trail.toNat then none
        else some (0x10000 + (unit.toNat - 0xD800) * 1024 + (trail.toNat - 0xDC00), rest)
    else if 0xDC00 ≤ unit.toNat ∧ unit.toNat ≤ 0xDFFF then none
    else some (unit.toNat, text) := by
  simp only [unitStep, ge_iff_le, gt_iff_lt, UInt16.le_iff_toNat_le, UInt16.lt_iff_toNat_lt,
    Nat.shiftLeft_eq]
  rfl

theorem unitStep_undoes : Undoes unitStep IsScalar utf16 where
  nonempty := utf16_ne_nil
  step_iff text n rest := by
    constructor
    · intro h
      cases text with
      | nil => cases h
      | cons unit text =>
        have hlt := unit.toNat_lt
        rw [unitStep_cons] at h
        split at h
        · cases text with
          | nil => cases h
          | cons trail text =>
            dsimp only at h
            split at h
            · cases h
            · obtain ⟨rfl, rfl⟩ := Prod.mk.inj (Option.some.inj h)
              refine ⟨Or.inr (by omega), ?_⟩
              rw [utf16, if_neg (by omega), ofNat16_eq (u := unit) (by omega),
                ofNat16_eq (u := trail) (by omega)]
              rfl
        · split at h
          · cases h
          · obtain ⟨rfl, rfl⟩ := Prod.mk.inj (Option.some.inj h)
            refine ⟨by rw [IsScalar]; omega, ?_⟩
            rw [utf16, if_pos (by omega), UInt16.ofNat_toNat, singleton_append]
    · rintro ⟨hn, rfl⟩
      rw [IsScalar] at hn
      rw [utf16]
      split
      · rw [singleton_append, unitStep_cons, toNat_ofNat16 (by omega), if_neg (by omega),
          if_neg (by omega)]
      · rw [cons_append, unitStep_cons, toNat_ofNat16 (by omega), if_pos (by omega)]
        dsimp only [singleton_append]
        rw [toNat_ofNat16 (by omega), if_neg (by omega)]
        exact congrArg (fun k => some (k, rest)) (by omega)

/-! ### Whole texts -/

/-- `DecodeUtf8ToUtf16` (`TryDecodeUtf8ToUtf16`); `none` is the result `false`. -/
def decodeUtf8ToUtf16 (src : Bytes) : Option (List UInt16) :=
  (readChunks decodeStep src.length src).map fun codePoints => codePoints.flatMap codeUnits

/-- One round of the loop of `EncodeUtf16ToUtf8`: the bytes it appends. -/
def encodeStep (src : List UInt16) : Option (Bytes × List UInt16) := do
  let (codePoint, rest) ← unitStep src
  let bytes ← appendUtf8CodePoint codePoint
  some (bytes, rest)

/-- `EncodeUtf16ToUtf8` (`TryEncodeUtf16ToUtf8`). -/
def encodeUtf16ToUtf8 (src : List UInt16) : Option Bytes :=
  (readChunks encodeStep src.length src).map List.flatten

def isValidUtf8Path (path : Bytes) : Bool := (readChunks pathStep path.length path).isSome

theorem encodeStep_eq : encodeStep = fun src => (unitStep src).map (Prod.map utf8 id) := by
  funext src
  rw [encodeStep]
  cases hstep : unitStep src with
  | none => rfl
  | some chunk =>
    obtain ⟨n, rest⟩ := chunk
    have hscalar := ((unitStep_undoes.step_iff _ _ _).mp hstep).1
    show (appendUtf8CodePoint n).bind _ = _
    rw [appendUtf8CodePoint_eq hscalar]
    rfl

def SameText (s : Bytes) (u : List UInt16) : Prop :=
  ∃ ns : List Nat, (∀ n ∈ ns, IsScalar n) ∧ ns.flatMap utf8 = s ∧ ns.flatMap utf16 = u

theorem decodeUtf8ToUtf16_eq_some_iff {s : Bytes} :
    decodeUtf8ToUtf16 s = some u ↔ SameText s u := by
  have hunits : ∀ ns : List Nat, (∀ n ∈ ns, IsScalar n) →
      ns.flatMap codeUnits = ns.flatMap utf16 := fun ns hns =>
    flatMap_congr fun n hn => codeUnits_eq (hns n hn)
  rw [decodeUtf8ToUtf16, Option.map_eq_some_iff]
  refine exists_congr fun ns => ?_
  rw [readChunks_eq_some_iff decodeStep_undoes _ _ _ (Nat.le_refl _), and_assoc]
  refine and_congr_right fun hns => ?_
  rw [hunits ns hns]

theorem encodeUtf16ToUtf8_eq_some_iff {s : Bytes} :
    encodeUtf16ToUtf8 u = some s ↔ SameText s u := by
  rw [encodeUtf16ToUtf8, encodeStep_eq, readChunks_map, Option.map_map, Option.map_eq_some_iff]
  refine exists_congr fun ns => ?_
  rw [readChunks_eq_some_iff unitStep_undoes _ _ _ (Nat.le_refl _), and_assoc]
  refine and_congr_right fun _ => ?_
  rw [and_comm, Function.comp_apply, ← flatMap_def]

theorem wellFormedUtf8_iff_sameText {s : Bytes} : WellFormedUtf8 s ↔ ∃ u, SameText s u := by
  rw [wellFormedUtf8_iff]
  constructor
  · rintro ⟨ns, hns, hs⟩
    exact ⟨_, ns, hns, hs, rfl⟩
  · rintro ⟨u, ns, hns, hs, -⟩
    exact ⟨ns, hns, hs⟩

theorem wellFormedUtf16_iff_sameText : WellFormedUtf16 u ↔ ∃ s, SameText s u := by
  rw [wellFormedUtf16_iff]
  constructor
  · rintro ⟨ns, hns, hu⟩
    exact ⟨_, ns, hns, rfl, hu⟩
  · rintro ⟨s, ns, hns, -, hu⟩
    exact ⟨ns, hns, hu⟩

theorem decodeUtf8ToUtf16_isSome_iff {s : Bytes} :
    (decodeUtf8ToUtf16 s).isSome = true ↔ WellFormedUtf8 s := by
  rw [Option.isSome_iff_exists, wellFormedUtf8_iff_sameText]
  exact exists_congr fun u => decodeUtf8ToUtf16_eq_some_iff

theorem encodeUtf16ToUtf8_isSome_iff : (encodeUtf16ToUtf8 u).isSome = true ↔ WellFormedUtf16 u := by
  rw [Option.isSome_iff_exists, wellFormedUtf16_iff_sameText]
  exact exists_congr fun s => encodeUtf16ToUtf8_eq_some_iff

theorem decode_eq_some_iff_encode {s : Bytes} :
    decodeUtf8ToUtf16 s = some u ↔ encodeUtf16ToUtf8 u = some s :=
  decodeUtf8ToUtf16_eq_some_iff.trans encodeUtf16ToUtf8_eq_some_iff.symm

/-- The conversion as a bijection between the well-formed texts. -/
def conversion : {s : Bytes // WellFormedUtf8 s} ≃ {u : List UInt16 // WellFormedUtf16 u} where
  toFun s := ⟨(decodeUtf8ToUtf16 s.1).get (decodeUtf8ToUtf16_isSome_iff.mpr s.2), by
    refine encodeUtf16ToUtf8_isSome_iff.mp (Option.isSome_iff_exists.mpr ⟨s.1, ?_⟩)
    exact decode_eq_some_iff_encode.mp (Option.some_get _).symm⟩
  invFun u := ⟨(encodeUtf16ToUtf8 u.1).get (encodeUtf16ToUtf8_isSome_iff.mpr u.2), by
    refine decodeUtf8ToUtf16_isSome_iff.mp (Option.isSome_iff_exists.mpr ⟨u.1, ?_⟩)
    exact decode_eq_some_iff_encode.mpr (Option.some_get _).symm⟩
  left_inv s := Subtype.ext (Option.get_of_eq_some _
    (decode_eq_some_iff_encode.mp (Option.some_get _).symm))
  right_inv u := Subtype.ext (Option.get_of_eq_some _
    (decode_eq_some_iff_encode.mpr (Option.some_get _).symm))

/-- **UTF conversion is exact.**  The decoder succeeds on the well-formed UTF-8 texts and
the encoder on the well-formed UTF-16 texts, between which they are a bijection and its
inverse; the path guard accepts what the decoder accepts. -/
theorem utf_exact : (∀ s, (decodeUtf8ToUtf16 s).isSome = true ↔ WellFormedUtf8 s) ∧
    (∀ u, (encodeUtf16ToUtf8 u).isSome = true ↔ WellFormedUtf16 u) ∧
    (∃ e : {s : Bytes // WellFormedUtf8 s} ≃ {u : List UInt16 // WellFormedUtf16 u},
      (∀ s, decodeUtf8ToUtf16 s.1 = some (e s).1) ∧
      ∀ u, encodeUtf16ToUtf8 u.1 = some (e.symm u).1) ∧
    ∀ path, isValidUtf8Path path = (decodeUtf8ToUtf16 path).isSome := by
  refine ⟨fun _ => decodeUtf8ToUtf16_isSome_iff, fun _ => encodeUtf16ToUtf8_isSome_iff,
    ⟨conversion, fun _ => (Option.some_get _).symm, fun _ => (Option.some_get _).symm⟩, ?_⟩
  intro path
  rw [isValidUtf8Path, pathStep_eq, decodeUtf8ToUtf16, Option.isSome_map]

end Tamga.Util
