/-
The language of `Base64Decode` (`util/Base64.cpp`).

The decoder looks at one quantum of four characters after the other and allows `=` in
the last two places of each of them, so it accepts more than padded base64: `AA=A` and
`AA==AAAA` are decoded.

* `base64Decode_ok_iff` — the accepted texts, by the shape of their quanta;
* `base64_canonical_iff` — an accepted text is padded base64 exactly when nothing
  follows a `=` but `=`.
-/
import Tamga.Encoding

namespace Tamga.Util

open List

/-- Quanta of two digits and two places that may hold `=` instead. -/
def Shaped : List Char → Prop
  | [] => True
  | c0 :: c1 :: c2 :: c3 :: rest =>
    c0 ∈ base64Alphabet ∧ c1 ∈ base64Alphabet ∧ (c2 ∈ base64Alphabet ∨ c2 = '=') ∧
      (c3 ∈ base64Alphabet ∨ c3 = '=') ∧ Shaped rest
  | _ => False

/-- Nothing but `=` follows a `=`. -/
def PaddingLast (text : List Char) : Prop := text.Pairwise fun a b => a = '=' → b = '='

/-- Padded base64 for a number of bytes: whole quanta of digits, up to two of them at the
end replaced by `=`, one for each byte that is missing from three to a quantum. -/
def WellPadded (text : List Char) (size : Nat) : Prop :=
  text.length % 4 = 0 ∧ ∃ data pad, text = data ++ List.replicate pad '=' ∧
    (∀ c ∈ data, c ∈ base64Alphabet) ∧ pad ≤ 2 ∧ size + pad = 3 * (text.length / 4)

/-! ### Digits -/

theorem decodeChar_ne_iff (c : Char) : decodeChar c ≠ 255 ↔ c ∈ base64Alphabet := by
  have hascii : ∀ n < 128, decodeChar (Char.ofNat n) ≠ 255 ↔ Char.ofNat n ∈ base64Alphabet := by
    decide +kernel
  by_cases hc : c.toNat < 128
  · have h := hascii c.toNat hc
    rwa [Char.ofNat_toNat] at h
  have hall : (base64Alphabet.all fun d => decide (d.toNat < 128)) = true := by decide +kernel
  have halphabet : ∀ d ∈ base64Alphabet, d.toNat < 128 := fun d hd =>
    of_decide_eq_true (all_eq_true.mp hall d hd)
  have hle : ∀ d : Char, d.toNat < 128 → ¬ c ≤ d := by
    intro d hd hcd
    have hval : c.toNat ≤ d.toNat := UInt32.le_iff_toNat_le.mp hcd
    omega
  have hother : decodeChar c = 255 := by
    rw [decodeChar, if_neg fun h => hle 'Z' (by decide) h.2,
      if_neg fun h => hle 'z' (by decide) h.2, if_neg fun h => hle '9' (by decide) h.2,
      if_neg fun h => hle c (by rw [h]; decide) (Char.le_refl c),
      if_neg fun h => hle c (by rw [h]; decide) (Char.le_refl c)]
  exact ⟨fun h => absurd hother h, fun h => absurd (halphabet c h) hc⟩

theorem decodeChar_base64Digit {n : Nat} (h : n < 64) : decodeChar (base64Digit n) = n := by
  have hall : ∀ n < 64, decodeChar (base64Digit n) = n := by decide +kernel
  exact hall n h

theorem base64Digit_mem {n : Nat} (h : n < 64) : base64Digit n ∈ base64Alphabet := by
  refine (decodeChar_ne_iff _).mp ?_
  rw [decodeChar_base64Digit h]
  omega

theorem ne_pad_of_mem {c : Char} (h : c ∈ base64Alphabet) : c ≠ '=' := by
  rintro rfl
  exact absurd h (by decide +kernel)

theorem not_isSpace_of_mem {c : Char} (h : c ∈ base64Alphabet ∨ c = '=') : isSpace c = false := by
  have hall : (('=' :: base64Alphabet).all fun c => !isSpace c) = true := by decide +kernel
  simpa using all_eq_true.mp hall c (mem_cons.mpr h.symm)

/-! ### The accepted texts -/

def Quantum (c0 c1 c2 c3 : Char) : Prop :=
  c0 ∈ base64Alphabet ∧ c1 ∈ base64Alphabet ∧ (c2 ∈ base64Alphabet ∨ c2 = '=') ∧
    (c3 ∈ base64Alphabet ∨ c3 = '=')

theorem refused_iff (c0 c1 c2 c3 : Char) : (decodeChar c0 = 255 ∨ decodeChar c1 = 255 ∨
      (c2 ≠ '=' ∧ (if c2 = '=' then 0 else decodeChar c2) = 255) ∨
      (c3 ≠ '=' ∧ (if c3 = '=' then 0 else decodeChar c3) = 255)) ↔ ¬ Quantum c0 c1 c2 c3 := by
  simp only [Quantum, ← decodeChar_ne_iff]
  grind

theorem decodeQuantum_eq_none {c0 c1 c2 c3 : Char} (h : ¬ Quantum c0 c1 c2 c3) :
    decodeQuantum c0 c1 c2 c3 = none := by
  exact if_pos ((refused_iff ..).mpr h)

theorem decodeQuantum_eq_some {c0 c1 c2 c3 : Char} (h : Quantum c0 c1 c2 c3) :
    ∃ bytes, decodeQuantum c0 c1 c2 c3 = some bytes ∧ bytes.length + [c2, c3].count '=' = 3 := by
  refine ⟨_, if_neg (mt (refused_iff ..).mp (not_not.mpr h)), ?_⟩
  by_cases h2 : c2 = '='
  · by_cases h3 : c3 = '=' <;> simp [h2, h3]
  · by_cases h3 : c3 = '=' <;> simp [h2, h3]

theorem Shaped.length_mod : ∀ {text : List Char}, Shaped text → text.length % 4 = 0
  | [], _ => rfl
  | _ :: _ :: _ :: _ :: rest, h => by
    have ih := Shaped.length_mod h.2.2.2.2
    simp only [length_cons]
    omega

theorem Shaped.head_mem {c : Char} : ∀ {rest : List Char}, Shaped (c :: rest) → c ∈ base64Alphabet
  | _ :: _ :: _ :: _, h => h.1

theorem decodeQuanta_ok_iff : ∀ {text : List Char}, text.length % 4 = 0 →
    ((decodeQuanta text).ok = true ↔ Shaped text)
  | [], _ => ⟨fun _ => trivial, fun _ => rfl⟩
  | c0 :: c1 :: c2 :: c3 :: rest, h => by
    have hrest : rest.length % 4 = 0 := by
      simp only [length_cons] at h
      omega
    rw [decodeQuanta, Shaped]
    by_cases hq : Quantum c0 c1 c2 c3
    · obtain ⟨bytes, hbytes, -⟩ := decodeQuantum_eq_some hq
      obtain ⟨h0, h1, h2, h3⟩ := hq
      rw [hbytes]
      exact (decodeQuanta_ok_iff hrest).trans
        ⟨fun hs => ⟨h0, h1, h2, h3, hs⟩, fun hs => hs.2.2.2.2⟩
    · rw [decodeQuantum_eq_none hq]
      constructor
      · intro hfalse
        cases hfalse
      · rintro ⟨h0, h1, h2, h3, -⟩
        exact absurd ⟨h0, h1, h2, h3⟩ hq
  | [_], h => by simp at h
  | [_, _], h => by simp at h
  | [_, _, _], h => by simp at h

theorem base64Decode_ok_iff (text : String) :
    (base64Decode text).ok = true ↔ Shaped (normalizedChars text.toList) := by
  rw [base64Decode]
  split
  · next hlen =>
    constructor
    · intro hfalse
      cases hfalse
    · exact fun hs => absurd hs.length_mod hlen
  · next hlen => exact decodeQuanta_ok_iff (not_not.mp hlen)

theorem decodeQuanta_length : ∀ {text : List Char}, Shaped text →
    (decodeQuanta text).bytes.length + text.count '=' = 3 * (text.length / 4)
  | [], _ => rfl
  | c0 :: c1 :: c2 :: c3 :: rest, h => by
    obtain ⟨h0, h1, h2, h3, hrest⟩ := h
    have ih := decodeQuanta_length hrest
    have hcount : (c0 :: c1 :: c2 :: c3 :: rest).count '=' =
        [c2, c3].count '=' + rest.count '=' := by
      rw [count_cons_of_ne (ne_pad_of_mem h0), count_cons_of_ne (ne_pad_of_mem h1)]
      show ([c2, c3] ++ rest).count '=' = _
      exact count_append
    have hdiv : (c0 :: c1 :: c2 :: c3 :: rest).length / 4 = rest.length / 4 + 1 := by
      simp only [length_cons]
      omega
    obtain ⟨bytes, hbytes, hsize⟩ := decodeQuantum_eq_some ⟨h0, h1, h2, h3⟩
    rw [decodeQuanta, hbytes, hcount, hdiv]
    show (bytes ++ (decodeQuanta rest).bytes).length + _ = _
    rw [length_append]
    omega

/-! ### Padding -/

def Padded (text : List Char) : Prop :=
  ∃ data pad, text = data ++ List.replicate pad '=' ∧ (∀ c ∈ data, c ∈ base64Alphabet) ∧ pad ≤ 2

theorem Padded.count {text : List Char} {data : List Char} {pad : Nat}
    (htext : text = data ++ List.replicate pad '=') (hdata : ∀ c ∈ data, c ∈ base64Alphabet) :
    text.count '=' = pad := by
  have hzero : data.count '=' = 0 :=
    count_eq_zero.mpr fun hmem => ne_pad_of_mem (hdata _ hmem) rfl
  rw [htext, count_append, hzero, count_replicate_self, Nat.zero_add]

theorem paddingLast_of_padded {text : List Char} (h : Padded text) : PaddingLast text := by
  obtain ⟨data, pad, rfl, hdata, -⟩ := h
  refine pairwise_append.mpr ⟨?_, ?_, ?_⟩
  · exact pairwise_of_forall_mem_list fun a ha b _ hpad => absurd hpad (ne_pad_of_mem (hdata a ha))
  · exact pairwise_replicate.mpr (Or.inr fun _ => rfl)
  · exact fun a ha b _ hpad => absurd hpad (ne_pad_of_mem (hdata a ha))

theorem padded_of_paddingLast : ∀ {text : List Char}, Shaped text → PaddingLast text → Padded text
  | [], _, _ => ⟨[], 0, rfl, fun _ h => absurd h not_mem_nil, Nat.zero_le _⟩
  | c0 :: c1 :: c2 :: c3 :: rest, hs, hlast => by
    obtain ⟨h0, h1, h2, h3, hrest⟩ := hs
    simp only [PaddingLast, pairwise_cons] at hlast
    obtain ⟨-, -, hlast2, hlast3, hlastrest⟩ := hlast
    cases rest with
    | nil =>
      rcases h2 with h2 | rfl
      · rcases h3 with h3 | rfl
        · exact ⟨[c0, c1, c2, c3], 0, rfl, by simp [h0, h1, h2, h3], by omega⟩
        · exact ⟨[c0, c1, c2], 1, rfl, by simp [h0, h1, h2], by omega⟩
      · obtain rfl : c3 = '=' := hlast2 c3 (by simp) rfl
        exact ⟨[c0, c1], 2, rfl, by simp [h0, h1], by omega⟩
    | cons d rest =>
      -- the next quantum starts with a digit, so this one holds no padding
      have hd : d ∈ base64Alphabet := Shaped.head_mem hrest
      have hc2 : c2 ∈ base64Alphabet :=
        h2.resolve_right fun h => ne_pad_of_mem hd (hlast2 d (by simp) h)
      have hc3 : c3 ∈ base64Alphabet :=
        h3.resolve_right fun h => ne_pad_of_mem hd (hlast3 d (by simp) h)
      obtain ⟨data, pad, htext, hdata, hpad⟩ := padded_of_paddingLast hrest hlastrest
      refine ⟨c0 :: c1 :: c2 :: c3 :: data, pad, by rw [htext]; rfl, ?_, hpad⟩
      simpa [h0, h1, hc2, hc3] using hdata

theorem wellPadded_iff_padded {text : List Char} {size : Nat} (hs : Shaped text)
    (hsize : size + text.count '=' = 3 * (text.length / 4)) :
    WellPadded text size ↔ Padded text := by
  constructor
  · rintro ⟨-, data, pad, htext, hdata, hpad, -⟩
    exact ⟨data, pad, htext, hdata, hpad⟩
  · rintro ⟨data, pad, htext, hdata, hpad⟩
    rw [Padded.count htext hdata] at hsize
    exact ⟨hs.length_mod, data, pad, htext, hdata, hpad, hsize⟩

theorem wellPadded_iff {text : String} (h : Shaped (normalizedChars text.toList)) :
    WellPadded (normalizedChars text.toList) (base64Decode text).bytes.length ↔
      PaddingLast (normalizedChars text.toList) := by
  have hbytes : (base64Decode text).bytes = (decodeQuanta (normalizedChars text.toList)).bytes := by
    rw [base64Decode, if_neg (not_not.mpr h.length_mod)]
  rw [hbytes, wellPadded_iff_padded h (decodeQuanta_length h)]
  exact ⟨paddingLast_of_padded, padded_of_paddingLast h⟩

/-! ### The round trip -/

theorem ofNat_eq_of_mod {b : UInt8} {n : Nat} (h : n % 256 = b.toNat) : UInt8.ofNat n = b :=
  UInt8.toNat_inj.mp (by rw [UInt8.toNat_ofNat', h])

theorem placeValue_digit {n : Nat} (h : n < 64) :
    (if base64Digit n = '=' then 0 else decodeChar (base64Digit n)) = n := by
  rw [if_neg (ne_pad_of_mem (base64Digit_mem h)), decodeChar_base64Digit h]

theorem decodeQuantum_digits {n0 n1 : Nat} (h0 : n0 < 64) (h1 : n1 < 64) {c2 c3 : Char}
    {n2 n3 : Nat} (h2 : (if c2 = '=' then 0 else decodeChar c2) = n2) (hn2 : n2 < 64)
    (h3 : (if c3 = '=' then 0 else decodeChar c3) = n3) (hn3 : n3 < 64) :
    decodeQuantum (base64Digit n0) (base64Digit n1) c2 c3 =
      some ([UInt8.ofNat ((n0 * 262144 + n1 * 4096 + n2 * 64 + n3) / 65536)] ++
        (if c2 = '=' then [] else
          [UInt8.ofNat ((n0 * 262144 + n1 * 4096 + n2 * 64 + n3) / 256)]) ++
        (if c3 = '=' then [] else [UInt8.ofNat (n0 * 262144 + n1 * 4096 + n2 * 64 + n3)])) := by
  unfold decodeQuantum
  simp only [h2, h3, decodeChar_base64Digit h0, decodeChar_base64Digit h1]
  exact if_neg (by omega)

theorem decodeQuanta_base64EncodeChars (bytes : Bytes) :
    decodeQuanta (base64EncodeChars bytes) = ⟨bytes, true⟩ := by
  induction bytes using base64EncodeChars.induct with
  | case1 => rfl
  | case2 b0 =>
    have hb0 := b0.toNat_lt
    rw [base64EncodeChars, decodeQuanta,
      decodeQuantum_digits (by omega) (by omega) (if_pos rfl) (by omega) (if_pos rfl) (by omega)]
    have h0 : UInt8.ofNat ((b0.toNat * 65536 / 262144 % 64 * 262144 +
        b0.toNat * 65536 / 4096 % 64 * 4096 + 0 * 64 + 0) / 65536) = b0 :=
      ofNat_eq_of_mod (by omega)
    rw [h0]
    rfl
  | case3 b0 b1 =>
    have hb0 := b0.toNat_lt
    have hb1 := b1.toNat_lt
    rw [base64EncodeChars, decodeQuanta,
      decodeQuantum_digits (by omega) (by omega) (placeValue_digit (by omega)) (by omega)
        (if_pos rfl) (by omega)]
    rw [if_neg (ne_pad_of_mem (base64Digit_mem (by omega))), if_pos rfl,
      ofNat_eq_of_mod (b := b0) (by omega), ofNat_eq_of_mod (b := b1) (by omega)]
    rfl
  | case4 b0 b1 b2 rest ih =>
    have hb0 := b0.toNat_lt
    have hb1 := b1.toNat_lt
    have hb2 := b2.toNat_lt
    rw [base64EncodeChars, decodeQuanta,
      decodeQuantum_digits (by omega) (by omega) (placeValue_digit (by omega)) (by omega)
        (placeValue_digit (by omega)) (by omega)]
    rw [if_neg (ne_pad_of_mem (base64Digit_mem (by omega))),
      if_neg (ne_pad_of_mem (base64Digit_mem (by omega))),
      ofNat_eq_of_mod (b := b0) (by omega), ofNat_eq_of_mod (b := b1) (by omega),
      ofNat_eq_of_mod (b := b2) (by omega), ih]
    rfl

theorem shaped_base64EncodeChars (bytes : Bytes) : Shaped (base64EncodeChars bytes) := by
  have hmod : ∀ n, base64Digit (n % 64) ∈ base64Alphabet := fun n => base64Digit_mem (by omega)
  induction bytes using base64EncodeChars.induct with
  | case1 => trivial
  | case2 b0 => exact ⟨hmod _, hmod _, Or.inr rfl, Or.inr rfl, trivial⟩
  | case3 b0 b1 => exact ⟨hmod _, hmod _, Or.inl (hmod _), Or.inr rfl, trivial⟩
  | case4 b0 b1 b2 rest ih => exact ⟨hmod _, hmod _, Or.inl (hmod _), Or.inl (hmod _), ih⟩

theorem Shaped.mem : ∀ {text : List Char}, Shaped text → ∀ c ∈ text, c ∈ base64Alphabet ∨ c = '='
  | [], _, _, hc => absurd hc not_mem_nil
  | c0 :: c1 :: c2 :: c3 :: rest, h, c, hc => by
    obtain ⟨h0, h1, h2, h3, hrest⟩ := h
    simp only [mem_cons] at hc
    rcases hc with rfl | rfl | rfl | rfl | hc
    · exact Or.inl h0
    · exact Or.inl h1
    · exact h2
    · exact h3
    · exact Shaped.mem hrest c hc

theorem base64Decode_base64Encode (bytes : Bytes) :
    base64Decode (base64Encode bytes) = ⟨bytes, true⟩ := by
  have hshape := shaped_base64EncodeChars bytes
  have hnormal : normalizedChars (base64Encode bytes).toList = base64EncodeChars bytes := by
    rw [base64Encode, String.toList_ofList, normalizedChars, filter_eq_self]
    intro c hc
    rw [not_isSpace_of_mem (hshape.mem c hc), Bool.not_false]
  rw [base64Decode, hnormal, if_neg (not_not.mpr hshape.length_mod),
    decodeQuanta_base64EncodeChars]

/-- **Base64 comes back, and the decoder accepts padded base64 only, exactly for the
texts in which nothing but `=` follows a `=`** (or which it refuses for a character or
the length). -/
theorem base64_canonical_iff (text : String) :
    ((∀ bytes, base64Decode (base64Encode bytes) = ⟨bytes, true⟩) ∧
      ((base64Decode text).ok = true →
        WellPadded (normalizedChars text.toList) (base64Decode text).bytes.length)) ↔
    (Shaped (normalizedChars text.toList) → PaddingLast (normalizedChars text.toList)) := by
  rw [base64Decode_ok_iff]
  constructor
  · rintro ⟨-, hpadded⟩ hshape
    exact (wellPadded_iff hshape).mp (hpadded hshape)
  · intro hlast
    refine ⟨base64Decode_base64Encode, fun hshape => ?_⟩
    exact (wellPadded_iff hshape).mpr (hlast hshape)

theorem base64Decode_data_after_padding : base64Decode "AA==AAAA" = ⟨[0, 0, 0, 0], true⟩ ∧
      ¬ WellPadded (normalizedChars "AA==AAAA".toList) (base64Decode "AA==AAAA").bytes.length := by
  have hshape : (base64Decode "AA==AAAA").ok = true := by decide +kernel
  refine ⟨by decide +kernel, fun hpadded => ?_⟩
  have hlast := (wellPadded_iff ((base64Decode_ok_iff _).mp hshape)).mp hpadded
  revert hlast
  unfold PaddingLast
  decide +kernel

end Tamga.Util
