/-
The Unicode encoding forms of a scalar value, and well-formed texts.

A text in one of the encoding forms is well formed when it is cut into the code unit
sequences of scalar values.  For UTF-8 these are the rows of table 3-7 of the Unicode
standard, which leave out overlong forms, surrogates and values above U+10FFFF.

* `row_iff`, `pair_iff` — the rows of the tables are the forms of scalar values;
* `wellFormedUtf8_iff`, `wellFormedUtf16_iff` — a well-formed text is the form of a
  list of scalar values.
-/
import Mathlib.Data.List.Basic

namespace Unicode

open List

/-- A Unicode scalar value: no surrogate, at most U+10FFFF. -/
def IsScalar (n : Nat) : Prop := n < 0xD800 ∨ 0xDFFF < n ∧ n ≤ 0x10FFFF

def utf8 (n : Nat) : List UInt8 :=
  if n < 0x80 then [UInt8.ofNat n]
  else if n < 0x800 then [UInt8.ofNat (0xC0 + n / 64), UInt8.ofNat (0x80 + n % 64)]
  else if n < 0x10000 then
    [UInt8.ofNat (0xE0 + n / 4096), UInt8.ofNat (0x80 + n / 64 % 64), UInt8.ofNat (0x80 + n % 64)]
  else
    [UInt8.ofNat (0xF0 + n / 262144), UInt8.ofNat (0x80 + n / 4096 % 64),
      UInt8.ofNat (0x80 + n / 64 % 64), UInt8.ofNat (0x80 + n % 64)]

def utf16 (n : Nat) : List UInt16 :=
  if n < 0x10000 then [UInt16.ofNat n]
  else [UInt16.ofNat (0xD800 + (n - 0x10000) / 1024), UInt16.ofNat (0xDC00 + (n - 0x10000) % 1024)]

theorem utf8_ne_nil (n : Nat) : utf8 n ≠ [] := by
  rw [utf8]
  split
  · simp
  · split
    · simp
    · split <;> simp

theorem utf16_ne_nil (n : Nat) : utf16 n ≠ [] := by
  rw [utf16]
  split <;> simp

/-! ### The tables -/

def Between (low high : Nat) (b : UInt8) : Prop := low ≤ b.toNat ∧ b.toNat ≤ high

/-- A row of table 3-7: the bounds for the second byte depend on the first. -/
def Row : List UInt8 → Prop
  | [b₁] => Between 0x00 0x7F b₁
  | [b₁, b₂] => Between 0xC2 0xDF b₁ ∧ Between 0x80 0xBF b₂
  | [b₁, b₂, b₃] =>
    (Between 0xE0 0xE0 b₁ ∧ Between 0xA0 0xBF b₂ ∨ Between 0xE1 0xEC b₁ ∧ Between 0x80 0xBF b₂ ∨
      Between 0xED 0xED b₁ ∧ Between 0x80 0x9F b₂ ∨ Between 0xEE 0xEF b₁ ∧ Between 0x80 0xBF b₂) ∧
    Between 0x80 0xBF b₃
  | [b₁, b₂, b₃, b₄] =>
    (Between 0xF0 0xF0 b₁ ∧ Between 0x90 0xBF b₂ ∨ Between 0xF1 0xF3 b₁ ∧ Between 0x80 0xBF b₂ ∨
      Between 0xF4 0xF4 b₁ ∧ Between 0x80 0x8F b₂) ∧
    Between 0x80 0xBF b₃ ∧ Between 0x80 0xBF b₄
  | _ => False

/-- A code unit that is no surrogate, or a high and a low surrogate. -/
def Pair : List UInt16 → Prop
  | [u] => u.toNat < 0xD800 ∨ 0xDFFF < u.toNat
  | [u, v] => (0xD800 ≤ u.toNat ∧ u.toNat ≤ 0xDBFF) ∧ 0xDC00 ≤ v.toNat ∧ v.toNat ≤ 0xDFFF
  | _ => False

theorem ofNat_eq {b : UInt8} {n : Nat} (h : n = b.toNat) : UInt8.ofNat n = b := by
  rw [h, UInt8.ofNat_toNat]

theorem ofNat16_eq {u : UInt16} {n : Nat} (h : n = u.toNat) : UInt16.ofNat n = u := by
  rw [h, UInt16.ofNat_toNat]

theorem toNat_ofNat {n : Nat} (h : n < 256) : (UInt8.ofNat n).toNat = n := by
  rw [UInt8.toNat_ofNat', Nat.mod_eq_of_lt h]

theorem toNat_ofNat16 {n : Nat} (h : n < 65536) : (UInt16.ofNat n).toNat = n := by
  rw [UInt16.toNat_ofNat', Nat.mod_eq_of_lt h]

/-- **The rows of table 3-7 are the UTF-8 forms of the scalar values.** -/
theorem row_iff {bytes : List UInt8} : Row bytes ↔ ∃ n, IsScalar n ∧ utf8 n = bytes := by
  constructor
  · intro h
    match bytes, h with
    | [b₁], h =>
      obtain ⟨-, hle⟩ := h
      refine ⟨b₁.toNat, Or.inl (by omega), ?_⟩
      rw [utf8, if_pos (by omega), UInt8.ofNat_toNat]
    | [b₁, b₂], h =>
      obtain ⟨⟨h₁, h₁'⟩, h₂, h₂'⟩ := h
      refine ⟨(b₁.toNat - 0xC0) * 64 + (b₂.toNat - 0x80), Or.inl (by omega), ?_⟩
      rw [utf8, if_neg (by omega), if_pos (by omega), ofNat_eq (b := b₁) (by omega),
        ofNat_eq (b := b₂) (by omega)]
    | [b₁, b₂, b₃], h =>
      obtain ⟨hlead, h₃, h₃'⟩ := h
      simp only [Between] at hlead
      refine ⟨(b₁.toNat - 0xE0) * 4096 + (b₂.toNat - 0x80) * 64 + (b₃.toNat - 0x80), ?_, ?_⟩
      · rw [IsScalar]
        omega
      · rw [utf8, if_neg (by omega), if_neg (by omega), if_pos (by omega),
          ofNat_eq (b := b₁) (by omega), ofNat_eq (b := b₂) (by omega),
          ofNat_eq (b := b₃) (by omega)]
    | [b₁, b₂, b₃, b₄], h =>
      obtain ⟨hlead, ⟨h₃, h₃'⟩, h₄, h₄'⟩ := h
      simp only [Between] at hlead
      refine ⟨(b₁.toNat - 0xF0) * 262144 + (b₂.toNat - 0x80) * 4096 + (b₃.toNat - 0x80) * 64 +
        (b₄.toNat - 0x80), ?_, ?_⟩
      · rw [IsScalar]
        omega
      · rw [utf8, if_neg (by omega), if_neg (by omega), if_neg (by omega),
          ofNat_eq (b := b₁) (by omega), ofNat_eq (b := b₂) (by omega),
          ofNat_eq (b := b₃) (by omega), ofNat_eq (b := b₄) (by omega)]
  · rintro ⟨n, hn, rfl⟩
    rw [IsScalar] at hn
    rw [utf8]
    split
    · show Between _ _ _
      rw [Between, toNat_ofNat (by omega)]
      omega
    · split
      · simp only [Row, Between]
        rw [toNat_ofNat (by omega), toNat_ofNat (by omega)]
        omega
      · split
        · simp only [Row, Between]
          rw [toNat_ofNat (by omega), toNat_ofNat (by omega), toNat_ofNat (by omega)]
          omega
        · simp only [Row, Between]
          rw [toNat_ofNat (by omega), toNat_ofNat (by omega), toNat_ofNat (by omega),
            toNat_ofNat (by omega)]
          omega

theorem pair_iff {units : List UInt16} : Pair units ↔ ∃ n, IsScalar n ∧ utf16 n = units := by
  constructor
  · intro h
    match units, h with
    | [u], h =>
      have hlt := u.toNat_lt
      refine ⟨u.toNat, ?_, ?_⟩
      · rw [IsScalar]
        simp only [Pair] at h
        omega
      · rw [utf16, if_pos (by omega), UInt16.ofNat_toNat]
    | [u, v], h =>
      obtain ⟨⟨hu, hu'⟩, hv, hv'⟩ := h
      refine ⟨0x10000 + (u.toNat - 0xD800) * 1024 + (v.toNat - 0xDC00), Or.inr (by omega), ?_⟩
      rw [utf16, if_neg (by omega), ofNat16_eq (u := u) (by omega), ofNat16_eq (u := v) (by omega)]
  · rintro ⟨n, hn, rfl⟩
    rw [IsScalar] at hn
    rw [utf16]
    split
    · simp only [Pair]
      rw [toNat_ofNat16 (by omega)]
      omega
    · simp only [Pair]
      rw [toNat_ofNat16 (by omega), toNat_ofNat16 (by omega)]
      omega

/-! ### Well-formed texts -/

/-- A UTF-8 text: rows of the table, one after the other. -/
def WellFormedUtf8 (text : List UInt8) : Prop :=
  ∃ rows : List (List UInt8), (∀ r ∈ rows, Row r) ∧ rows.flatten = text

def WellFormedUtf16 (text : List UInt16) : Prop :=
  ∃ pairs : List (List UInt16), (∀ p ∈ pairs, Pair p) ∧ pairs.flatten = text

theorem flatten_forms {α : Type} {Chunk : List α → Prop} {form : Nat → List α}
    (h : ∀ chunk, Chunk chunk ↔ ∃ n, IsScalar n ∧ form n = chunk) {text : List α} :
    (∃ chunks : List (List α), (∀ c ∈ chunks, Chunk c) ∧ chunks.flatten = text) ↔
      ∃ ns : List Nat, (∀ n ∈ ns, IsScalar n) ∧ ns.flatMap form = text := by
  constructor
  · rintro ⟨chunks, hchunks, rfl⟩
    induction chunks with
    | nil => exact ⟨[], by simp, rfl⟩
    | cons c chunks ih =>
      obtain ⟨n, hn, hc⟩ := (h c).mp (hchunks c mem_cons_self)
      obtain ⟨ns, hns, hrest⟩ := ih fun c hc => hchunks c (mem_cons_of_mem _ hc)
      refine ⟨n :: ns, forall_mem_cons.mpr ⟨hn, hns⟩, ?_⟩
      rw [flatMap_cons, hc, hrest, flatten_cons]
  · rintro ⟨ns, hns, rfl⟩
    refine ⟨ns.map form, ?_, (flatMap_def ..).symm⟩
    intro c hc
    obtain ⟨n, hn, rfl⟩ := mem_map.mp hc
    exact (h _).mpr ⟨n, hns n hn, rfl⟩

theorem wellFormedUtf8_iff {text : List UInt8} :
    WellFormedUtf8 text ↔ ∃ ns : List Nat, (∀ n ∈ ns, IsScalar n) ∧ ns.flatMap utf8 = text :=
  flatten_forms fun _ => row_iff

theorem wellFormedUtf16_iff {text : List UInt16} :
    WellFormedUtf16 text ↔ ∃ ns : List Nat, (∀ n ∈ ns, IsScalar n) ∧ ns.flatMap utf16 = text :=
  flatten_forms fun _ => pair_iff

end Unicode
