/-
The serial number of a certificate in a XAdES signature (`xades/XadesBuilder.cpp`,
`HexToDecimal`, and `core/cryptonite/CertificateInfo.cpp`).

The vector of the source holds the decimal digits of the number read so far, the least
significant one first (`foldl_addDigit`): a hexadecimal digit multiplies the number by 16 and
comes in as the first carry.

* `serialNumber_exact` — the number that is written, and when it is the serial number;
* `negative_serial_differs` — a negative serial number is written as another number.
-/
import Mathlib.Data.List.Induction
import Mathlib.Data.Nat.Digits.Defs
import Tamga.DerTlv
import Tamga.Encoding

namespace Tamga.Xades

open Util List

/-! ### The conversion -/

/-- The `while` loop: the digits of the carry that is left. -/
def pushCarry (carry : Nat) : List Nat :=
  if 0 < carry then carry % 10 :: pushCarry (carry / 10) else []

/-- The `for` loop over the digits, and the `while` loop behind it.  No product is greater than
9 * 16 + 15, so that an `int` holds it. -/
def addDigit : List Nat → Nat → List Nat
  | [], carry => pushCarry carry
  | digit :: rest, carry => (digit * 16 + carry) % 10 :: addDigit rest ((digit * 16 + carry) / 10)

/-- `HexToDecimal`; characters that are no digits are skipped. -/
def hexToDecimal (hex : String) : String :=
  -- a character has the value that `HexValue` of `AsicUri.cpp` gives it, or `continue` is taken
  let digits := (hex.toList.filterMap hexValue).foldl addDigit [0]
  let out := String.ofList (digits.reverse.map fun digit => Char.ofNat ('0'.toNat + digit))
  if out = "" then "0" else out

/-! ### The digits of the number read so far -/

theorem pushCarry_zero : pushCarry 0 = [] := by rw [pushCarry, if_neg (Nat.lt_irrefl 0)]

theorem pushCarry_pos {n : Nat} (h : 0 < n) : pushCarry n = n % 10 :: pushCarry (n / 10) := by
  rw [pushCarry, if_pos h]

/-- One digit more: the carry that a decimal digit leaves is what the rest has to add. -/
theorem addDigit_pushCarry (n carry : Nat) :
    addDigit (pushCarry n) carry = pushCarry (n * 16 + carry) := by
  induction n using Nat.strongRecOn generalizing carry with
  | ind n ih =>
    rcases Nat.eq_zero_or_pos n with rfl | hpos
    · rw [pushCarry_zero, addDigit, Nat.zero_mul, Nat.zero_add]
    · have hlast : (n % 10 * 16 + carry) % 10 = (n * 16 + carry) % 10 := by omega
      have hrest : n / 10 * 16 + (n % 10 * 16 + carry) / 10 = (n * 16 + carry) / 10 := by omega
      rw [pushCarry_pos hpos, addDigit, ih (n / 10) (by omega), hlast, hrest,
        ← pushCarry_pos (by omega)]

def decimalDigits (n : Nat) : List Nat := if n = 0 then [0] else pushCarry n

theorem addDigit_decimalDigits (n carry : Nat) :
    addDigit (decimalDigits n) carry = decimalDigits (n * 16 + carry) := by
  rw [decimalDigits, decimalDigits]
  by_cases hn : n = 0
  · rw [if_pos hn, hn, Nat.zero_mul, Nat.zero_add, addDigit, addDigit, Nat.zero_mul, Nat.zero_add]
    by_cases hcarry : carry = 0
    · rw [if_pos hcarry, hcarry, Nat.zero_mod, Nat.zero_div, pushCarry_zero]
    · rw [if_neg hcarry, ← pushCarry_pos (by omega)]
  · rw [if_neg hn, if_neg (by omega), addDigit_pushCarry]

/-- The number that digits denote in base 16, when they come after the number `n`. -/
def hexNumber (n : Nat) (values : List Nat) : Nat := values.foldl (fun m value => m * 16 + value) n

theorem foldl_addDigit (values : List Nat) (n : Nat) :
    values.foldl addDigit (decimalDigits n) = decimalDigits (hexNumber n values) := by
  induction values generalizing n with
  | nil => rfl
  | cons value rest ih =>
    rw [foldl_cons, addDigit_decimalDigits, ih]
    rfl

theorem map_decimalDigits (n : Nat) :
    (decimalDigits n).reverse.map (fun digit => Char.ofNat ('0'.toNat + digit)) =
      Nat.toDigits 10 n := by
  have hchar : ∀ digit < 10, Char.ofNat ('0'.toNat + digit) = Nat.digitChar digit := by decide
  rcases Nat.eq_zero_or_pos n with rfl | hpos
  · rfl
  rw [decimalDigits, if_neg (by omega)]
  induction n using Nat.strongRecOn with
  | ind n ih =>
    rw [pushCarry_pos hpos, reverse_cons, map_append, map_singleton,
      hchar _ (Nat.mod_lt n (by decide))]
    by_cases hsmall : n < 10
    · rw [Nat.toDigits_of_lt_base hsmall, Nat.div_eq_of_lt hsmall, Nat.mod_eq_of_lt hsmall,
        pushCarry_zero]
      rfl
    · rw [ih (n / 10) (by omega) (by omega), ← Nat.toDigits_of_base_le (by decide) (by omega)]

theorem hexToDecimal_eq (text : List Char) : hexToDecimal (String.ofList text) =
    toString (hexNumber 0 (text.filterMap hexValue)) := by
  have hdigits := foldl_addDigit (text.filterMap hexValue) 0
  rw [show decimalDigits 0 = [0] from rfl] at hdigits
  rw [hexToDecimal, String.toList_ofList, hdigits, map_decimalDigits,
    ← Nat.toString_eq_ofList_toDigits]
  refine if_neg fun hempty => ?_
  rw [Nat.toString_eq_ofList_toDigits, String.ofList_eq_empty_iff] at hempty
  exact Nat.toDigits_ne_nil hempty

def hexChar (digit : Bool × Fin 16) : Char :=
  if digit.1 then (hexDigit digit.2).toUpper else hexDigit digit.2

theorem hexToDecimal_map_hexChar (digits : List (Bool × Fin 16)) :
    hexToDecimal (String.ofList (digits.map hexChar)) =
      toString (Nat.ofDigits 16 (digits.map fun digit => digit.2.val).reverse) := by
  have hdigit : ∀ (upper : Bool) (value : Fin 16),
      hexValue (hexChar (upper, value)) = some value.val := by decide
  have hvalues : (digits.map hexChar).filterMap hexValue =
      digits.map fun digit => digit.2.val := by
    rw [filterMap_map, ← filterMap_eq_map]
    exact filterMap_congr fun digit _ => hdigit digit.1 digit.2
  rw [hexToDecimal_eq, hvalues, Nat.ofDigits_eq_foldr, foldr_reverse, hexNumber]
  simp only [Nat.cast_id, Nat.mul_comm, Nat.add_comm]

/-! ### Serial numbers -/

/-- `serial_number_hex`, from the content octets of the INTEGER. -/
def serialNumberHex (serialNumber : Bytes) : String :=
  if serialNumber = [] then "" else hexEncode serialNumber

/-- The INTEGER with the given content octets, in two's complement. -/
def integerValue (octets : Bytes) : Int :=
  if octets.head?.any (128 ≤ ·) then octetsValue octets - (256 ^ octets.length : Nat)
  else octetsValue octets

theorem hexToDecimal_serialNumberHex (octets : Bytes) :
    hexToDecimal (serialNumberHex octets) = toString (octetsValue octets) := by
  have hhex : serialNumberHex octets = String.ofList
      (octets.flatMap fun b => [hexDigit (b.toNat / 16), hexDigit (b.toNat % 16)]) := by
    cases octets <;> rfl
  have hdigits : ∀ b : UInt8, ([hexDigit (b.toNat / 16), hexDigit (b.toNat % 16)]).filterMap
      hexValue = [b.toNat / 16, b.toNat % 16] := forall_byte (by decide +kernel)
  rw [hhex, hexToDecimal_eq, filterMap_flatMap, octetsValue]
  simp only [hdigits]
  clear hhex
  generalize 0 = n
  congr 1
  -- two digits of base 16 are one of base 256
  induction octets generalizing n with
  | nil => rfl
  | cons b rest ih =>
    have hoctet : (n * 16 + b.toNat / 16) * 16 + b.toNat % 16 = n * 256 + b.toNat := by omega
    rw [foldl_cons, ← ih, ← hoctet]
    rfl

theorem octetsValue_lt (octets : Bytes) : octetsValue octets < 256 ^ octets.length := by
  induction octets using List.reverseRecOn with
  | nil => decide
  | append_singleton front b ih =>
    have hb := b.toNat_lt
    rw [octetsValue, foldl_concat, ← octetsValue, length_append, length_singleton,
      Nat.pow_succ]
    omega

theorem toString_eq_iff (n : Nat) (i : Int) : toString n = toString i ↔ n = i := by
  cases i with
  | ofNat m => exact ⟨fun h => congrArg Int.ofNat (toString_injective h), fun h => by cases h; rfl⟩
  | negSucc m =>
    refine iff_of_false (fun h => ?_) (by simp)
    have hsign : '-' ∈ (toString n).toList := by
      rw [h, show toString (Int.negSucc m) = "-" ++ toString (m + 1) from rfl]
      simp
    rw [Nat.toString_eq_ofList_toDigits, String.toList_ofList] at hsign
    exact absurd (Nat.isDigit_of_mem_toDigits (by decide) (Nat.le_refl 10) hsign) (by decide)

/-- **The serial number that is written.**  For any hexadecimal digits it is the number that they
denote, in decimal and without leading zeros.  For a certificate it is the number that the octets
of the INTEGER denote without a sign, which is the serial number exactly when that is not
negative. -/
theorem serialNumber_exact :
    (∀ digits : List (Bool × Fin 16), hexToDecimal (String.ofList (digits.map hexChar)) =
      toString (Nat.ofDigits 16 (digits.map fun digit => digit.2.val).reverse)) ∧
    ∀ octets : Bytes, hexToDecimal (serialNumberHex octets) = toString (octetsValue octets) ∧
      (hexToDecimal (serialNumberHex octets) = toString (integerValue octets) ↔
        0 ≤ integerValue octets) := by
  refine ⟨hexToDecimal_map_hexChar, fun octets => ⟨hexToDecimal_serialNumberHex octets, ?_⟩⟩
  rw [hexToDecimal_serialNumberHex, toString_eq_iff, integerValue]
  have hbound := octetsValue_lt octets
  split
  · omega
  · exact iff_of_true rfl (Int.natCast_nonneg _)

/-- The serial number −1 is written as 255. -/
theorem negative_serial_differs :
    ¬∀ octets, hexToDecimal (serialNumberHex octets) = toString (integerValue octets) := by
  intro h
  have hone := (hexToDecimal_serialNumberHex [0xFF]).symm.trans (h [0xFF])
  rw [toString_eq_iff] at hone
  exact absurd hone (by decide)

end Tamga.Xades
