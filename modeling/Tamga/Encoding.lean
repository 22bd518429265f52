/-
The text codecs of `util/`: base64, hexadecimal, trimming and URI helpers.

`base64Decode` returns what the source leaves in its output vector together with
its boolean result, since some callers go on with the vector after a failure.
The decoder skips white space, so trimming a text or removing its white space
beforehand changes nothing (`base64Decode_trimmed`, `base64Decode_withoutSpaces`).
-/
import Tamga.Basic

namespace Tamga.Util

open List

/-- The bytes of a `std::string`. -/
def textBytes (s : String) : Bytes := s.toList.map fun c => UInt8.ofNat c.toNat

/-- A `std::string` assigned from bytes. -/
def bytesText (b : Bytes) : String := String.ofList (b.map fun x => Char.ofNat x.toNat)

theorem textBytes_append (s t : String) : textBytes (s ++ t) = textBytes s ++ textBytes t := by
  rw [textBytes, String.toList_append, map_append]
  rfl

theorem bytesText_textBytes {s : String} (h : ∀ c ∈ s.toList, c.toNat < 256) :
    bytesText (textBytes s) = s := by
  have hchars : (s.toList.map fun c => UInt8.ofNat c.toNat).map (fun x => Char.ofNat x.toNat) =
      s.toList := by
    rw [map_map]
    refine (map_congr_left fun c hc => ?_).trans (map_id _)
    show Char.ofNat (UInt8.ofNat c.toNat).toNat = c
    rw [UInt8.toNat_ofNat', Nat.mod_eq_of_lt (h c hc), Char.ofNat_toNat]
  rw [bytesText, textBytes, hchars, String.ofList_toList]

/-! ### Numbers -/

/-- A decimal number with leading zeros up to the width: `std::setw` with the fill
`0`, and `%0*zu`. -/
def zeroPadded (width n : Nat) : String :=
  String.ofList
    (List.replicate (width - (Nat.toDigits 10 n).length) '0' ++ Nat.toDigits 10 n)

theorem zeroPadded_injective (width : Nat) : Function.Injective (zeroPadded width) := by
  have hvalue : ∀ n, Nat.ofDigitChars 10 (zeroPadded width n).toList 0 = n := by
    intro n
    rw [zeroPadded, String.toList_ofList, Nat.ofDigitChars_append, Nat.ofDigitChars_replicate_zero,
      Nat.mul_zero, Nat.ofDigitChars_ten_toDigits]
  intro m n h
  rw [← hvalue m, h, hvalue]

theorem toNat_lt_of_isDigit {c : Char} (h : c.isDigit = true) : c.toNat < 256 := by
  rw [Char.isDigit, Bool.and_eq_true, decide_eq_true_eq, decide_eq_true_eq] at h
  have hle : c.val.toNat ≤ 57 := h.2
  show c.val.toNat < 256
  omega

theorem bytesText_decimal (n : Nat) : bytesText (textBytes (toString n)) = toString n := by
  refine bytesText_textBytes fun c hc => toNat_lt_of_isDigit ?_
  rw [Nat.toString_eq_ofList_toDigits, String.toList_ofList] at hc
  exact Nat.isDigit_of_mem_toDigits (by decide) (Nat.le_refl 10) hc

theorem toString_injective : Function.Injective (toString : Nat → String) := by
  intro m n h
  rw [Nat.toString_eq_ofList_toDigits, Nat.toString_eq_ofList_toDigits, String.ofList_inj] at h
  rw [← @Nat.ofDigitChars_ten_toDigits m, h, Nat.ofDigitChars_ten_toDigits]

/-! ### Base64 -/

def base64Alphabet : List Char :=
  "ABCDEFGHIJKLMNOPQRSTUVWXYZabcdefghijklmnopqrstuvwxyz0123456789+/".toList

/-- `DecodeChar`: the value of a base64 digit, 255 for any other character. -/
def decodeChar (c : Char) : Nat :=
  if 'A' ≤ c ∧ c ≤ 'Z' then c.toNat - 'A'.toNat
  else if 'a' ≤ c ∧ c ≤ 'z' then c.toNat - 'a'.toNat + 26
  else if '0' ≤ c ∧ c ≤ '9' then c.toNat - '0'.toNat + 52
  else if c = '+' then 62
  else if c = '/' then 63
  else 255

def base64Digit (n : Nat) : Char := base64Alphabet.getD n '='

def base64EncodeChars : Bytes → List Char
  | [] => []
  | [b0] =>
    let triple := b0.toNat * 65536
    [base64Digit (triple / 262144 % 64), base64Digit (triple / 4096 % 64), '=', '=']
  | [b0, b1] =>
    let triple := b0.toNat * 65536 + b1.toNat * 256
    [base64Digit (triple / 262144 % 64), base64Digit (triple / 4096 % 64),
      base64Digit (triple / 64 % 64), '=']
  | b0 :: b1 :: b2 :: rest =>
    let triple := b0.toNat * 65536 + b1.toNat * 256 + b2.toNat
    base64Digit (triple / 262144 % 64) :: base64Digit (triple / 4096 % 64) ::
      base64Digit (triple / 64 % 64) :: base64Digit (triple % 64) :: base64EncodeChars rest

def base64Encode (input : Bytes) : String := String.ofList (base64EncodeChars input)

/-- What `Base64Decode` leaves in `out`, and what it returns. -/
structure Decoded where
  bytes : Bytes
  ok : Bool
  deriving DecidableEq, Repr

/-- The bytes of one quantum, `none` if a character is not allowed there. -/
def decodeQuantum (c0 c1 c2 c3 : Char) : Option Bytes :=
  let d0 := decodeChar c0
  let d1 := decodeChar c1
  let d2 := if c2 = '=' then 0 else decodeChar c2
  let d3 := if c3 = '=' then 0 else decodeChar c3
  if d0 = 255 ∨ d1 = 255 ∨ (c2 ≠ '=' ∧ d2 = 255) ∨ (c3 ≠ '=' ∧ d3 = 255) then none
  else
    let triple := d0 * 262144 + d1 * 4096 + d2 * 64 + d3
    some ([UInt8.ofNat (triple / 65536)] ++
      (if c2 = '=' then [] else [UInt8.ofNat (triple / 256)]) ++
      (if c3 = '=' then [] else [UInt8.ofNat triple]))

/-- The loop of `Base64Decode` over the normalized text, whose length is a
multiple of four.  A bad quantum stops it; the bytes before it stay in `out`. -/
def decodeQuanta : List Char → Decoded
  | c0 :: c1 :: c2 :: c3 :: rest =>
    match decodeQuantum c0 c1 c2 c3 with
    | none => ⟨[], false⟩
    | some bs => ⟨bs ++ (decodeQuanta rest).bytes, (decodeQuanta rest).ok⟩
  | _ => ⟨[], true⟩

/-- The characters `Base64Decode` does not skip. -/
def normalizedChars (text : List Char) : List Char := text.filter fun c => !isSpace c

/-- `Base64Decode` with an empty output vector. -/
def base64Decode (input : String) : Decoded :=
  if (normalizedChars input.toList).length % 4 ≠ 0 then ⟨[], false⟩
  else decodeQuanta (normalizedChars input.toList)

theorem base64Decode_congr {s t : String}
    (h : normalizedChars s.toList = normalizedChars t.toList) : base64Decode s = base64Decode t := by
  rw [base64Decode, base64Decode, h]

/-! ### Trimming -/

/-- The characters ` \t\r\n`, which the XML code trims. -/
def isXmlSpace (c : Char) : Bool := c == ' ' || c == '\t' || c == '\r' || c == '\n'

theorem isSpace_of_isXmlSpace {c : Char} (h : isXmlSpace c = true) : isSpace c = true := by
  simp only [isXmlSpace, Bool.or_eq_true, beq_iff_eq] at h
  rcases h with ((rfl | rfl) | rfl) | rfl <;> rfl

/-- A text without its outer characters ` \t\r\n`. -/
def trimmed (text : String) : String :=
  String.ofList (((text.toList.dropWhile isXmlSpace).reverse.dropWhile isXmlSpace).reverse)

def withoutSpaces (text : String) : String := String.ofList (normalizedChars text.toList)

theorem normalizedChars_dropWhile (text : List Char) :
    normalizedChars (text.dropWhile isXmlSpace) = normalizedChars text := by
  induction text with
  | nil => rfl
  | cons c text ih =>
    by_cases h : isXmlSpace c = true
    · rw [dropWhile_cons_of_pos h, ih, normalizedChars, normalizedChars,
        filter_cons_of_neg (by simp [isSpace_of_isXmlSpace h])]
    · rw [dropWhile_cons_of_neg h]

theorem normalizedChars_trimmed (text : String) :
    normalizedChars (trimmed text).toList = normalizedChars text.toList := by
  have hreverse : ∀ l : List Char, normalizedChars l.reverse = (normalizedChars l).reverse :=
    fun _ => filter_reverse
  rw [trimmed, String.toList_ofList, hreverse, normalizedChars_dropWhile, hreverse,
    reverse_reverse, normalizedChars_dropWhile]

theorem base64Decode_trimmed (text : String) : base64Decode (trimmed text) = base64Decode text :=
  base64Decode_congr (normalizedChars_trimmed text)

theorem base64Decode_withoutSpaces (text : String) :
    base64Decode (withoutSpaces text) = base64Decode text := by
  refine base64Decode_congr ?_
  rw [withoutSpaces, String.toList_ofList, normalizedChars, normalizedChars, filter_filter]
  exact filter_congr fun c _ => Bool.and_self _

/-! ### Hexadecimal -/

def hexDigit (n : Nat) : Char := "0123456789abcdef".toList.getD n '0'

def hexEncode (data : Bytes) : String :=
  String.ofList (data.flatMap fun b => [hexDigit (b.toNat / 16), hexDigit (b.toNat % 16)])

/-- `HexValue`, with `none` for the result -1. -/
def hexValue (c : Char) : Option Nat :=
  if '0' ≤ c ∧ c ≤ '9' then some (c.toNat - '0'.toNat)
  else if 'a' ≤ c ∧ c ≤ 'f' then some (c.toNat - 'a'.toNat + 10)
  else if 'A' ≤ c ∧ c ≤ 'F' then some (c.toNat - 'A'.toNat + 10)
  else none

/-! ### Texts and URIs -/

/-- `std::tolower` in the C locale. -/
def lowerChar (c : Char) : Char :=
  if 'A' ≤ c ∧ c ≤ 'Z' then Char.ofNat (c.toNat - 'A'.toNat + 'a'.toNat) else c

def toLower (text : String) : String := String.ofList (text.toList.map lowerChar)

/-- `text.rfind(start, 0) == 0`. -/
def startsWithText (text start : String) : Bool := start.toList.isPrefixOf text.toList

/-- `text.substr(n)`. -/
def dropText (text : String) (n : Nat) : String := String.ofList (text.toList.drop n)

/-- `UriTail`: what follows the last `#`, `/` or `:`. -/
def uriTail (uri : String) : String :=
  String.ofList (uri.toList.reverse.takeWhile fun c => !(c == '#' || c == '/' || c == ':')).reverse

/-- The percent-decoding loop of `NormalizeAsicEntryUri`. -/
def percentDecode : List Char → Option (List Char)
  | [] => some []
  | '%' :: hi :: lo :: rest =>
    match hexValue hi, hexValue lo with
    | some h, some l => (percentDecode rest).map (Char.ofNat (h * 16 + l) :: ·)
    | _, _ => none
  | '%' :: _ => none
  | c :: rest => (percentDecode rest).map (c :: ·)

def normalizeAsicEntryUri (uri : String) : Except String String :=
  match percentDecode uri.toList with
  | none => .error ("Некоректне percent-encoding у URI-посиланні: " ++ uri)
  | some out =>
    .ok (if startsWithText (String.ofList out) "./" then dropText (String.ofList out) 2
      else String.ofList out)

end Tamga.Util
