/-
JSON strings: the parser of `util/Json.cpp` and the three encoders of the code base
(`EscapeJson` there, `JsonEscape` in `PolicyCache.cpp` and `EscapeJsonString` in
`EvidenceStore.cpp`).

The parser works on the text that is left, so that the offset it returns is the size of
the text minus what is left of it.

* `stringLoop_escapeByte` — what the encoders write for a byte is read back in one round;
* `json_string_round_trip` — what they write for a text is read back, wherever it stands.
-/
import Tamga.Encoding
import Tamga.Utf

namespace Tamga.Util

open List

def ascii (text : List Char) : Bytes := text.map Char.toUInt8

def quote : UInt8 := 0x22

def backslash : UInt8 := 0x5C

/-! ### The parser -/

def jsonHexDigit (ch : UInt8) : Option Nat :=
  if ch ≥ '0'.toUInt8 ∧ ch ≤ '9'.toUInt8 then some (ch.toNat - '0'.toNat)
  else if ch ≥ 'a'.toUInt8 ∧ ch ≤ 'f'.toUInt8 then some (10 + (ch.toNat - 'a'.toNat))
  else if ch ≥ 'A'.toUInt8 ∧ ch ≤ 'F'.toUInt8 then some (10 + (ch.toNat - 'A'.toNat))
  else none

/-- The loop of `ParseJsonHexQuad`. -/
def hexQuadLoop : Nat → Nat → Bytes → Option (Nat × Bytes)
  | 0, value, text => some (value, text)
  | _ + 1, _, [] => none
  | count + 1, value, ch :: text =>
    match jsonHexDigit ch with
    | none => none
    | some digit => hexQuadLoop count (value <<< 4 ||| digit) text

def parseJsonHexQuad (text : Bytes) : Option (Nat × Bytes) :=
  if text.length < 4 then none else hexQuadLoop 4 0 text

/-- The second half of a surrogate pair: another `\u` with a low surrogate. -/
def trailSurrogate (lead : Nat) (text : Bytes) : Option (Nat × Bytes) :=
  if text.length < 6 ∨ text[0]? ≠ some backslash ∨ text[1]? ≠ some 'u'.toUInt8 then none
  else
    match parseJsonHexQuad (text.drop 2) with
    | none => none
    | some (trail, rest) =>
      if trail < 0xDC00 ∨ trail > 0xDFFF then none
      else some (0x10000 + ((lead - 0xD800) <<< 10) + (trail - 0xDC00), rest)

def escapedCodePoint (text : Bytes) : Option (Nat × Bytes) :=
  match parseJsonHexQuad text with
  | none => none
  | some (codePoint, rest) =>
    if codePoint ≥ 0xD800 ∧ codePoint ≤ 0xDBFF then trailSurrogate codePoint rest
    else some (codePoint, rest)

/-- The switch over the character after a backslash: the bytes to append and the text
that is left. -/
def jsonEscapeSequence : Bytes → Option (Bytes × Bytes)
  | [] => none
  | escaped :: rest =>
    if escaped = quote ∨ escaped = backslash ∨ escaped = '/'.toUInt8 then some ([escaped], rest)
    else if escaped = 'b'.toUInt8 then some ([0x08], rest)
    else if escaped = 'f'.toUInt8 then some ([0x0C], rest)
    else if escaped = 'n'.toUInt8 then some ([0x0A], rest)
    else if escaped = 'r'.toUInt8 then some ([0x0D], rest)
    else if escaped = 't'.toUInt8 then some ([0x09], rest)
    else if escaped = 'u'.toUInt8 then
      match escapedCodePoint rest with
      | none => none
      | some (codePoint, rest) => (appendUtf8CodePoint codePoint).map fun bytes => (bytes, rest)
    else none

/-- The loop of `ParseJsonString`, with the number of rounds it may take. -/
def stringLoop : Nat → Bytes → Bytes → Option (Bytes × Bytes)
  | 0, _, _ => none
  | _ + 1, _, [] => none
  | fuel + 1, out, ch :: rest =>
    if ch = quote then some (out, rest)
    else if ch < 0x20 then none
    else if ch ≠ backslash then stringLoop fuel (out ++ [ch]) rest
    else
      match jsonEscapeSequence rest with
      | none => none
      | some (bytes, rest) => stringLoop fuel (out ++ bytes) rest

/-- `ParseJsonString`: the string at the offset and the offset after it.  A round of the
loop takes at least one byte, so the text is never longer than the rounds left. -/
def parseJsonString (json : Bytes) (offset : Nat) : Option (Bytes × Nat) :=
  match json.drop offset with
  | [] => none
  | ch :: rest =>
    if ch ≠ quote then none
    else (stringLoop rest.length [] rest).map fun (out, left) => (out, json.length - left.length)

/-! ### The encoders -/

/-- The switch that the encoders share; they differ in how they write the other control
characters. -/
def escapeByte (control : UInt8 → Bytes) (ch : UInt8) : Bytes :=
  if ch = backslash then [backslash, backslash]
  else if ch = quote then [backslash, quote]
  else if ch = 0x08 then [backslash, 'b'.toUInt8]
  else if ch = 0x0C then [backslash, 'f'.toUInt8]
  else if ch = 0x0A then [backslash, 'n'.toUInt8]
  else if ch = 0x0D then [backslash, 'r'.toUInt8]
  else if ch = 0x09 then [backslash, 't'.toUInt8]
  else if ch < 0x20 then control ch
  else [ch]

/-- The four digits that `std::hex`, `std::setw(4)` and `std::setfill('0')` give. -/
def streamedHex (ch : UInt8) : Bytes :=
  let digits := Nat.toDigits 16 ch.toNat
  ascii (List.replicate (4 - digits.length) '0' ++ digits)

/-- The digits of `kHex` for the two halves of a byte. -/
def nibbles (ch : UInt8) : Bytes :=
  ascii [hexDigit ((ch >>> 4 &&& 0x0F).toNat), hexDigit ((ch &&& 0x0F).toNat)]

def escapeJson (value : Bytes) : Bytes :=
  value.flatMap (escapeByte fun ch => [backslash, 'u'.toUInt8] ++ streamedHex ch)

/-- `JsonEscape` of the policy cache. -/
def jsonEscape (value : Bytes) : Bytes :=
  value.flatMap (escapeByte fun ch => [backslash, 'u'.toUInt8] ++ ascii ['0', '0'] ++ nibbles ch)

/-- `JsonUnicodeEscape` of the evidence store. -/
def jsonUnicodeEscape (ch : UInt8) : Bytes := [backslash] ++ ascii ['u', '0', '0'] ++ nibbles ch

/-- `EscapeJsonString` of the evidence store. -/
def escapeJsonString (value : Bytes) : Bytes := value.flatMap (escapeByte jsonUnicodeEscape)

/-! ### One byte -/

theorem streamedHex_eq : ∀ ch : UInt8, ch < 0x20 →
    streamedHex ch = ascii ['0', '0'] ++ nibbles ch :=
  forall_byte (by decide +kernel)

theorem escapeByte_streamed : (escapeByte fun ch => [backslash, 'u'.toUInt8] ++ streamedHex ch) =
      escapeByte jsonUnicodeEscape := by
  funext ch
  by_cases h : ch < 0x20
  · simp only [escapeByte, streamedHex_eq ch h]
    rfl
  · simp only [escapeByte, if_neg h]

theorem hexQuadLoop_append (digits rest : Bytes) (value : Nat) :
    hexQuadLoop digits.length value (digits ++ rest) =
      (hexQuadLoop digits.length value digits).map fun r => (r.1, r.2 ++ rest) := by
  induction digits generalizing value with
  | nil => rfl
  | cons ch digits ih =>
    rw [cons_append, length_cons, hexQuadLoop, hexQuadLoop]
    cases jsonHexDigit ch with
    | none => rfl
    | some digit => exact ih _

theorem parseJsonHexQuad_nibbles (ch : UInt8) (rest : Bytes) :
    parseJsonHexQuad (ascii ['0', '0'] ++ nibbles ch ++ rest) = some (ch.toNat, rest) := by
  have hdigits : ∀ ch, hexQuadLoop 4 0 (ascii ['0', '0'] ++ nibbles ch) = some (ch.toNat, []) :=
    forall_byte (by decide +kernel)
  have hlen : (ascii ['0', '0'] ++ nibbles ch).length = 4 := rfl
  have happend := hexQuadLoop_append (ascii ['0', '0'] ++ nibbles ch) rest 0
  rw [hlen, hdigits] at happend
  rw [parseJsonHexQuad, if_neg (by rw [length_append, hlen]; omega), happend]
  rfl

theorem jsonEscapeSequence_unicode {ch : UInt8} (h : ch < 0x20) (rest : Bytes) :
    jsonEscapeSequence ('u'.toUInt8 :: (ascii ['0', '0'] ++ nibbles ch ++ rest)) =
      some ([ch], rest) := by
  have hlt : ch.toNat < 0x20 := UInt8.lt_iff_toNat_lt.mp h
  have hpoint : escapedCodePoint (ascii ['0', '0'] ++ nibbles ch ++ rest) =
      some (ch.toNat, rest) := by
    rw [escapedCodePoint, parseJsonHexQuad_nibbles]
    exact if_neg (by omega)
  have hbytes : appendUtf8CodePoint ch.toNat = some [ch] := by
    rw [appendUtf8CodePoint_eq (Or.inl (by omega)), Unicode.utf8, if_pos (by omega),
      UInt8.ofNat_toNat]
  show (match escapedCodePoint (ascii ['0', '0'] ++ nibbles ch ++ rest) with
    | none => none
    | some (codePoint, rest) => (appendUtf8CodePoint codePoint).map fun bytes => (bytes, rest)) = _
  rw [hpoint]
  show (appendUtf8CodePoint ch.toNat).map _ = _
  rw [hbytes]
  rfl

theorem stringLoop_escapeByte (ch : UInt8) (fuel : Nat) (out rest : Bytes) :
    stringLoop (fuel + 1) out (escapeByte jsonUnicodeEscape ch ++ rest) =
      stringLoop fuel (out ++ [ch]) rest := by
  rw [escapeByte]
  split
  · next h => rw [h]; rfl
  next hbackslash =>
  split
  · next h => rw [h]; rfl
  next hquote =>
  -- the characters with a letter of their own
  iterate 5
    split
    · next h => rw [h]; rfl
  split
  · next h =>
    have hread := jsonEscapeSequence_unicode h rest
    show (match jsonEscapeSequence ('u'.toUInt8 :: (ascii ['0', '0'] ++ nibbles ch ++ rest)) with
      | none => none
      | some (bytes, rest) => stringLoop fuel (out ++ bytes) rest) = _
    rw [hread]
  · next h =>
    rw [singleton_append, stringLoop, if_neg hquote, if_neg h, if_pos hbackslash]

/-! ### Whole texts -/

theorem length_le_escape (s : Bytes) : s.length ≤ (escapeJsonString s).length := by
  have hbyte : ∀ ch, 1 ≤ (escapeByte jsonUnicodeEscape ch).length :=
    forall_byte (by decide +kernel)
  induction s with
  | nil => exact Nat.le_refl _
  | cons ch s ih =>
    have hch := hbyte ch
    rw [escapeJsonString] at ih ⊢
    rw [flatMap_cons, length_append, length_cons]
    omega

/-- The loop reads a written text back and stops after the closing quote. -/
theorem stringLoop_escape (s suffix : Bytes) (fuel : Nat) (out : Bytes) (h : s.length < fuel) :
    stringLoop fuel out (escapeJsonString s ++ quote :: suffix) = some (out ++ s, suffix) := by
  induction s generalizing fuel out with
  | nil =>
    obtain ⟨fuel, rfl⟩ := Nat.exists_eq_succ_of_ne_zero (Nat.ne_of_gt h)
    rw [append_nil]
    rfl
  | cons ch s ih =>
    rw [length_cons] at h
    obtain ⟨fuel, rfl⟩ : ∃ n, fuel = n + 1 := ⟨fuel - 1, by omega⟩
    rw [escapeJsonString, flatMap_cons, append_assoc, stringLoop_escapeByte]
    rw [escapeJsonString] at ih
    rw [ih fuel (out ++ [ch]) (by omega), append_assoc, singleton_append]

theorem parseJsonString_escape (before s suffix : Bytes) :
    parseJsonString (before ++ (quote :: escapeJsonString s ++ quote :: suffix)) before.length =
      some (s, before.length + (escapeJsonString s).length + 2) := by
  have hlen := length_le_escape s
  have hread := stringLoop_escape s suffix (escapeJsonString s ++ quote :: suffix).length [] (by
    rw [length_append, length_cons]
    omega)
  rw [parseJsonString, drop_left, cons_append]
  show ((stringLoop _ [] _).map _) = _
  rw [hread]
  simp only [Option.map_some, nil_append, length_append, length_cons,
    Option.some.injEq, Prod.mk.injEq, true_and]
  omega

/-- **JSON strings come back.**  A text that any of the three encoders writes between quotes is read
back by the parser, whatever stands around it, up to right after the closing quote.  The encoders
write the same text. -/
theorem json_string_round_trip :
    (∀ escape ∈ [escapeJson, jsonEscape, escapeJsonString], ∀ before s suffix : Bytes,
      parseJsonString (before ++ (quote :: escape s ++ quote :: suffix)) before.length =
        some (s, before.length + (escape s).length + 2)) ∧
    ∀ s, escapeJson s = jsonEscape s ∧ jsonEscape s = escapeJsonString s := by
  have hstreamed : escapeJson = escapeJsonString := by
    funext s
    rw [escapeJson, escapeByte_streamed, escapeJsonString]
  have hcache : jsonEscape = escapeJsonString := rfl
  refine ⟨?_, fun s => by rw [hstreamed, hcache]; exact ⟨rfl, rfl⟩⟩
  rw [hstreamed, hcache]
  intro escape hescape
  obtain rfl : escape = escapeJsonString := by simpa using hescape
  exact parseJsonString_escape

end Tamga.Util
