/-
The PEM loader (`PemDerLoader` in `core/KeyParsers.cpp`).

A text may hold many blocks, with anything before, between and after them.  A block ends at the
first end marker of its own type; of its lines only the base64 characters count.

* `loadBlocks_of_length_le` — the length of the text bounds the number of blocks;
* `loadAll_pemBytes` — blocks that are written one after the other are read back.
-/
import Tamga.Base64
import Tamga.Slice

namespace Tamga.Keys

open Slices Util List

structure PemBlock where
  type : String
  derPayload : Bytes
  deriving DecidableEq, Repr

def isBase64Char (c : Char) : Bool := c.isAlphanum || c == '+' || c == '/' || c == '='

def beginMarker : List Char := "-----BEGIN ".toList

def dashes : List Char := "-----".toList

def endStart : List Char := "-----END ".toList

def endMarker (blockType : List Char) : List Char := endStart ++ blockType ++ dashes

/-! ### Loading -/

/-- One turn of the loop of `LoadAll`: the next block and the text after it, `none` where no block
begins. -/
def nextBlock (text : List Char) : Except String (Option (PemBlock × List Char)) :=
  match findSlice beginMarker text with
  | none => .ok none
  | some start =>
    match findFrom dashes (start + 11) text with
    | none => .error "PEM begin marker is invalid"
    | some typeEnd =>
      let blockType := (text.drop (start + 11)).take (typeEnd - (start + 11))
      let bodyStart := findFrom ['\n'] typeEnd text
      match bodyStart, findFrom (endMarker blockType) (bodyStart.getD typeEnd) text with
      | some bodyStart, some stop =>
        if stop ≤ bodyStart then .error "PEM end marker is missing"
        else
          let lines := (text.drop (bodyStart + 1)).take (stop - (bodyStart + 1))
          let payload := lines.filter isBase64Char
          if payload = [] then .error "PEM payload is empty"
          else
            let decoded := base64Decode (String.ofList payload)
            if decoded.ok = false then .error "PEM payload is invalid"
            else .ok (some (⟨String.ofList blockType, decoded.bytes⟩,
              text.drop (stop + (endMarker blockType).length)))
      | _, _ => .error "PEM end marker is missing"

/-- The loop of `LoadAll`; a block is not empty, so the length of the text is fuel enough. -/
def loadBlocks : Nat → List Char → Except String (List PemBlock)
  | 0, _ => .ok []
  | fuel + 1, text =>
    match nextBlock text with
    | .error e => .error e
    | .ok none => .ok []
    | .ok (some (block, rest)) => (loadBlocks fuel rest).map (block :: ·)

def loadAll (input : Bytes) (strictMode : Bool) : Except String (List PemBlock) :=
  if input = [] then .error "Input key data is empty"
  else if input.head? = some 0x30 then .ok [⟨"DER", input⟩]
  else
    let text := (bytesText input).toList
    match loadBlocks text.length text with
    | .error e => .error e
    | .ok blocks =>
      if blocks = [] then .error "Unsupported key container format"
      else if strictMode = true ∧ blocks.any (fun block => block.derPayload.head? != some 0x30) then
        .error "Strict mode expects ASN.1 DER SEQUENCE payload"
      else .ok blocks

/-! ### The number of blocks -/

theorem nextBlock_length_lt {text rest : List Char} {block : PemBlock}
    (h : nextBlock text = .ok (some (block, rest))) : rest.length < text.length := by
  rw [nextBlock] at h
  split at h
  · cases h
  next start hstart =>
  have htext : 0 < text.length := by
    have hle := (findSlice_spec hstart).length_le
    rw [length_drop] at hle
    have hmarker : beginMarker.length = 11 := rfl
    omega
  split at h
  · cases h
  next typeEnd htype =>
  dsimp only at h
  split at h
  · split at h
    · cases h
    split at h
    · cases h
    · split at h
      · cases h
      · cases h
        rw [length_drop]
        omega
  · cases h

theorem loadBlocks_of_length_le : ∀ (fuel : Nat) {text : List Char}, text.length ≤ fuel →
    loadBlocks fuel text = loadBlocks text.length text
  | 0, text, h => by rw [Nat.le_zero.mp h]
  | fuel + 1, text, h => by
    rcases hlen : text.length with - | n
    · -- nothing begins in the empty text
      rw [length_eq_zero_iff.mp hlen]
      rfl
    · rw [loadBlocks, loadBlocks]
      rcases hnext : nextBlock text with e | - | ⟨block, rest⟩
      · rfl
      · rfl
      · have hlt := nextBlock_length_lt hnext
        show Except.map _ _ = Except.map _ _
        rw [loadBlocks_of_length_le fuel (by omega), loadBlocks_of_length_le n (by omega)]

/-! ### Blocks that are written -/

/-- A block with its payload on one line. -/
def pemText (block : PemBlock) : List Char :=
  beginMarker ++ block.type.toList ++ dashes ++ ['\n'] ++ base64EncodeChars block.derPayload ++
    ['\n'] ++ endMarker block.type.toList

/-- A type without dashes, and a payload. -/
structure PemBlock.Writable (block : PemBlock) : Prop where
  no_dash : '-' ∉ block.type.toList
  latin : ∀ c ∈ block.type.toList, c.toNat < 256
  payload : block.derPayload ≠ []

theorem mem_base64EncodeChars {c : Char} {bytes : Bytes} (h : c ∈ base64EncodeChars bytes) :
    c ∈ base64Alphabet ∨ c = '=' := (shaped_base64EncodeChars bytes).mem c h

theorem isBase64Char_of_mem {c : Char} (h : c ∈ base64Alphabet ∨ c = '=') :
    isBase64Char c = true := by
  have hall : base64Alphabet.all isBase64Char = true := by decide +kernel
  rcases h with h | rfl
  · exact all_eq_true.mp hall c h
  · rfl

theorem dash_not_mem_base64 (bytes : Bytes) : '-' ∉ base64EncodeChars bytes := by
  intro h
  have hdash : isBase64Char '-' = true := isBase64Char_of_mem (mem_base64EncodeChars h)
  exact absurd hdash (by decide)

theorem base64EncodeChars_ne_nil {bytes : Bytes} (h : bytes ≠ []) :
    base64EncodeChars bytes ≠ [] := by
  intro hnil
  have hback := decodeQuanta_base64EncodeChars bytes
  rw [hnil] at hback
  exact h (congrArg Decoded.bytes hback).symm

theorem nextBlock_pemText {block : PemBlock} (h : block.Writable) (rest : List Char) :
    nextBlock (pemText block ++ rest) = .ok (some (block, rest)) := by
  obtain ⟨type, payload⟩ := block
  obtain ⟨hdash, -, hpayload⟩ := h
  have hdigits := dash_not_mem_base64 payload
  have hb : beginMarker.length = 11 := rfl
  have hd : dashes.length = 5 := rfl
  set name := type.toList with hname
  set digits := base64EncodeChars payload with hline
  set stop := endMarker name with hmarker
  have htext : pemText ⟨type, payload⟩ ++ rest =
      beginMarker ++ name ++ dashes ++ ['\n'] ++ digits ++ ['\n'] ++ stop ++ rest := rfl
  generalize pemText ⟨type, payload⟩ ++ rest = text at htext ⊢
  -- where each marker is found
  have hbegin : findSlice beginMarker text = some 0 := by
    have hfind : findSlice beginMarker ([] ++ beginMarker) = some 0 :=
      findSlice_of_head_not_mem not_mem_nil
    rw [htext]
    exact findSlice_append hfind _
  have htype : findFrom dashes (0 + 11) text = some (0 + 11 + name.length) :=
    findFrom_of_head_not_mem beginMarker name (['\n'] ++ digits ++ ['\n'] ++ stop ++ rest) rfl hdash
      (by simp [htext]) rfl
  have hbody : findFrom ['\n'] (0 + 11 + name.length) text = some (0 + 11 + name.length + 5) :=
    findFrom_of_head_not_mem (beginMarker ++ name) dashes (digits ++ ['\n'] ++ stop ++ rest) rfl
      (by decide) (by simp [htext])
      (by rw [length_append, hb, Nat.zero_add])
  have hstop : findFrom stop (0 + 11 + name.length + 5) text =
      some (0 + 11 + name.length + 5 + (['\n'] ++ digits ++ ['\n']).length) := by
    have hhead : stop.head? = some '-' := rfl
    have hnone : '-' ∉ ['\n'] ++ digits ++ ['\n'] := by simp [hdigits]
    exact findFrom_of_head_not_mem (beginMarker ++ name ++ dashes) _ rest hhead hnone
      (by simp [htext])
      (by rw [length_append, length_append, hb, hd, Nat.zero_add])
  have hmid : (['\n'] ++ digits ++ ['\n']).length = digits.length + 2 := by
    rw [length_append, length_append, length_singleton]
    omega
  rw [hmid] at hstop
  -- what stands between them
  have htaken : (text.drop (0 + 11)).take (0 + 11 + name.length - (0 + 11)) = name :=
    take_drop_eq beginMarker name (dashes ++ ['\n'] ++ digits ++ ['\n'] ++ stop ++ rest)
      (by simp [htext]) rfl (Nat.add_sub_cancel_left _ _)
  have hpayloadLine : (text.drop (0 + 11 + name.length + 5 + 1)).take
      (0 + 11 + name.length + 5 + (digits.length + 2) - (0 + 11 + name.length + 5 + 1)) =
        digits ++ ['\n'] := by
    refine take_drop_eq (beginMarker ++ name ++ dashes ++ ['\n']) _ (stop ++ rest) ?_ ?_ ?_
    · simp [htext]
    · simp only [length_append, length_singleton, hb, hd, Nat.zero_add]
    · rw [length_append, length_singleton]
      omega
  have hrest : text.drop (0 + 11 + name.length + 5 + (digits.length + 2) + stop.length) = rest := by
    rw [htext]
    refine drop_left' ?_
    simp only [length_append, length_singleton, hb, hd]
    omega
  have hfilter : (digits ++ ['\n']).filter isBase64Char = digits := by
    rw [filter_append, filter_eq_self.mpr fun c hc =>
      isBase64Char_of_mem (mem_base64EncodeChars hc)]
    exact append_nil _
  have hback : base64Decode (String.ofList digits) = ⟨payload, true⟩ :=
    base64Decode_base64Encode payload
  have hne : digits ≠ [] := base64EncodeChars_ne_nil hpayload
  simp only [nextBlock, hbegin, htype, htaken, hbody, Option.getD_some, ← hmarker, hstop,
    hpayloadLine, hfilter, hrest, hback]
  rw [if_neg (by omega), if_neg hne, if_neg Bool.true_eq_false.mp, hname, String.ofList_toList]

theorem loadBlocks_pemText : ∀ {blocks : List PemBlock}, (∀ block ∈ blocks, block.Writable) →
    ∀ fuel, blocks.length < fuel → loadBlocks fuel (blocks.flatMap pemText) = .ok blocks
  | [], _, fuel + 1, _ => rfl
  | block :: blocks, h, fuel + 1, hfuel => by
    rw [flatMap_cons, loadBlocks, nextBlock_pemText (h block mem_cons_self)]
    show Except.map _ _ = _
    rw [loadBlocks_pemText (fun b hb => h b (mem_cons_of_mem _ hb)) fuel
      (Nat.lt_of_succ_lt_succ hfuel)]
    rfl

theorem length_le_flatMap_pemText (blocks : List PemBlock) :
    blocks.length ≤ (blocks.flatMap pemText).length := by
  induction blocks with
  | nil => exact Nat.zero_le _
  | cons block blocks ih =>
    have hpos : 0 < (pemText block).length := by
      have hb : beginMarker.length = 11 := rfl
      simp only [pemText, length_append, hb]
      omega
    show blocks.length + 1 ≤ _
    rw [flatMap_cons, length_append]
    omega

theorem toNat_lt_of_mem_pemText {block : PemBlock} (h : block.Writable) {c : Char}
    (hc : c ∈ pemText block) : c.toNat < 256 := by
  have hlt : ∀ l : List Char, l.all (fun d => decide (d.toNat < 256)) = true → c ∈ l →
      c.toNat < 256 := fun l hl hmem => of_decide_eq_true (all_eq_true.mp hl c hmem)
  simp only [pemText, endMarker, mem_append] at hc
  rcases hc with (((((hc | hc) | hc) | hc) | hc) | hc) | (hc | hc) | hc
  · exact hlt beginMarker (by decide) hc
  · exact h.latin c hc
  · exact hlt dashes (by decide) hc
  · exact hlt ['\n'] (by decide) hc
  · rcases mem_base64EncodeChars hc with hc | rfl
    · exact hlt base64Alphabet (by decide +kernel) hc
    · decide
  · exact hlt ['\n'] (by decide) hc
  · exact hlt endStart (by decide) hc
  · exact h.latin c hc
  · exact hlt dashes (by decide) hc

def pemBytes (blocks : List PemBlock) : Bytes := textBytes (String.ofList (blocks.flatMap pemText))

/-- **Blocks that are written one after the other are read back.** -/
theorem loadAll_pemBytes {blocks : List PemBlock} (hne : blocks ≠ [])
    (h : ∀ block ∈ blocks, block.Writable) :
    (pemBytes blocks).head? = some 0x2D ∧ loadAll (pemBytes blocks) false = .ok blocks := by
  have hhead : (pemBytes blocks).head? = some 0x2D := by
    obtain ⟨block, rest, rfl⟩ := exists_cons_of_ne_nil hne
    rw [pemBytes, textBytes, String.toList_ofList]
    rfl
  refine ⟨hhead, ?_⟩
  have htext : (bytesText (pemBytes blocks)).toList = blocks.flatMap pemText := by
    rw [pemBytes, bytesText_textBytes, String.toList_ofList]
    intro c hc
    rw [String.toList_ofList, mem_flatMap] at hc
    obtain ⟨block, hblock, hc⟩ := hc
    exact toNat_lt_of_mem_pemText (h block hblock) hc
  have hlong : blocks.length < (blocks.flatMap pemText).length + 1 :=
    Nat.lt_succ_of_le (length_le_flatMap_pemText blocks)
  have hload : loadBlocks (blocks.flatMap pemText).length (blocks.flatMap pemText) = .ok blocks := by
    rw [← loadBlocks_of_length_le _ (Nat.le_succ _)]
    exact loadBlocks_pemText h _ hlong
  rw [loadAll, if_neg, if_neg, htext]
  · dsimp only
    rw [hload]
    show (if _ then _ else _) = _
    rw [if_neg hne, if_neg]
    exact fun hstrict => Bool.false_ne_true hstrict.1
  · rw [hhead]
    decide
  · intro hnil
    rw [hnil] at hhead
    cases hhead

end Tamga.Keys
