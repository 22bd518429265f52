/-
`PadesBuilder::SignPdf`: signing a PDF file by incremental updates.

A revision is laid out with blank places for `/ByteRange` and `/Contents`, appended to
the file, and the two places are then written over.  A main signature, the evidence
(`/DSS`) and document timestamps follow one another as revisions of one file.

qpdf, the clock, the signer and the services are oracles; a provider may answer every
call differently.  The state keeps a record of the signed revisions, which the program
does not have: the file as the revision left it, the range that was written, the bytes
that were handed out, and what came back.

* `openRevision_spec`, `closeRevision_spec` — what a signed revision looks like before
  and after its signature is filled in;
* `contents_round_trip` — the filled place is read back by the verifier;
* `signPdf_sealed` — every signed revision of the output is still what it was.
-/
import Tamga.Encoding
import Tamga.FirstFree
import Tamga.PadesVerifier
import Tamga.Slice

namespace Tamga.Pades

open Util Slices Spans FirstFree List

/-! ### Objects -/

/-- `QPDFObjGen`: the number and the generation of an object. -/
structure ObjGen where
  obj : Nat := 0
  gen : Nat := 0
  deriving DecidableEq, Repr

/-- `operator<`, or equal. -/
def ObjGen.le (a b : ObjGen) : Bool := a.obj < b.obj || (a.obj == b.obj && a.gen ≤ b.gen)

/-- `QPDFObjectHandle`: an object, with its number if it is an indirect one. -/
inductive Handle where
  | null (objGen : Option ObjGen)
  | integer (objGen : Option ObjGen) (value : Int)
  | string (objGen : Option ObjGen) (value : Bytes)
  | name (objGen : Option ObjGen) (text : String)
  | array (objGen : Option ObjGen) (items : List Handle)
  | dictionary (objGen : Option ObjGen) (entries : List (String × Handle))
  | other (objGen : Option ObjGen) (text : Bytes)

/-- `std::map<std::string, QPDFObjectHandle>`, in the order of its keys. -/
abbrev PdfMap := List (String × Handle)

namespace PdfMap

/-- `map.erase(key)`. -/
def erase (map : PdfMap) (key : String) : PdfMap := map.filter fun e => e.1 != key

/-- `map[key] = value`. -/
def set (map : PdfMap) (key : String) (value : Handle) : PdfMap :=
  (map.filter fun e => e.1 < key) ++ (key, value) :: (map.filter fun e => key < e.1)

end PdfMap

namespace Handle

def objGen? : Handle → Option ObjGen
  | null og | integer og _ | string og _ | name og _ | array og _ | dictionary og _ | other og _ => og

def isIndirect (h : Handle) : Bool := h.objGen?.isSome

/-- `getObjGen`; a direct object has the numbers 0 0. -/
def getObjGen (h : Handle) : ObjGen := h.objGen?.getD {}

def isDictionary : Handle → Bool
  | dictionary _ _ => true
  | _ => false

def isArray : Handle → Bool
  | array _ _ => true
  | _ => false

/-- `getIntValue` of an integer; the builder takes 0 for anything else. -/
def getIntValue : Handle → Int
  | integer _ value => value
  | _ => 0

def getDictAsMap : Handle → PdfMap
  | dictionary _ entries => entries
  | _ => []

def getArrayAsVector : Handle → List Handle
  | array _ items => items
  | _ => []

/-- `getKey`; an absent key reads as the null object. -/
def getKey (h : Handle) (key : String) : Handle := (h.getDictAsMap.lookup key).getD (null none)

/-- `hasKey`: the key is there with a value other than null. -/
def hasKey (h : Handle) (key : String) : Bool :=
  match h.getKey key with
  | null _ => false
  | _ => true

end Handle

/-- A PDF file as qpdf has read it.  The catalog is one of the objects it has
counted. -/
structure PdfDocument where
  isEncrypted : Bool := false
  root : Handle
  trailer : PdfMap := []
  getAllPages : Except String (List Handle) := .ok []
  /-- The largest number of an object. -/
  objectCount : Nat
  root_counted : root.getObjGen.obj ≤ objectCount

structure PadesValidationEvidence where
  certificateChain : List Bytes := []
  crls : List Bytes := []
  ocspResponses : List Bytes := []

/-- The libraries and services behind the builder, for one signing key. -/
structure BuilderEnv where
  processMemoryFile : Bytes → Except String PdfDocument
  /-- `unparse` of a direct object. -/
  unparse : Handle → Bytes
  /-- `newUnicodeString(value).unparse()`. -/
  unicodeString : String → Bytes
  sha256 : Bytes → Bytes
  /-- `gmtime` and `strftime` of the current time. -/
  pdfDate : Except String String
  signPadesDetached : Bytes → Except String Bytes
  getSignatureValue : Bytes → Except String Bytes
  appendTspToken : Bytes → Bytes → Except String Bytes

/-- `PadesParameters`.  The providers get the number of the call as well, so that they
may answer each call differently. -/
structure PadesParameters where
  profile : PadesProfile := .b
  fieldName : String := "Signature1"
  reason : String := ""
  location : String := ""
  timestampProvider : Option (Nat → Bytes → Except String Bytes) := none
  timestampEvidenceProvider :
    Option (Nat → Bytes → Bytes → Except String PadesValidationEvidence) := none
  evidence : PadesValidationEvidence := {}

/-! ### Bodies of objects -/

def kContentsHexLen : Nat := 16384

def kByteRangeSlotLen : Nat := 80

/-- `std::to_string`, as bytes. -/
def decimal (n : Nat) : Bytes := textBytes (toString n)

def spaces (n : Nat) : Bytes := List.replicate n ' '.toNat.toUInt8

def hexDigitUpper (n : Nat) : UInt8 := if n < 10 then (48 + n).toUInt8 else (55 + n).toUInt8

def hexUpper (data : Bytes) : Bytes :=
  data.flatMap fun b => [hexDigitUpper (b.toNat / 16), hexDigitUpper (b.toNat % 16)]

section Bodies

variable (env : BuilderEnv)

/-- `Ref`: `unparse` of any object. -/
def ref (h : Handle) : Bytes :=
  match h.objGen? with
  | some og => decimal og.obj ++ textBytes " " ++ decimal og.gen ++ textBytes " R"
  | none => env.unparse h

def streamObj (bytes : Bytes) : Bytes :=
  textBytes "<</Length " ++ decimal bytes.length ++ textBytes ">>\nstream\n" ++ bytes ++
    textBytes "\nendstream"

inductive SigKind where
  | signature
  | docTimestamp
  deriving DecidableEq, Repr

def SigKind.type : SigKind → String
  | .signature => "Sig"
  | .docTimestamp => "DocTimeStamp"

def SigKind.subFilter : SigKind → String
  | .signature => "ETSI.CAdES.detached"
  | .docTimestamp => "ETSI.RFC3161"

def sigDictBody (kind : SigKind) (extra : Bytes) : Bytes :=
  textBytes "<</Type/" ++ textBytes kind.type ++ textBytes "/Filter/Adobe.PPKLite/SubFilter/" ++
    textBytes kind.subFilter ++ textBytes "/ByteRange [" ++ spaces (kByteRangeSlotLen - 2) ++
    textBytes "]/Contents <" ++ List.replicate kContentsHexLen 48 ++ textBytes ">" ++ extra ++
    textBytes ">>"

def widgetBody (fieldName : String) (signature page : Handle) (pdfDate : String) : Bytes :=
  textBytes "<</Type/Annot/Subtype/Widget/FT/Sig/T " ++ env.unicodeString fieldName ++
    textBytes "/Rect[0 0 50 50]/F 132/V " ++ ref env signature ++
    (if page.isIndirect then textBytes "/P " ++ ref env page else []) ++
    textBytes "/M " ++ env.unicodeString pdfDate ++ textBytes ">>"

/-- `body.insert(close, part)`. -/
def insertAt (body : Bytes) (close : Nat) (part : Bytes) : Bytes :=
  body.take close ++ part ++ body.drop close

def catalogBody (source : PdfMap) (acroform dss : Handle) : Bytes :=
  let catalog := source.erase "/AcroForm"
  let catalog := if dss.isIndirect then catalog.erase "/DSS" else catalog
  let body := env.unparse (.dictionary none catalog)
  match findLast (textBytes ">>") body with
  | none => body
  | some close =>
    let body := insertAt body close (textBytes " /AcroForm " ++ ref env acroform)
    if dss.isIndirect then insertAt body close (textBytes " /DSS " ++ ref env dss) else body

end Bodies

/-! ### Reading the input -/

variable (pdf : Bytes) (kind : SigKind)

/-- `IsPdfHeader`: `%PDF-` within the first 1024 bytes. -/
def isPdfHeader : Bool :=
  (pdf.take 1024).tails.any (textBytes "%PDF-").isPrefixOf

/-- `std::isspace` of a byte. -/
def isSpaceByte (b : UInt8) : Bool := isSpace (Char.ofNat b.toNat)

/-- `std::isdigit` of a byte. -/
def isDigitByte (b : UInt8) : Bool := 48 ≤ b && b ≤ 57

/-- The loop over the digits of a `std::uint64_t`. -/
def parseUint64 : Bytes → Nat → Option Nat
  | [], parsed => some parsed
  | b :: rest, parsed =>
    if isDigitByte b then
      let digit := b.toNat - 48
      if parsed > (2 ^ 64 - 1 - digit) / 10 then none else parseUint64 rest (parsed * 10 + digit)
    else some parsed

def parseLastStartXref : Option Nat := do
  let marker ← findLast (textBytes "startxref") pdf
  let rest := (pdf.drop (marker + 9)).dropWhile isSpaceByte
  if (rest.head?.map isDigitByte).getD false then parseUint64 rest 0 else none

def getArrayItems (dictionary : Handle) (key : String) : List Handle :=
  if dictionary.isDictionary && dictionary.hasKey key then (dictionary.getKey key).getArrayAsVector
  else []

def existingFieldNames (fields : List Handle) : List Bytes :=
  fields.filterMap fun field =>
    if field.isDictionary && field.hasKey "/T" then
      match field.getKey "/T" with
      | .string _ value => some value
      | _ => none
    else none

/-- `UniqueFieldName`: the base name, or the first free one of `base-2`, `base-3`, …. -/
def uniqueFieldName (existing : List Bytes) (base : String) : String :=
  let base := if base = "" then "Signature1" else base
  if textBytes base ∈ existing then
    let candidate := fun suffix : Nat => base ++ "-" ++ toString suffix
    candidate (nextFree (fun suffix => existing.contains (textBytes (candidate suffix)))
      existing.length 2)
  else base

theorem decimal_injective : Function.Injective decimal := by
  intro m n h
  refine toString_injective ?_
  rw [← bytesText_decimal m, ← bytesText_decimal n]
  exact congrArg bytesText h

theorem uniqueFieldName_fresh (existing : List Bytes) (base : String) :
    textBytes (uniqueFieldName existing base) ∉ existing := by
  rw [uniqueFieldName]
  generalize (if base = "" then "Signature1" else base) = base
  by_cases h : textBytes base ∈ existing
  · rw [if_pos h]
    set candidate := fun suffix : Nat => base ++ "-" ++ toString suffix with hcandidate
    have hinj : Function.Injective fun n => textBytes (candidate n) := by
      intro m n hmn
      simp only [hcandidate, textBytes_append] at hmn
      exact decimal_injective (append_cancel_left hmn)
    have hfree := @nextFree_free (fun n => existing.contains (textBytes (candidate n)))
      existing.length (fun numbers hall => ?_) 2
    · intro hmem
      rw [contains_eq_mem, decide_eq_false_iff_not] at hfree
      exact hfree hmem
    · exact card_le_of_names hinj fun n hn => contains_iff_mem.mp (hall n hn)
  · rw [if_neg h]
    exact h

/-! ### Laying out a revision -/

structure IncrementalObject where
  object : ObjGen
  body : Bytes

structure XrefEntry where
  offset : Nat
  generation : Nat

/-- Where the blank places of a revision are, `RevisionLayout` without its bytes. -/
structure Placeholders where
  byteRangeOpen : Nat := 0
  byteRangeClose : Nat := 0
  contentsLt : Nat := 0
  contentsGt : Nat := 0

structure RevisionLayout where
  bytes : Bytes
  places : Placeholders
  startxref : Nat

def npos : Nat := 2 ^ 64 - 1

/-- The search for the blank places in the text so far, from the body of the signature
dictionary on. -/
def findPlaceholders (baseOffset bodyOffset : Nat) (bytes : Bytes) (places : Placeholders) :
    Placeholders :=
  let places :=
    match findFrom (textBytes "/ByteRange [") bodyOffset bytes with
    | none => places
    | some br =>
      let bracket := (findFrom (textBytes "[") br bytes).getD npos
      let close := (findFrom (textBytes "]") bracket bytes).getD npos
      { places with
        byteRangeOpen := baseOffset + bracket
        byteRangeClose := baseOffset + close }
  match findFrom (textBytes "/Contents <") bodyOffset bytes with
  | none => places
  | some contents =>
    let lt := (findFrom (textBytes "<") contents bytes).getD npos
    let gt := (findFrom (textBytes ">") lt bytes).getD npos
    { places with
      contentsLt := baseOffset + lt
      contentsGt := baseOffset + gt }

/-- The variables of the loop over the objects. -/
structure Assembly where
  bytes : Bytes := []
  places : Placeholders := {}
  offsets : List (Nat × XrefEntry) := []
  maxObjectId : Nat

def objectHeader (object : ObjGen) : Bytes :=
  decimal object.obj ++ textBytes " " ++ decimal object.gen ++ textBytes " obj\n"

def objectText (o : IncrementalObject) : Bytes :=
  objectHeader o.object ++ (o.body ++ textBytes "\nendobj\n")

/-- One turn of the loop over the objects.  They come in order, so the map of the offsets grows at
its end; a number that is there already keeps its first offset. -/
def assembleObject (baseOffset : Nat) (signatureObject : ObjGen) (a : Assembly)
    (object : IncrementalObject) : Assembly :=
  let bodyOffset := (a.bytes ++ objectHeader object.object).length
  let bytes := a.bytes ++ objectHeader object.object ++ (object.body ++ textBytes "\nendobj\n")
  { bytes := bytes
    places :=
      if object.object = signatureObject then findPlaceholders baseOffset bodyOffset bytes a.places
      else a.places
    offsets :=
      if (a.offsets.map Prod.fst).contains object.object.obj then a.offsets
      else a.offsets ++
        [(object.object.obj, ⟨baseOffset + a.bytes.length, object.object.gen⟩)]
    maxObjectId := max a.maxObjectId object.object.obj }

/-- The runs of consecutive numbers. -/
def xrefRuns : List (Nat × XrefEntry) → List (List (Nat × XrefEntry))
  | [] => []
  | e :: rest =>
    match xrefRuns rest with
    | (f :: run) :: runs =>
      if f.1 = e.1 + 1 then (e :: f :: run) :: runs else [e] :: (f :: run) :: runs
    | runs => [e] :: runs

/-- A subsection of the table: its first number and its length, and a line for each
entry. -/
def xrefSubsection (run : List (Nat × XrefEntry)) : Bytes :=
  decimal ((run.head?.map Prod.fst).getD 0) ++ textBytes " " ++ decimal run.length ++
    textBytes "\n" ++ run.flatMap fun e =>
      textBytes (zeroPadded 10 e.2.offset) ++ textBytes " " ++
        textBytes (zeroPadded 5 e.2.generation) ++ textBytes " n \n"

def xrefTable (offsets : List (Nat × XrefEntry)) : Bytes :=
  textBytes "xref\n" ++ (xrefRuns offsets).flatMap xrefSubsection

/-- The keys of an xref stream, which a table does not have. -/
def transportKeys : List String :=
  ["/Type", "/W", "/Index", "/Length", "/Filter", "/DecodeParms", "/DL", "/XRefStm"]

/-- `static_cast<long long>` of a `std::uint64_t`. -/
def toLongLong (n : Nat) : Int := if n < 2 ^ 63 then n else n - 2 ^ 64

/-- The trailer of a revision: the keys of the last one, with `/Size`, `/Root` and `/Prev` set. -/
def revisedTrailer (trailer : PdfMap) (root : Handle) (maxObjectId previousStartxref : Nat) :
    PdfMap :=
  let trailer := transportKeys.foldl PdfMap.erase trailer
  let size := ((trailer.lookup "/Size").map Handle.getIntValue).getD 0
  let trailer := trailer.set "/Size" (.integer none (max size (maxObjectId + 1)))
  let trailer := trailer.set "/Root" root
  trailer.set "/Prev" (.integer none (toLongLong previousStartxref))

variable (env : BuilderEnv) (params : PadesParameters)

/-- The first `/ID` stays, the second one is new. -/
def identifiedTrailer (trailer : PdfMap) (baseOffset : Nat) (bytes : Bytes) : PdfMap :=
  let material := env.unparse (.dictionary none trailer) ++ decimal baseOffset ++ bytes
  let revisionId : Handle := .string none ((env.sha256 material).take 16)
  let documentId :=
    match trailer.lookup "/ID" with
    | some (.array _ (.string og value :: _)) => .string og value
    | _ => revisionId
  trailer.set "/ID" (.array none [documentId, revisionId])

/-- `AssembleRevision`, with the trailer it leaves. -/
def assembleRevision (baseOffset previousStartxref : Nat) (inputObjects : List IncrementalObject)
    (root : Handle) (signatureObject : ObjGen) (trailer : PdfMap) : RevisionLayout × PdfMap :=
  let objects := inputObjects.insertionSort fun a b => a.object.le b.object = true
  let a := objects.foldl (assembleObject baseOffset signatureObject)
    { maxObjectId := root.getObjGen.obj }
  let xrefOffset := baseOffset + a.bytes.length
  let bytes := a.bytes ++ xrefTable a.offsets
  let trailer := identifiedTrailer env
    (revisedTrailer trailer root a.maxObjectId previousStartxref) baseOffset bytes
  let bytes := bytes ++ (textBytes "trailer\n" ++ env.unparse (.dictionary none trailer) ++
    textBytes "\nstartxref\n" ++ decimal xrefOffset ++ textBytes "\n%%EOF\n")
  (⟨bytes, a.places, xrefOffset⟩, trailer)

/-! ### Filling in the blank places -/

/-- The text of a `/ByteRange` without its closing bracket. -/
def byteRangeText (br : ByteRange) : Bytes :=
  textBytes "[ 0 " ++ decimal br.length1 ++ textBytes " " ++ decimal br.offset2 ++ textBytes " " ++
    decimal br.length2

/-- The whole text of a `/ByteRange` in a place of the given size. -/
def byteRangeField (br : ByteRange) (slotSize : Nat) : Bytes :=
  byteRangeText br ++ spaces (slotSize - (byteRangeText br).length - 1) ++ textBytes "]"

/-- `WriteByteRange`; `bracket` and `close` are the places of the two brackets. -/
def writeByteRange (bracket close : Nat) (br : ByteRange) : Except String Bytes := do
  require (bracket < pdf.length ∧ close < pdf.length ∧ bracket ≤ close)
    "Некоректні позиції ByteRange у PDF revision"
  let slotSize := close - bracket + 1
  require ((byteRangeText br).length + 2 ≤ slotSize)
    "Значення ByteRange не вміщуються у плейсхолдер"
  .ok (overwrite pdf bracket (byteRangeField br slotSize))

def writeContentsHex (lt gt : Nat) (der : Bytes) : Except String Bytes := do
  require (lt < pdf.length ∧ gt < pdf.length ∧ lt < gt)
    "Некоректні позиції /Contents у PDF revision"
  require ((hexUpper der).length ≤ gt - lt - 1) "DER не вміщується у /Contents плейсхолдер"
  .ok (overwrite pdf (lt + 1) (hexUpper der))

/-! ### Signed revisions -/

/-- A signed revision, for the record: the file as the revision left it, the range
that was written into it, the bytes that were handed out, and what was embedded. -/
structure Revision where
  kind : SigKind
  file : Bytes
  range : ByteRange
  handed : Bytes
  der : Bytes

/-- The variables of `SignPdf` that change from revision to revision. -/
structure BuilderState where
  pdf : Bytes
  trailer : PdfMap
  previousStartxref : Nat
  /-- The largest number of an object of the document in memory. -/
  objectCount : Nat
  fields : List Handle
  currentAcroformRef : Handle
  dssRef : Handle := .null none
  evidence : PadesValidationEvidence
  timestampNames : List Bytes := []
  timestampCalls : Nat := 0
  /-- What `timestamp_evidence_provider` has answered, call by call, for the record. -/
  answers : List PadesValidationEvidence := []
  revisions : List Revision := []

/-- A revision whose `/ByteRange` is written and whose `/Contents` is still blank. -/
structure OpenRevision where
  pdf : Bytes
  trailer : PdfMap
  layout : RevisionLayout
  range : ByteRange
  /-- `PdfByteRange::ExtractSignedBytes`. -/
  handed : Bytes

/-- The steps from `AssembleRevision` to `ExtractSignedBytes`, which the main signature
and the document timestamps have in common. -/
def openRevision (st : BuilderState) (objects : List IncrementalObject) (root : Handle)
    (signatureObject : ObjGen) (message : String) : Except String OpenRevision := do
  let (layout, trailer) := assembleRevision env st.pdf.length st.previousStartxref objects root
    signatureObject st.trailer
  require (layout.places.contentsLt ≠ 0 ∧ layout.places.contentsLt < layout.places.contentsGt ∧
    layout.places.byteRangeOpen < layout.places.byteRangeClose) message
  let pdf := st.pdf ++ layout.bytes
  let range := computeByteRange layout.places.contentsLt layout.places.contentsGt pdf.length
  let pdf ← writeByteRange pdf layout.places.byteRangeOpen layout.places.byteRangeClose range
  .ok ⟨pdf, trailer, layout, range, extractSignedBytes pdf range⟩

/-- `WriteContentsHex`, and the revision in the record. -/
def closeRevision (o : OpenRevision) (der : Bytes) (st : BuilderState) :
    Except String BuilderState := do
  let pdf ← writeContentsHex o.pdf o.layout.places.contentsLt o.layout.places.contentsGt der
  .ok { st with
    pdf := pdf
    trailer := o.trailer
    previousStartxref := o.layout.startxref
    revisions := st.revisions ++ [⟨kind, pdf, o.range, o.handed, der⟩] }

/-! ### `SignPdf` -/

def intMax : Nat := 2147483647

/-- `NewIndirect`: the next number; qpdf throws when there is none. -/
def newIndirect (st : BuilderState) : Except String (Handle × BuilderState) := do
  require (st.objectCount < intMax) "max object id is too high to create new objects"
  .ok (.null (some ⟨st.objectCount + 1, 0⟩), { st with objectCount := st.objectCount + 1 })

/-- `merge`: the blobs that are new, and whether there was one. -/
def mergeBlobs (target incoming : List Bytes) : List Bytes × Bool :=
  incoming.foldl (fun (kept, changed) blob =>
    if blob ≠ [] ∧ blob ∉ kept then (kept ++ [blob], true) else (kept, changed)) (target, false)

def mergeEvidence (target incoming : PadesValidationEvidence) : PadesValidationEvidence × Bool :=
  let certs := mergeBlobs target.certificateChain incoming.certificateChain
  let crls := mergeBlobs target.crls incoming.crls
  let ocsps := mergeBlobs target.ocspResponses incoming.ocspResponses
  (⟨certs.1, crls.1, ocsps.1⟩, certs.2 || crls.2 || ocsps.2)

/-- What `SignPdf` has read from the document before it lays out a revision. -/
structure Prepared where
  document : PdfDocument
  firstPage : Handle
  acroform : PdfMap
  fields : List Handle
  existingNames : List Bytes
  mainFieldName : String
  startxref : Nat

variable (root : Handle) (content : Bytes) (p : Prepared) (st : BuilderState)

/-- The fields of an `/AcroForm`. -/
def acroformFields : Except String (PdfMap × List Handle) :=
  if root.hasKey "/AcroForm" then do
    let acroform := root.getKey "/AcroForm"
    require (acroform.isDictionary = true) "PDF має некоректний /AcroForm dictionary"
    require (acroform.hasKey "/Fields" = true → (acroform.getKey "/Fields").isArray = true)
      "PDF має некоректний /AcroForm/Fields array"
    .ok (acroform.getDictAsMap, if acroform.hasKey "/Fields" then
      (acroform.getKey "/Fields").getArrayAsVector else [])
  else .ok ([], [])

/-- `SigFlags | 3`, the two lowest bits set. -/
def withSigFlags (acroform : PdfMap) : PdfMap :=
  let old := ((acroform.lookup "/SigFlags").map Handle.getIntValue).getD 3
  acroform.set "/SigFlags" (.integer none (old - old % 4 + 3))

/-- An error of qpdf, with the text of `SignPdf` before it. -/
def parseError {α : Type} (label : String) : Except String α → Except String α
  | .error e => .error (label ++ e)
  | .ok a => .ok a

/-- The checks of `SignPdf` on the input. -/
def prepare : Except String Prepared := do
  require (params.profile ≠ .b → params.timestampProvider.isSome = true)
    "Профіль PAdES-T+ потребує timestamp_provider"
  require (isPdfHeader content = true) "SignPdf очікує повний PDF-документ із заголовком %PDF-"
  let document ← parseError "Не вдалося розібрати вхідний PDF: " (env.processMemoryFile content)
  require (document.isEncrypted = false) "Підписання зашифрованого PDF без пароля не підтримується"
  require (document.root.isDictionary = true ∧ document.root.isIndirect = true)
    "PDF не має коректного непрямого Catalog"
  let pages ← parseError "Не вдалося розібрати дерево сторінок PDF: " document.getAllPages
  let startxref ← orError (parseLastStartXref content)
    "PDF не має коректного startxref для incremental update"
  let (acroform, fields) ← acroformFields document.root
  let names := existingFieldNames fields
  .ok ⟨document, pages.headD (.null none), acroform, fields, names,
    uniqueFieldName names params.fieldName, startxref⟩

/-- The entries `/M`, `/Reason` and `/Location` of the main signature. -/
def sigExtra (pdfDate : String) : Bytes :=
  textBytes "/M " ++ env.unicodeString pdfDate ++ textBytes "/Reason " ++
    env.unicodeString params.reason ++
    (if params.location = "" then [] else textBytes "/Location " ++ env.unicodeString params.location)

/-- The objects of a signed revision: the signature dictionary, its widget, the form
and the catalog. -/
def signedObjects (kind : SigKind) (extra : Bytes) (fieldName pdfDate : String)
    (acroform : PdfMap) (signature widget form dss : Handle) : List IncrementalObject :=
  [⟨signature.getObjGen, sigDictBody kind extra⟩,
    ⟨widget.getObjGen, widgetBody env fieldName signature p.firstPage pdfDate⟩,
    ⟨form.getObjGen, env.unparse (.dictionary none acroform)⟩,
    ⟨p.document.root.getObjGen, catalogBody env p.document.root.getDictAsMap form dss⟩]

def withLineBreak : Bytes :=
  if content.getLast? = some 10 ∨ content.getLast? = some 13 then content else content ++ [10]

def initialState : BuilderState where
  pdf := withLineBreak content
  trailer := p.document.trailer
  previousStartxref := p.startxref
  objectCount := p.document.objectCount
  fields := p.fields
  currentAcroformRef := .null none
  evidence := params.evidence
  timestampNames := textBytes p.mainFieldName :: p.existingNames

def acroformWith (fields : List Handle) : PdfMap :=
  (withSigFlags p.acroform).set "/Fields" (.array none fields)

/-- Evidence for a token, from `timestamp_evidence_provider`; the second part says
whether there was something new. -/
def collectEvidence (token imprint : Bytes) (st : BuilderState) :
    Except String (BuilderState × Bool) :=
  match params.timestampEvidenceProvider with
  | none => .ok (st, false)
  | some provider => do
    let actual ← provider st.answers.length token imprint
    let merged := mergeEvidence st.evidence actual
    .ok ({ st with evidence := merged.1, answers := st.answers ++ [actual] }, merged.2)

def requestTimestamp (imprint : Bytes) (st : BuilderState) :
    Except String (Bytes × BuilderState) := do
  let provider ← orError params.timestampProvider "Профіль PAdES-T+ потребує timestamp_provider"
  let token ← provider st.timestampCalls imprint
  .ok (token, { st with timestampCalls := st.timestampCalls + 1 })

/-- Evidence for the signature timestamp, from the profile LT on. -/
def signatureEvidence (token sigval : Bytes) (st : BuilderState) :
    Except String (BuilderState × Bool) :=
  if params.profile = .t then .ok (st, false) else collectEvidence params token sigval st

/-- The signature timestamp of the profiles from T on: the CMS with a token over its
signature value. -/
def timestampedCms (cms : Bytes) (st : BuilderState) : Except String (Bytes × BuilderState) :=
  if params.profile = .b then .ok (cms, st)
  else do
    let sigval ← env.getSignatureValue cms
    let (token, st) ← requestTimestamp params sigval st
    let (st, _) ← signatureEvidence params token sigval st
    let cms ← env.appendTspToken cms token
    .ok (cms, st)

def mainRevision : Except String BuilderState := do
  let (signature, st) ← newIndirect st
  let (widget, st) ← newIndirect st
  let (form, st) ← newIndirect st
  let pdfDate ← env.pdfDate
  let fields := st.fields ++ [widget]
  let objects := signedObjects env p .signature (sigExtra env params pdfDate) p.mainFieldName pdfDate
    (acroformWith p fields) signature widget form st.dssRef
  let o ← openRevision env st objects p.document.root signature.getObjGen
    "Не знайдено плейсхолдери PAdES у main incremental revision"
  let cms ← env.signPadesDetached o.handed
  let (cms, st) ← timestampedCms env params cms st
  closeRevision .signature o cms { st with fields := fields, currentAcroformRef := form }

/-- `append_dss_streams`: the streams of the blobs that are not empty. -/
def dssStreams : List Bytes → BuilderState →
    Except String (List Handle × List IncrementalObject × BuilderState)
  | [], st => .ok ([], [], st)
  | blob :: rest, st =>
    if blob = [] then dssStreams rest st
    else do
      let (stream, st) ← newIndirect st
      let (handles, objects, st) ← dssStreams rest st
      .ok (stream :: handles, ⟨stream.getObjGen, streamObj blob⟩ :: objects, st)

/-- One array of the `/DSS`, after the entries that the document has already. -/
def dssArray (key : String) (blobs : List Bytes) (dss : PdfMap)
    (st : BuilderState) : Except String (PdfMap × List IncrementalObject × BuilderState) := do
  let (streams, objects, st) ← dssStreams blobs st
  let handles :=
    (if root.hasKey "/DSS" then getArrayItems (root.getKey "/DSS") key else []) ++ streams
  .ok (if handles = [] then dss else dss.set key (.array none handles), objects, st)

/-- `append_dss_revision`: a revision without a signature. -/
def appendDssRevision : Except String BuilderState := do
  require (root.hasKey "/DSS" = true → (root.getKey "/DSS").isDictionary = true)
    "PDF має некоректний /DSS dictionary"
  let dss := (if root.hasKey "/DSS" then (root.getKey "/DSS").getDictAsMap else []).set "/Type"
    (.name none "/DSS")
  let (dss, certs, st) ← dssArray root "/Certs" st.evidence.certificateChain dss st
  let (dss, crls, st) ← dssArray root "/CRLs" st.evidence.crls dss st
  let (dss, ocsps, st) ← dssArray root "/OCSPs" st.evidence.ocspResponses dss st
  let (dssRef, st) ← newIndirect st
  let objects := certs ++ crls ++ ocsps ++
    [⟨dssRef.getObjGen, env.unparse (.dictionary none dss)⟩,
      ⟨root.getObjGen, catalogBody env root.getDictAsMap st.currentAcroformRef dssRef⟩]
  let (layout, trailer) := assembleRevision env st.pdf.length st.previousStartxref objects root {}
    st.trailer
  .ok { st with
    pdf := st.pdf ++ layout.bytes
    trailer := trailer
    previousStartxref := layout.startxref
    dssRef := dssRef }

/-- A document timestamp, and whether its token has brought new evidence.  The date is
the one of the main signature. -/
def timestampRevision : Except String (BuilderState × Bool) := do
  let (signature, st) ← newIndirect st
  let (widget, st) ← newIndirect st
  let (form, st) ← newIndirect st
  let pdfDate ← env.pdfDate
  let fieldName := uniqueFieldName st.timestampNames "TimeStamp1"
  let fields := st.fields ++ [widget]
  let objects := signedObjects env p .docTimestamp [] fieldName pdfDate (acroformWith p fields)
    signature widget form st.dssRef
  let o ← openRevision env st objects p.document.root signature.getObjGen
    "Не знайдено плейсхолдери PAdES DocTimeStamp"
  let (token, st) ← requestTimestamp params o.handed st
  let st ← closeRevision .docTimestamp o token { st with
    fields := fields
    currentAcroformRef := form
    timestampNames := textBytes fieldName :: st.timestampNames }
  collectEvidence params token o.handed st

/-- The loop of LTA, with the number of renewals that are left. -/
def timestampLoop (env : BuilderEnv) (params : PadesParameters) (p : Prepared) :
    Nat → BuilderState → Except String BuilderState
  | left, st => do
    let (st, needsRenewal) ← timestampRevision env params p st
    if needsRenewal then
      match left with
      | 0 => .error "Докази TSA не стабілізувалися після трьох оновлень PAdES-LTA"
      | left + 1 => do
        let st ← appendDssRevision env p.document.root st
        timestampLoop env params p left st
    else .ok st

def kMaxEvidenceRenewals : Nat := 3

/-- The profiles `LT` and above. -/
def PadesProfile.wantLt (profile : PadesProfile) : Bool := profile == .lt || profile == .lta

/-- The first `/DSS`, from the profile LT on. -/
def evidenceRevision : Except String BuilderState :=
  if params.profile.wantLt then appendDssRevision env root st else .ok st

/-- `PadesBuilder::SignPdf`: the final state, whose file is the output. -/
def signPdf : Except String BuilderState := do
  let p ← prepare env params content
  let st ← mainRevision env params p (initialState params content p)
  let st ← evidenceRevision env params p.document.root st
  if params.profile = .lta then timestampLoop env params p kMaxEvidenceRenewals st
  else .ok st

/-! ### The parts of a signed file -/

def sigDictStart : Bytes :=
  textBytes "<</Type/" ++ textBytes kind.type ++ textBytes "/Filter/Adobe.PPKLite/SubFilter/" ++
    textBytes kind.subFilter

/-- A `/Contents` literal with the digits of the given data and zeros after them. -/
def contentsLiteral (der : Bytes) : Bytes :=
  textBytes "<" ++ hexUpper der ++ List.replicate (kContentsHexLen - (hexUpper der).length) 48 ++
    textBytes ">"

def blankRange : Bytes := textBytes "[" ++ spaces (kByteRangeSlotLen - 2) ++ textBytes "]"

/-- What stands before the `/Contents` literal of a signed file: what was there before,
the start of the dictionary, and its `/ByteRange`. -/
def leftOf (before field : Bytes) : Bytes :=
  before ++ sigDictStart kind ++ textBytes "/ByteRange " ++ field ++ textBytes "/Contents "

def blankPlaces (baseOffset : Nat) (before : Bytes) : Placeholders :=
  let bracket := baseOffset + (before ++ sigDictStart kind ++ textBytes "/ByteRange ").length
  let lt := baseOffset + (leftOf kind before blankRange).length
  ⟨bracket, bracket + (kByteRangeSlotLen - 1), lt, lt + (kContentsHexLen + 1)⟩

theorem length_blankRange : blankRange.length = kByteRangeSlotLen := by decide

theorem contentsLiteral_nil :
    contentsLiteral [] = textBytes "<" ++ List.replicate kContentsHexLen 48 ++ textBytes ">" := rfl

theorem length_contentsLiteral {der : Bytes} (h : (hexUpper der).length ≤ kContentsHexLen) :
    (contentsLiteral der).length = kContentsHexLen + 2 := by
  have hlt : (textBytes "<").length = 1 := by decide
  have hgt : (textBytes ">").length = 1 := by decide
  rw [contentsLiteral, length_append, length_append, length_append,
    length_replicate, hlt, hgt]
  omega

theorem length_contentsLiteral_nil : (contentsLiteral []).length = kContentsHexLen + 2 :=
  length_contentsLiteral (Nat.zero_le _)

/-- A signature dictionary in its place: the blank literal stands between what is before
it and the rest. -/
theorem append_sigDictBody (before extra after : Bytes) :
    before ++ (sigDictBody kind extra ++ after) = leftOf kind before blankRange ++
      contentsLiteral [] ++ (extra ++ textBytes ">>" ++ after) := by
  have hopen : textBytes "/ByteRange [" = textBytes "/ByteRange " ++ textBytes "[" := by decide
  have hclose : textBytes "]/Contents <" =
      textBytes "]" ++ (textBytes "/Contents " ++ textBytes "<") := by decide
  rw [sigDictBody, leftOf, blankRange, contentsLiteral_nil, sigDictStart, hopen, hclose]
  simp only [append_assoc]

theorem sigDictBody_eq (extra : Bytes) : sigDictBody kind extra =
    leftOf kind [] blankRange ++ contentsLiteral [] ++ (extra ++ textBytes ">>") := by
  simpa using append_sigDictBody kind [] extra []

/-- A range that leaves out a middle part selects what stands around it, whatever
follows. -/
theorem extractSignedBytes_around (left literal right later : Bytes) :
    extractSignedBytes (left ++ literal ++ right ++ later)
      ⟨0, left.length, left.length + literal.length, right.length⟩ = left ++ right := by
  have hfirst : Span.fits ⟨0, left.length⟩ (left ++ literal ++ right ++ later).length = true := by
    rw [Span.fits_iff, Span.finish]
    simp only [length_append]
    omega
  have hsecond : Span.fits ⟨left.length + literal.length, right.length⟩
      (left ++ literal ++ right ++ later).length = true := by
    rw [Span.fits_iff, Span.finish]
    simp only [length_append]
    omega
  have hcut₁ : cut (left ++ literal ++ right ++ later) ⟨0, left.length⟩ = left := by
    rw [cut, drop_zero, append_assoc, append_assoc, take_left]
  have hcut₂ : cut (left ++ literal ++ right ++ later)
      ⟨left.length + literal.length, right.length⟩ = right := by
    show ((left ++ literal ++ right ++ later).drop (left.length + literal.length)).take right.length = _
    rw [← length_append, append_assoc (left ++ literal), drop_left, take_left]
  show (if Span.fits ⟨0, left.length⟩ _ = true then cut _ ⟨0, left.length⟩ else []) ++
    (if Span.fits ⟨left.length + literal.length, right.length⟩ _ = true then
      cut _ ⟨left.length + literal.length, right.length⟩ else []) = _
  rw [if_pos hfirst, if_pos hsecond, hcut₁, hcut₂]

/-! ### Where the blank places are -/

section Layout

variable {kind : SigKind}

theorem findSlice_byteRange : findSlice (textBytes "/ByteRange [")
    (sigDictStart kind ++ textBytes "/ByteRange [") = some (sigDictStart kind).length := by
  cases kind <;> decide +kernel

theorem findSlice_contents : findSlice (textBytes "/Contents <")
    (sigDictStart kind ++ textBytes "/ByteRange " ++ blankRange ++ textBytes "/Contents <") =
      some (sigDictStart kind ++ textBytes "/ByteRange " ++ blankRange).length := by
  cases kind <;> decide +kernel

theorem findPlaceholders_eq (baseOffset : Nat) (before rest : Bytes) (places : Placeholders) :
    findPlaceholders baseOffset before.length
        (leftOf kind before blankRange ++ contentsLiteral [] ++ rest) places =
      blankPlaces kind baseOffset before := by
  set bytes := leftOf kind before blankRange ++ contentsLiteral [] ++ rest with hbytes
  set start := before ++ sigDictStart kind with hstart
  have hsplit : textBytes "/ByteRange [" = textBytes "/ByteRange " ++ textBytes "[" ∧
      textBytes "/Contents <" = textBytes "/Contents " ++ textBytes "<" := by decide
  -- the text from the beginning of each search on
  have hbytes' : bytes = start ++ textBytes "/ByteRange " ++ textBytes "[" ++
      spaces (kByteRangeSlotLen - 2) ++ textBytes "]" ++ textBytes "/Contents " ++ textBytes "<" ++
      List.replicate kContentsHexLen 48 ++ textBytes ">" ++ rest := by
    rw [hbytes, leftOf, blankRange, contentsLiteral_nil]
    simp only [append_assoc, hstart]
  have hbr : findFrom (textBytes "/ByteRange [") before.length bytes = some start.length := by
    rw [hstart, ← findFrom_append findSlice_byteRange before, hbytes', hsplit.1]
    simp only [append_assoc, hstart]
    rfl
  -- a character that does not occur before it is found where it stands
  have hfound : ∀ (needle pre mid : Bytes) {c post}, needle.head? = some c → c ∉ mid →
      bytes = pre ++ (mid ++ (needle ++ post)) →
        findFrom needle pre.length bytes = some (pre ++ mid).length := by
    intro needle pre mid c post hhead hc htext
    rw [findFrom_of_head_not_mem pre mid post hhead hc (by rw [htext]; simp) rfl, length_append]
  have hopen := hfound (textBytes "[") start (textBytes "/ByteRange ") rfl (by decide)
    (by rw [hbytes']; simp only [append_assoc]; rfl)
  have hclose := hfound (textBytes "]") (start ++ textBytes "/ByteRange ")
    (textBytes "[" ++ spaces (kByteRangeSlotLen - 2)) rfl (by decide +kernel)
    (by rw [hbytes']; simp only [append_assoc]; rfl)
  have hcontents : findFrom (textBytes "/Contents <") before.length bytes =
      some (start ++ textBytes "/ByteRange " ++ blankRange).length := by
    have happend : start ++ textBytes "/ByteRange " ++ blankRange =
        before ++ (sigDictStart kind ++ textBytes "/ByteRange " ++ blankRange) := by
      simp only [append_assoc, hstart]
    rw [happend, ← findFrom_append findSlice_contents before, hbytes', hsplit.2, blankRange]
    simp only [append_assoc, hstart]
    rfl
  have hlt := hfound (textBytes "<") (start ++ textBytes "/ByteRange " ++ blankRange)
    (textBytes "/Contents ") rfl (by decide)
    (by rw [hbytes', blankRange]; simp only [append_assoc]; rfl)
  have hleft : leftOf kind before blankRange =
      start ++ textBytes "/ByteRange " ++ blankRange ++ textBytes "/Contents " := rfl
  rw [← hleft] at hlt
  have hgt := hfound (textBytes ">") (leftOf kind before blankRange)
    (textBytes "<" ++ List.replicate kContentsHexLen 48) rfl
    (fun hmem => by
      rcases mem_append.mp hmem with hmem | hmem
      · exact absurd hmem (by decide)
      · exact absurd (eq_of_mem_replicate hmem) (by decide))
    (by rw [hbytes, contentsLiteral_nil]; simp only [append_assoc]; rfl)
  rw [findPlaceholders, hbr, hcontents, blankPlaces, ← hstart]
  simp only [hopen, hclose, hlt, hgt, Option.getD_some]
  have hone : (textBytes "[").length = 1 ∧ (textBytes "<").length = 1 := by decide
  simp only [length_append, length_replicate, hone.1, hone.2, spaces, kByteRangeSlotLen,
    Placeholders.mk.injEq]
  refine ⟨trivial, ?_, trivial, ?_⟩ <;> omega

theorem bytes_foldl_assembleObject (baseOffset : Nat) (signatureObject : ObjGen)
    (objects : List IncrementalObject) : ∀ a : Assembly,
      (objects.foldl (assembleObject baseOffset signatureObject) a).bytes =
        a.bytes ++ objects.flatMap objectText := by
  induction objects with
  | nil => exact fun a => (append_nil _).symm
  | cons o rest ih =>
    intro a
    rw [foldl_cons, ih, flatMap_cons, ← append_assoc]
    congr 1
    exact append_assoc _ _ _

theorem places_foldl_assembleObject {baseOffset : Nat} {signatureObject : ObjGen}
    {objects : List IncrementalObject} (h : ∀ o ∈ objects, o.object ≠ signatureObject) :
    ∀ a : Assembly,
      (objects.foldl (assembleObject baseOffset signatureObject) a).places = a.places := by
  induction objects with
  | nil => exact fun a => rfl
  | cons o rest ih =>
    intro a
    rw [foldl_cons, ih fun o' ho' => h o' (mem_cons_of_mem _ ho')]
    exact if_neg (h o mem_cons_self)

def sortedObjects (objects : List IncrementalObject) : List IncrementalObject :=
  objects.insertionSort fun a b => a.object.le b.object = true

theorem bytes_assembleRevision (baseOffset previousStartxref : Nat)
    (objects : List IncrementalObject) (root : Handle) (signatureObject : ObjGen)
    (trailer : PdfMap) : ∃ rest,
      (assembleRevision env baseOffset previousStartxref objects root signatureObject
        trailer).1.bytes = (sortedObjects objects).flatMap objectText ++ rest := by
  rw [assembleRevision]
  rw [bytes_foldl_assembleObject, nil_append, append_assoc]
  exact ⟨_, rfl⟩

def Distinct (objects : List IncrementalObject) : Prop := (objects.map fun o => o.object.obj).Nodup

/-- A revision with one signature dictionary: its text, and where its blank places are
in the whole file. -/
theorem assembleRevision_spec (baseOffset previousStartxref : Nat) (root : Handle)
    (signatureObject : ObjGen) (trailer : PdfMap) (extra : Bytes) {others : List IncrementalObject}
    (h : Distinct (⟨signatureObject, sigDictBody kind extra⟩ :: others))
    {layout : RevisionLayout × PdfMap}
    (hlayout : layout = assembleRevision env baseOffset previousStartxref
      (⟨signatureObject, sigDictBody kind extra⟩ :: others) root signatureObject trailer) :
    ∃ front back rest before,
      sortedObjects (⟨signatureObject, sigDictBody kind extra⟩ :: others) =
        front ++ ⟨signatureObject, sigDictBody kind extra⟩ :: back ∧
      layout.1.bytes = (sortedObjects (⟨signatureObject, sigDictBody kind extra⟩ :: others)).flatMap
        objectText ++ rest ∧
      before = front.flatMap objectText ++ objectHeader signatureObject ∧
      layout.1.bytes = leftOf kind before blankRange ++ contentsLiteral [] ++
        (extra ++ textBytes ">>" ++ (textBytes "\nendobj\n" ++ (back.flatMap objectText ++ rest))) ∧
      layout.1.places = blankPlaces kind baseOffset before := by
  set signature : IncrementalObject := ⟨signatureObject, sigDictBody kind extra⟩ with hsignature
  have hperm : (sortedObjects (signature :: others)).Perm (signature :: others) :=
    perm_insertionSort _ _
  -- the dictionary stands between objects that are not searched
  obtain ⟨front, back, hsplit⟩ := append_of_mem (hperm.mem_iff.mpr mem_cons_self)
  have hothers : ∀ o ∈ front ++ back, o.object ≠ signatureObject := by
    have hnumbers := (hperm.map fun o : IncrementalObject => o.object.obj).nodup_iff.mpr h
    rw [hsplit, map_append, map_cons, nodup_middle, ← map_append,
      nodup_cons] at hnumbers
    exact fun o ho heq => hnumbers.1 (mem_map.mpr ⟨o, ho, congrArg ObjGen.obj heq⟩)
  obtain ⟨rest, hrest⟩ := bytes_assembleRevision env baseOffset previousStartxref
    (signature :: others) root signatureObject trailer
  set before := front.flatMap objectText ++ objectHeader signatureObject with hbefore
  refine ⟨front, back, rest, before, hsplit, hlayout ▸ hrest, rfl, ?_, ?_⟩
  · rw [hlayout, hrest, hsplit, flatMap_append, flatMap_cons, objectText,
      ← append_sigDictBody, hbefore]
    simp only [append_assoc, hsignature]
  · set init : Assembly := { maxObjectId := root.getObjGen.obj } with hinit
    set a := front.foldl (assembleObject baseOffset signatureObject) init with ha
    set b := assembleObject baseOffset signatureObject a signature with hb
    have hsame : layout.1.places =
        (back.foldl (assembleObject baseOffset signatureObject) b).places := by
      rw [hlayout, hb, ha, ← foldl_cons, ← foldl_append, ← hsplit]
      rfl
    have hbytes : a.bytes ++ objectHeader signatureObject = before := by
      rw [ha, bytes_foldl_assembleObject, nil_append]
    have hfound : b.places = findPlaceholders baseOffset
        (a.bytes ++ objectHeader signatureObject).length (a.bytes ++ objectHeader signatureObject ++
          (sigDictBody kind extra ++ textBytes "\nendobj\n")) a.places := if_pos rfl
    rw [hsame, places_foldl_assembleObject fun o ho => hothers o (mem_append_right _ ho),
      hfound, hbytes, append_sigDictBody, findPlaceholders_eq]

end Layout

/-! ### One signed revision -/

/-- The file is cut around a `/Contents` literal: on its left what was there before and the
dictionary with the range written out; the range leaves out the literal. -/
structure CutAround (base : Bytes) (range : ByteRange) (left right : Bytes) : Prop where
  written : ∃ before, base <+: before ∧
    left = leftOf kind before (byteRangeField range kByteRangeSlotLen)
  range_eq : range =
    ⟨0, left.length, left.length + (kContentsHexLen + 2), right.length⟩

theorem length_byteRangeField {br : ByteRange} (h : (byteRangeText br).length + 2 ≤ kByteRangeSlotLen) :
    (byteRangeField br kByteRangeSlotLen).length = kByteRangeSlotLen := by
  have hone : (textBytes "]").length = 1 := by decide
  rw [byteRangeField, length_append, length_append, spaces, length_replicate, hone]
  omega

def filledDict (extra : Bytes) (range : ByteRange) (der : Bytes) : Bytes :=
  leftOf kind [] (byteRangeField range kByteRangeSlotLen) ++ contentsLiteral der ++
    (extra ++ textBytes ">>")

theorem length_filledDict (extra : Bytes) {range : ByteRange} {der : Bytes}
    (hfield : (byteRangeField range kByteRangeSlotLen).length = kByteRangeSlotLen)
    (hfits : (hexUpper der).length ≤ kContentsHexLen) :
    (sigDictBody kind extra).length = (filledDict kind extra range der).length := by
  rw [sigDictBody_eq, filledDict]
  simp only [length_append, leftOf, length_blankRange, hfield, length_contentsLiteral hfits,
    length_contentsLiteral_nil]

/-- The file around the literal is the file before the revision, and the objects of the
revision with the dictionary filled in. -/
structure Written (kind : SigKind) (base : Bytes) (signatureObject : ObjGen) (extra : Bytes)
    (others : List IncrementalObject) (o : OpenRevision) (left right : Bytes) : Prop where
  field : (byteRangeField o.range kByteRangeSlotLen).length = kByteRangeSlotLen
  objects : ∃ front back rest,
    sortedObjects (⟨signatureObject, sigDictBody kind extra⟩ :: others) =
      front ++ ⟨signatureObject, sigDictBody kind extra⟩ :: back ∧
    o.layout.bytes = (sortedObjects (⟨signatureObject, sigDictBody kind extra⟩ :: others)).flatMap
      objectText ++ rest ∧
    ∀ der, left ++ contentsLiteral der ++ right = base ++
      ((front ++ ⟨signatureObject, filledDict kind extra o.range der⟩ :: back).flatMap
        objectText ++ rest)

section Revision

variable {env st root kind}

theorem openRevision_spec {signatureObject : ObjGen} {extra : Bytes}
    {others : List IncrementalObject} {message : String} {o : OpenRevision}
    (hdistinct : Distinct (⟨signatureObject, sigDictBody kind extra⟩ :: others))
    (h : openRevision env st (⟨signatureObject, sigDictBody kind extra⟩ :: others) root
      signatureObject message = .ok o) :
    ∃ left right, CutAround kind st.pdf o.range left right ∧
      o.pdf = left ++ contentsLiteral [] ++ right ∧ o.handed = left ++ right ∧
      o.layout.places.contentsLt = left.length ∧
      o.layout.places.contentsGt = left.length + (kContentsHexLen + 1) ∧
      Written kind st.pdf signatureObject extra others o left right ∧
      (o.layout, o.trailer) = assembleRevision env st.pdf.length st.previousStartxref
        (⟨signatureObject, sigDictBody kind extra⟩ :: others) root signatureObject st.trailer := by
  rw [openRevision] at h
  generalize hlayout : assembleRevision env st.pdf.length st.previousStartxref _ root
    signatureObject st.trailer = layout at h
  obtain ⟨front, back, rest, before, hsplit, hobjects, hbefore, hbytes, hplaces⟩ :=
    assembleRevision_spec env _ _ root signatureObject _ extra hdistinct hlayout.symm
  obtain ⟨layout, trailer⟩ := layout
  simp only [bind_eq_ok, require_eq_ok, writeByteRange] at h
  obtain ⟨-, -, pdf, ⟨-, -, -, hfit, hpdf⟩, ho⟩ := h
  obtain rfl := Except.ok.inj hpdf
  obtain rfl := Except.ok.inj ho
  set right := extra ++ textBytes ">>" ++
    (textBytes "\nendobj\n" ++ (back.flatMap objectText ++ rest)) with hright
  set start := st.pdf ++ before ++ sigDictStart kind ++ textBytes "/ByteRange " with hstart
  have hopen : layout.places.byteRangeOpen = start.length := by
    rw [hplaces, hstart]
    simp only [blankPlaces, length_append]
    omega
  have hclose : layout.places.byteRangeClose = start.length + (kByteRangeSlotLen - 1) := by
    rw [← hopen, hplaces]
    rfl
  have hlt : layout.places.contentsLt = (leftOf kind (st.pdf ++ before) blankRange).length := by
    rw [hplaces]
    simp only [blankPlaces, leftOf, length_append]
    omega
  have hgt : layout.places.contentsGt =
      (leftOf kind (st.pdf ++ before) blankRange).length + (kContentsHexLen + 1) := by
    rw [← hlt, hplaces]
    rfl
  have hslot : layout.places.byteRangeClose - layout.places.byteRangeOpen + 1 =
      kByteRangeSlotLen := by
    omega
  set range := computeByteRange layout.places.contentsLt layout.places.contentsGt
    (st.pdf ++ layout.bytes).length with hrange
  rw [hslot] at hfit ⊢
  -- the field takes exactly the blank place, so nothing moves
  have hfield := length_byteRangeField hfit
  set left := leftOf kind (st.pdf ++ before) (byteRangeField range kByteRangeSlotLen) with hleft
  have hsame : (leftOf kind (st.pdf ++ before) blankRange).length = left.length := by
    simp only [hleft, leftOf, length_append, length_blankRange, hfield]
  have hpdf : overwrite (st.pdf ++ layout.bytes) layout.places.byteRangeOpen
      (byteRangeField range kByteRangeSlotLen) = left ++ contentsLiteral [] ++ right := by
    have hwhole : st.pdf ++ layout.bytes = start ++ blankRange ++
        (textBytes "/Contents " ++ contentsLiteral [] ++ right) := by
      rw [hbytes, hstart, leftOf]
      simp only [append_assoc]
    rw [hwhole, hopen, overwrite_append start _ (length_blankRange.trans hfield.symm), hleft, hstart,
      leftOf]
    simp only [append_assoc]
  have hvalue : range = ⟨0, left.length, left.length + (kContentsHexLen + 2), right.length⟩ := by
    have hlen : (st.pdf ++ layout.bytes).length =
        left.length + (kContentsHexLen + 2) + right.length := by
      rw [← hsame, hbytes, ← length_contentsLiteral_nil]
      simp only [leftOf, length_append]
      omega
    rw [hrange, computeByteRange, hlt, hgt, hlen, hsame, ByteRange.mk.injEq]
    refine ⟨rfl, rfl, ?_, ?_⟩ <;> omega
  refine ⟨left, right, ⟨⟨st.pdf ++ before, prefix_append _ _, rfl⟩, hvalue⟩, hpdf, ?_,
    hlt.trans hsame, ?_, ⟨hfield, front, back, rest, hsplit, hobjects, fun der => ?_⟩, rfl⟩
  · show extractSignedBytes _ range = _
    rw [hpdf, hvalue, ← length_contentsLiteral_nil, ← append_nil (left ++ contentsLiteral [] ++ right)]
    exact extractSignedBytes_around left _ right []
  · rw [← hsame]
    exact hgt
  · rw [hleft, hright, leftOf, hbefore, flatMap_append, flatMap_cons, objectText,
      filledDict, leftOf]
    simp only [append_assoc, nil_append]

theorem closeRevision_spec {o : OpenRevision} {der : Bytes} {st' : BuilderState}
    {left right : Bytes} (hpdf : o.pdf = left ++ contentsLiteral [] ++ right)
    (hlt : o.layout.places.contentsLt = left.length)
    (hgt : o.layout.places.contentsGt = left.length + (kContentsHexLen + 1))
    (h : closeRevision kind o der st = .ok st') :
    (hexUpper der).length ≤ kContentsHexLen ∧
      st'.pdf = left ++ contentsLiteral der ++ right ∧
      st'.revisions = st.revisions ++ [⟨kind, st'.pdf, o.range, o.handed, der⟩] ∧
      st'.objectCount = st.objectCount ∧
      st'.trailer = o.trailer ∧ st'.previousStartxref = o.layout.startxref := by
  simp only [closeRevision, writeContentsHex, bind_eq_ok, require_eq_ok] at h
  obtain ⟨pdf, ⟨-, -, -, hfit, hwrite⟩, hst⟩ := h
  obtain rfl := Except.ok.inj hwrite
  obtain rfl := Except.ok.inj hst
  have hfit' : (hexUpper der).length ≤ kContentsHexLen := by omega
  refine ⟨hfit', ?_, rfl, rfl, rfl, rfl⟩
  show overwrite o.pdf (o.layout.places.contentsLt + 1) (hexUpper der) = _
  have hone : (left ++ textBytes "<").length = left.length + 1 := by
    rw [length_append]
    rfl
  have hzeros : List.replicate kContentsHexLen (48 : UInt8) =
      List.replicate (hexUpper der).length 48 ++
        List.replicate (kContentsHexLen - (hexUpper der).length) 48 := by
    rw [← replicate_add, Nat.add_sub_cancel' hfit']
  have hwhole : o.pdf = left ++ textBytes "<" ++ List.replicate (hexUpper der).length 48 ++
      (List.replicate (kContentsHexLen - (hexUpper der).length) 48 ++ textBytes ">" ++ right) := by
    rw [hpdf, contentsLiteral_nil, hzeros]
    simp only [append_assoc]
  rw [hwhole, hlt, ← hone, overwrite_append _ _ length_replicate, contentsLiteral]
  simp only [append_assoc]

end Revision

/-! ### The slot is read back -/

def hexValue (c : UInt8) : Nat :=
  if c.toNat ≤ 57 then c.toNat - 48 else if c.toNat ≤ 70 then c.toNat - 55 else c.toNat - 87

/-- A hexadecimal string of a PDF; an odd digit at the end stands for sixteen times its value. -/
def hexDecode : Bytes → Bytes
  | a :: b :: rest => UInt8.ofNat (16 * hexValue a + hexValue b) :: hexDecode rest
  | [a] => [UInt8.ofNat (16 * hexValue a)]
  | [] => []

theorem hexDecode_hexUpper (der rest : Bytes) :
    hexDecode (hexUpper der ++ rest) = der ++ hexDecode rest := by
  have hbyte : ∀ b : UInt8, UInt8.ofNat (16 * hexValue (hexDigitUpper (b.toNat / 16)) +
      hexValue (hexDigitUpper (b.toNat % 16))) = b := forall_byte (by decide +kernel)
  induction der with
  | nil => rfl
  | cons b der ih =>
    show UInt8.ofNat _ :: hexDecode (hexUpper der ++ rest) = _
    rw [hbyte, ih]
    rfl

theorem hexDecode_zeros : ∀ n, hexDecode (List.replicate n 48) = List.replicate ((n + 1) / 2) 0
  | 0 => rfl
  | 1 => rfl
  | n + 2 => by
    rw [show (n + 2 + 1) / 2 = (n + 1) / 2 + 1 by omega]
    exact congrArg (0 :: ·) (hexDecode_zeros n)

/-- **The `/Contents` slot comes back.**  A DER SEQUENCE that fits a slot of zeros is written into
it, and its digits with the zeros after them, decoded and trimmed, are the SEQUENCE again. -/
theorem contents_round_trip (w : Nat) (pdf der : Bytes) (lt gt : Nat) (hlt : lt < gt)
    (hgt : gt < pdf.length) (hsize : pdf.length < sizeRange w)
    (hzeros : cut pdf ⟨lt + 1, gt - lt - 1⟩ = List.replicate (gt - lt - 1) 48)
    (hder : DerSequence der) (hfits : (hexUpper der).length ≤ gt - lt - 1) :
    ∃ out, writeContentsHex pdf lt gt der = .ok out ∧
      trimDer w (hexDecode (cut out ⟨lt + 1, gt - lt - 1⟩)) = der := by
  refine ⟨overwrite pdf (lt + 1) (hexUpper der), ?_, ?_⟩
  · simp only [writeContentsHex, bind_eq_ok, require_eq_ok]
    exact ⟨(), ⟨by omega, hgt, hlt⟩, (), hfits, trivial⟩
  have hcut : cut (overwrite pdf (lt + 1) (hexUpper der)) ⟨lt + 1, gt - lt - 1⟩ =
      hexUpper der ++ List.replicate (gt - lt - 1 - (hexUpper der).length) 48 := by
    rw [← drop_replicate, ← hzeros, cut, cut, overwrite, append_assoc,
      drop_left' (length_take_of_le (show lt + 1 ≤ _ by omega)), take_append,
      take_of_length_le hfits, drop_take, drop_drop]
  have hlength : (hexUpper der).length = 2 * der.length := by
    simp [hexUpper, length_flatMap, Nat.mul_comm]
  rw [hcut, hexDecode_hexUpper, hexDecode_zeros]
  exact trimDer_padded hder _ (by omega)

theorem contents_round_trip_zeros : DerSequence [0x30, 0x02, 0x05, 0x00] ∧
    ∃ out, writeContentsHex (textBytes "<000000000000>\n") 0 13 [0x30, 0x02, 0x05, 0x00] = .ok out ∧
      trimDer 8 (hexDecode (cut out ⟨1, 12⟩)) = [0x30, 0x02, 0x05, 0x00] := by
  have hder : DerSequence [0x30, 0x02, 0x05, 0x00] := ⟨by decide, by decide, by decide, by decide⟩
  exact ⟨hder, contents_round_trip 8 _ _ 0 13 (by decide) (by decide) (by decide) (by decide) hder
    (by decide)⟩

/-! ### All signed revisions -/

/-- What was embedded in the revision is the answer to the bytes that were handed out:
of the signer, with a timestamp added for the profiles from T on, or of the timestamp
service. -/
def Asked (r : Revision) : Prop :=
  match r.kind with
  | .signature => ∃ cms, env.signPadesDetached r.handed = .ok cms ∧
      ((params.profile = .b ∧ r.der = cms) ∨ ∃ token, env.appendTspToken cms token = .ok r.der)
  | .docTimestamp => ∃ provider call, params.timestampProvider = some provider ∧
      provider call r.handed = .ok r.der

/-- A signed revision over a file that starts with `content`: the file is the bytes that were handed
out with the literal of the signature between them, and its range is the whole file without that
literal. -/
structure Sealed (r : Revision) : Prop where
  fits : (hexUpper r.der).length ≤ kContentsHexLen
  parts : ∃ left right, CutAround r.kind content r.range left right ∧
    r.file = left ++ contentsLiteral r.der ++ right ∧ r.handed = left ++ right
  asked : Asked env params r

/-- The bytes that the range of a sealed revision selects in any file that grew from it
are the bytes that were handed out. -/
theorem Sealed.extract {env : BuilderEnv} {params : PadesParameters} {content : Bytes}
    {r : Revision} (h : Sealed env params content r) {pdf : Bytes} (hpdf : r.file <+: pdf) :
    extractSignedBytes pdf r.range = r.handed := by
  obtain ⟨left, right, hcut, hfile, hhanded⟩ := h.parts
  obtain ⟨later, rfl⟩ := hpdf
  rw [hfile, hhanded, hcut.range_eq, ← length_contentsLiteral h.fits]
  exact extractSignedBytes_around left _ right later

/-- The state of `SignPdf` between two revisions. -/
structure Sealing (root : Handle) (st : BuilderState) : Prop where
  start : content <+: st.pdf
  counted : root.getObjGen.obj ≤ st.objectCount
  revisions : ∀ r ∈ st.revisions, Sealed env params content r ∧ r.file <+: st.pdf
  ordered : st.revisions.Pairwise fun r r' => r.file <+: r'.file

/-- A step that appends to the file at most, and signs nothing. -/
structure Appends (st st' : BuilderState) : Prop where
  pdf : st.pdf <+: st'.pdf
  revisions : st'.revisions = st.revisions
  counted : st.objectCount ≤ st'.objectCount

theorem Appends.refl : Appends st st :=
  ⟨prefix_refl _, rfl, Nat.le_refl _⟩

section Run

variable {env params content root st} {st' : BuilderState}

theorem Sealing.append (h : Sealing env params content root st) (happ : Appends st st') :
    Sealing env params content root st' := by
  refine ⟨h.start.trans happ.pdf, h.counted.trans happ.counted, ?_, ?_⟩
  · rw [happ.revisions]
    exact fun r hr => ⟨(h.revisions r hr).1, (h.revisions r hr).2.trans happ.pdf⟩
  · rw [happ.revisions]
    exact h.ordered

/-- A new revision on top of the file leaves the earlier ones sealed. -/
theorem Sealing.snoc (h : Sealing env params content root st) {r : Revision}
    (hr : Sealed env params content r) (hfile : st.pdf <+: r.file) (hpdf : st'.pdf = r.file)
    (hrevisions : st'.revisions = st.revisions ++ [r]) (hcount : st.objectCount ≤ st'.objectCount) :
    Sealing env params content root st' := by
  have hold : ∀ x ∈ st.revisions, x.file <+: r.file := fun x hx => (h.revisions x hx).2.trans hfile
  refine ⟨?_, h.counted.trans hcount, ?_, ?_⟩
  · rw [hpdf]
    exact h.start.trans hfile
  · intro x hx
    rw [hrevisions] at hx
    rw [hpdf]
    rcases mem_append.mp hx with hx | hx
    · exact ⟨(h.revisions x hx).1, hold x hx⟩
    · obtain rfl := mem_singleton.mp hx
      exact ⟨hr, prefix_refl _⟩
  · rw [hrevisions, pairwise_append]
    refine ⟨h.ordered, pairwise_singleton _ _, fun x hx y hy => ?_⟩
    obtain rfl := mem_singleton.mp hy
    exact hold x hx

/-- Opening a revision, asking for its signature and filling it in keeps everything
sealed, whatever happens to the rest of the state meanwhile. -/
theorem Sealing.sign (h : Sealing env params content root st) {kind : SigKind}
    {signatureObject : ObjGen} {extra : Bytes} {others : List IncrementalObject} {message : String}
    {o : OpenRevision} {der : Bytes} {mid : BuilderState}
    (hdistinct : Distinct (⟨signatureObject, sigDictBody kind extra⟩ :: others))
    (hopen : openRevision env st (⟨signatureObject, sigDictBody kind extra⟩ :: others) root
      signatureObject message = .ok o) (hclose : closeRevision kind o der mid = .ok st')
    (hmid : Appends st mid) (hsame : mid.pdf = st.pdf)
    (hasked : ∀ file, Asked env params ⟨kind, file, o.range, o.handed, der⟩) :
    Sealing env params content root st' ∧ ∃ r, r.kind = kind ∧
      st'.revisions = st.revisions ++ [r] := by
  obtain ⟨left, right, hcut, hpdf, hhanded, hlt, hgt, -⟩ := openRevision_spec hdistinct hopen
  obtain ⟨hfits, hpdf', hrevisions, hcount, -⟩ := closeRevision_spec hpdf hlt hgt hclose
  obtain ⟨before, hbefore, hleft⟩ := hcut.written
  have hprefix : st.pdf <+: left := by
    refine hbefore.trans ?_
    rw [hleft, leftOf]
    simp only [append_assoc]
    exact prefix_append _ _
  have hsealed : Sealed env params content ⟨kind, st'.pdf, o.range, o.handed, der⟩ :=
    ⟨hfits, ⟨left, right, ⟨⟨before, h.start.trans hbefore, hleft⟩, hcut.range_eq⟩, hpdf', hhanded⟩,
      hasked _⟩
  have hgrown : mid.pdf <+: st'.pdf := by
    rw [hsame, hpdf', append_assoc]
    exact hprefix.trans (prefix_append _ _)
  refine ⟨(h.append hmid).snoc hsealed hgrown rfl hrevisions hcount.ge,
    ⟨kind, st'.pdf, o.range, o.handed, der⟩, rfl, ?_⟩
  rw [hrevisions, hmid.revisions]

/-! ### The steps of a run -/

theorem newIndirect_eq_ok {handle : Handle} (h : newIndirect st = .ok (handle, st')) :
    handle = .null (some ⟨st.objectCount + 1, 0⟩) ∧
      st' = { st with objectCount := st.objectCount + 1 } := by
  simp only [newIndirect, bind_eq_ok, require_eq_ok, Except.ok.injEq, Prod.mk.injEq] at h
  obtain ⟨-, -, hhandle, hst⟩ := h
  exact ⟨hhandle.symm, hst.symm⟩

theorem newIndirect_three {signature widget form : Handle} {st₁ st₂ : BuilderState}
    (h₁ : newIndirect st = .ok (signature, st₁)) (h₂ : newIndirect st₁ = .ok (widget, st₂))
    (h₃ : newIndirect st₂ = .ok (form, st')) : Appends st st' ∧
      signature = .null (some ⟨st.objectCount + 1, 0⟩) ∧
      widget = .null (some ⟨st.objectCount + 1 + 1, 0⟩) ∧
      form = .null (some ⟨st.objectCount + 1 + 1 + 1, 0⟩) ∧
      st' = { st with objectCount := st.objectCount + 1 + 1 + 1 } := by
  obtain ⟨rfl, rfl⟩ := newIndirect_eq_ok h₁
  obtain ⟨rfl, rfl⟩ := newIndirect_eq_ok h₂
  obtain ⟨rfl, rfl⟩ := newIndirect_eq_ok h₃
  exact ⟨⟨prefix_refl _, rfl, Nat.le_add_right _ 3⟩, rfl, rfl, rfl, rfl⟩

theorem requestTimestamp_eq_ok {imprint token : Bytes}
    (h : requestTimestamp params imprint st = .ok (token, st')) :
    ∃ provider, params.timestampProvider = some provider ∧
      provider st.timestampCalls imprint = .ok token ∧
      st' = { st with timestampCalls := st.timestampCalls + 1 } := by
  simp only [requestTimestamp, bind_eq_ok, orError_eq_ok, Except.ok.injEq, Prod.mk.injEq] at h
  obtain ⟨provider, hprovider, token', hcall, rfl, hst⟩ := h
  exact ⟨provider, hprovider, hcall, hst.symm⟩

theorem collectEvidence_spec {token imprint : Bytes} {changed : Bool}
    (h : collectEvidence params token imprint st = .ok (st', changed)) :
    (params.timestampEvidenceProvider = none ∧ st' = st ∧ changed = false) ∨
      ∃ provider actual, params.timestampEvidenceProvider = some provider ∧
        provider st.answers.length token imprint = .ok actual ∧
        st' = { st with
          evidence := (mergeEvidence st.evidence actual).1
          answers := st.answers ++ [actual] } ∧
        changed = (mergeEvidence st.evidence actual).2 := by
  rw [collectEvidence] at h
  cases hprovider : params.timestampEvidenceProvider with
  | none =>
    rw [hprovider] at h
    obtain ⟨rfl, rfl⟩ := Prod.mk.inj (Except.ok.inj h)
    exact Or.inl ⟨rfl, rfl, rfl⟩
  | some provider =>
    rw [hprovider] at h
    simp only [bind_eq_ok, Except.ok.injEq, Prod.mk.injEq] at h
    obtain ⟨actual, hcall, rfl, rfl⟩ := h
    exact Or.inr ⟨provider, actual, rfl, hcall, rfl, rfl⟩

theorem collectEvidence_frame {token imprint : Bytes} {changed : Bool}
    (h : collectEvidence params token imprint st = .ok (st', changed)) :
    st'.pdf = st.pdf ∧ Appends st st' := by
  rcases collectEvidence_spec h with ⟨-, rfl, -⟩ | ⟨provider, actual, -, -, rfl, -⟩
  · exact ⟨rfl, Appends.refl _⟩
  · exact ⟨rfl, ⟨prefix_refl _, rfl, Nat.le_refl _⟩⟩

theorem timestampedCms_spec {cms cms' : Bytes}
    (h : timestampedCms env params cms st = .ok (cms', st')) :
    (st'.pdf = st.pdf ∧ Appends st st') ∧
      ((params.profile = .b ∧ cms' = cms) ∨ ∃ token, env.appendTspToken cms token = .ok cms') := by
  rw [timestampedCms] at h
  by_cases hb : params.profile = .b
  · rw [if_pos hb] at h
    obtain ⟨rfl, rfl⟩ := Prod.mk.inj (Except.ok.inj h)
    exact ⟨⟨rfl, Appends.refl _⟩, Or.inl ⟨hb, rfl⟩⟩
  · rw [if_neg hb] at h
    simp only [bind_eq_ok, Except.ok.injEq, Prod.mk.injEq, Prod.exists] at h
    obtain ⟨sigval, -, token, st₁, hrequest, st₂, changed, hevidence, cms₂, happend, rfl, rfl⟩ := h
    obtain ⟨provider, -, -, rfl⟩ := requestTimestamp_eq_ok hrequest
    refine ⟨?_, Or.inr ⟨token, happend⟩⟩
    rw [signatureEvidence] at hevidence
    by_cases ht : params.profile = .t
    · rw [if_pos ht] at hevidence
      obtain ⟨rfl, -⟩ := Prod.mk.inj (Except.ok.inj hevidence)
      exact ⟨rfl, ⟨prefix_refl _, rfl, Nat.le_refl _⟩⟩
    · rw [if_neg ht] at hevidence
      obtain ⟨hpdf, happ⟩ := collectEvidence_frame hevidence
      exact ⟨hpdf, ⟨happ.pdf, happ.revisions, happ.counted⟩⟩

theorem distinct_signedObjects {p : Prepared} {n : Nat}
    (hcounted : p.document.root.getObjGen.obj ≤ n) (kind : SigKind) (extra : Bytes)
    (fieldName pdfDate : String) (acroform : PdfMap) (dss : Handle) :
    Distinct (signedObjects env p kind extra fieldName pdfDate acroform (.null (some ⟨n + 1, 0⟩))
      (.null (some ⟨n + 1 + 1, 0⟩)) (.null (some ⟨n + 1 + 1 + 1, 0⟩)) dss) := by
  show [n + 1, n + 1 + 1, n + 1 + 1 + 1, p.document.root.getObjGen.obj].Nodup
  simp only [nodup_cons, mem_cons, not_mem_nil, or_false, not_false_eq_true,
    nodup_nil, and_true]
  omega

theorem mainRevision_sealing {p : Prepared} (h : Sealing env params content p.document.root st)
    (hrun : mainRevision env params p st = .ok st') :
    Sealing env params content p.document.root st' ∧ ∃ r ∈ st'.revisions, r.kind = .signature := by
  simp only [mainRevision, bind_eq_ok, Prod.exists] at hrun
  obtain ⟨signature, st₁, h₁, widget, st₂, h₂, form, st₃, h₃, pdfDate, -, o, hopen, cms, hsign,
    cms', st₄, htimestamp, hclose⟩ := hrun
  obtain ⟨happ, rfl, rfl, rfl, rfl⟩ := newIndirect_three h₁ h₂ h₃
  obtain ⟨⟨hpdf, hmid⟩, hcms⟩ := timestampedCms_spec htimestamp
  have hmid' : Appends _ { st₄ with
      fields := st.fields ++ [.null (some ⟨st.objectCount + 1 + 1, 0⟩)]
      currentAcroformRef := .null (some ⟨st.objectCount + 1 + 1 + 1, 0⟩) } :=
    ⟨hmid.pdf, hmid.revisions, hmid.counted⟩
  obtain ⟨hsealing, r, hkind, hrevisions⟩ :=
    (h.append happ).sign (distinct_signedObjects h.counted _ _ _ _ _ _) hopen hclose hmid' hpdf
      fun file => ⟨cms, hsign, hcms⟩
  refine ⟨hsealing, r, ?_, hkind⟩
  rw [hrevisions]
  exact mem_append_right _ mem_cons_self

/-- A document timestamp is sealed: a revision over the file before it, and one call for
evidence. -/
theorem timestampRevision_sealing {p : Prepared} {changed : Bool}
    (h : Sealing env params content p.document.root st)
    (hrun : timestampRevision env params p st = .ok (st', changed)) :
    Sealing env params content p.document.root st' ∧ ∃ r mid,
      collectEvidence params r.der r.handed mid = .ok (st', changed) ∧
      mid.evidence = st.evidence ∧ mid.answers = st.answers ∧
      mid.dssRef = st.dssRef ∧ mid.revisions = st.revisions ++ [r] ∧ r.file = mid.pdf ∧
      r.kind = .docTimestamp ∧ st.pdf.length ≤ r.range.length1 := by
  simp only [timestampRevision, bind_eq_ok, Prod.exists] at hrun
  obtain ⟨signature, st₁, h₁, widget, st₂, h₂, form, st₃, h₃, pdfDate, -, o, hopen, token, st₄,
    hrequest, st₅, hclose, hevidence⟩ := hrun
  obtain ⟨happ, rfl, rfl, rfl, rfl⟩ := newIndirect_three h₁ h₂ h₃
  obtain ⟨provider, hprovider, hcall, rfl⟩ := requestTimestamp_eq_ok hrequest
  obtain ⟨hsealing, r, -, -⟩ := (h.append happ).sign
    (distinct_signedObjects h.counted _ _ _ _ _ _) hopen hclose
    ⟨prefix_refl _, rfl, Nat.le_refl _⟩ rfl fun file => ⟨provider, _, hprovider, hcall⟩
  refine ⟨hsealing.append (collectEvidence_frame hevidence).2, ?_⟩
  obtain ⟨left, right, hcut, -⟩ :=
    openRevision_spec (distinct_signedObjects h.counted _ _ _ _ _ _) hopen
  obtain ⟨before, hbefore, hleft⟩ := hcut.written
  simp only [closeRevision, bind_eq_ok, Except.ok.injEq] at hclose
  obtain ⟨pdf, -, rfl⟩ := hclose
  refine ⟨⟨.docTimestamp, pdf, o.range, o.handed, token⟩, _, hevidence, rfl, rfl, rfl, rfl, rfl, rfl, ?_⟩
  show _ ≤ o.range.length1
  rw [hcut.range_eq, hleft, leftOf]
  simp only [length_append]
  have := hbefore.length_le
  dsimp only at this ⊢
  omega

def streamsFrom : Nat → List Bytes → List IncrementalObject
  | _, [] => []
  | n, blob :: rest => ⟨⟨n + 1, 0⟩, streamObj blob⟩ :: streamsFrom (n + 1) rest

def written (blobs : List Bytes) : List Bytes := blobs.filter fun blob => blob ≠ []

def refTo (o : IncrementalObject) : Handle := .null (some o.object)

theorem dssStreams_eq_ok {blobs : List Bytes} :
    ∀ {st st' : BuilderState} {handles : List Handle} {objects : List IncrementalObject},
      dssStreams blobs st = .ok (handles, objects, st') →
      objects = streamsFrom st.objectCount (written blobs) ∧ handles = objects.map refTo ∧
        st' = { st with objectCount := st.objectCount + (written blobs).length } := by
  induction blobs with
  | nil =>
    intro st st' handles objects h
    obtain ⟨rfl, rfl, rfl⟩ := h
    exact ⟨rfl, rfl, rfl⟩
  | cons blob rest ih =>
    intro st st' handles objects h
    rw [dssStreams] at h
    by_cases hempty : blob = []
    · rw [if_pos hempty] at h
      have hwritten : written (blob :: rest) = written rest :=
        filter_cons_of_neg (by simpa using hempty)
      rw [hwritten]
      exact ih h
    · rw [if_neg hempty] at h
      have hwritten : written (blob :: rest) = blob :: written rest :=
        filter_cons_of_pos (by simpa using hempty)
      simp only [bind_eq_ok, Prod.exists, Except.ok.injEq, Prod.mk.injEq] at h
      obtain ⟨stream, st₁, hnew, handles', objects', st₂, hrest, rfl, rfl, rfl⟩ := h
      obtain ⟨rfl, rfl⟩ := newIndirect_eq_ok hnew
      obtain ⟨rfl, rfl, rfl⟩ := ih hrest
      rw [hwritten]
      refine ⟨rfl, rfl, ?_⟩
      rw [length_cons, Nat.add_assoc, Nat.add_comm 1]

/-- The entries of one array of the `/DSS` that the document has already. -/
def originalItems (root : Handle) (key : String) : List Handle :=
  if root.hasKey "/DSS" then getArrayItems (root.getKey "/DSS") key else []

/-- A `/DSS` with an array of the old entries and the new streams. -/
def withArray (root : Handle) (key : String) (dss : PdfMap) (streams : List IncrementalObject) :
    PdfMap :=
  if originalItems root key ++ streams.map refTo = [] then dss
  else dss.set key (.array none (originalItems root key ++ streams.map refTo))

theorem dssArray_eq_ok {key : String} {blobs : List Bytes} {dss dss' : PdfMap}
    {objects : List IncrementalObject}
    (h : dssArray root key blobs dss st = .ok (dss', objects, st')) :
    objects = streamsFrom st.objectCount (written blobs) ∧ dss' = withArray root key dss objects ∧
      st' = { st with objectCount := st.objectCount + (written blobs).length } := by
  simp only [dssArray, bind_eq_ok, Prod.exists, Except.ok.injEq, Prod.mk.injEq] at h
  obtain ⟨handles, objects', st₁, hstreams, rfl, rfl, rfl⟩ := h
  obtain ⟨hobjects, rfl, hst⟩ := dssStreams_eq_ok hstreams
  exact ⟨hobjects, rfl, hst⟩

theorem appendDssRevision_appends (h : appendDssRevision env root st = .ok st') :
    Appends st st' := by
  simp only [appendDssRevision, bind_eq_ok, Prod.exists, Except.ok.injEq] at h
  obtain ⟨-, -, dss₁, certs, st₁, h₁, dss₂, crls, st₂, h₂, dss₃, ocsps, st₃, h₃, dssRef, st₄, h₄,
    rfl⟩ := h
  obtain ⟨-, -, rfl⟩ := dssArray_eq_ok h₁
  obtain ⟨-, -, rfl⟩ := dssArray_eq_ok h₂
  obtain ⟨-, -, rfl⟩ := dssArray_eq_ok h₃
  obtain ⟨-, rfl⟩ := newIndirect_eq_ok h₄
  exact ⟨prefix_append _ _, rfl, by dsimp only; omega⟩

/-- The loop, by induction on the renewals that are left: a turn is a document timestamp, and
after it either the end or more evidence and the rest of the loop. -/
theorem timestampLoop_induction {p : Prepared} {P : Nat → BuilderState → BuilderState → Prop}
    (last : ∀ left st st', timestampRevision env params p st = .ok (st', false) → P left st st')
    (renew : ∀ left st st₁ st₂ st', timestampRevision env params p st = .ok (st₁, true) →
      appendDssRevision env p.document.root st₁ = .ok st₂ → P left st₂ st' → P (left + 1) st st') :
    ∀ {left : Nat} {st st' : BuilderState}, timestampLoop env params p left st = .ok st' →
      P left st st'
  | left, st, st', h => by
    rw [timestampLoop.eq_def] at h
    simp only [bind_eq_ok, Prod.exists] at h
    obtain ⟨st₁, changed, hstep, hrun⟩ := h
    cases changed with
    | false =>
      obtain rfl := Except.ok.inj hrun
      exact last left st st₁ hstep
    | true =>
      cases left with
      | zero => cases hrun
      | succ left =>
        obtain ⟨st₂, hdss, hrest⟩ := bind_eq_ok.mp hrun
        exact renew left st st₁ st₂ st' hstep hdss (timestampLoop_induction last renew hrest)

theorem timestampLoop_sealing {p : Prepared} {left : Nat}
    (h : Sealing env params content p.document.root st)
    (hrun : timestampLoop env params p left st = .ok st') :
    Sealing env params content p.document.root st' ∧ st.revisions <+: st'.revisions := by
  have hgrown : ∀ {st st' : BuilderState} {changed : Bool},
      Sealing env params content p.document.root st →
      timestampRevision env params p st = .ok (st', changed) →
      Sealing env params content p.document.root st' ∧ st.revisions <+: st'.revisions := by
    intro st st' changed h hstep
    obtain ⟨hsealing, r, mid, hcall, -, -, -, hrevisions, -⟩ := timestampRevision_sealing h hstep
    refine ⟨hsealing, ?_⟩
    rw [(collectEvidence_frame hcall).2.revisions, hrevisions]
    exact prefix_append _ _
  refine timestampLoop_induction (P := fun _ st st' => Sealing env params content p.document.root st →
    Sealing env params content p.document.root st' ∧ st.revisions <+: st'.revisions)
    (fun _ st st' hstep h => hgrown h hstep) (fun _ st st₁ st₂ st' hstep hdss ih h => ?_) hrun h
  obtain ⟨h₁, hprefix₁⟩ := hgrown h hstep
  have happ := appendDssRevision_appends hdss
  obtain ⟨h₃, hprefix₃⟩ := ih (h₁.append happ)
  rw [happ.revisions] at hprefix₃
  exact ⟨h₃, hprefix₁.trans hprefix₃⟩

variable (params content) in
theorem initialState_sealing :
    Sealing env params content p.document.root (initialState params content p) := by
  refine ⟨?_, p.document.root_counted, by simp [initialState], by simp [initialState]⟩
  show content <+: withLineBreak content
  rw [withLineBreak]
  split
  · exact prefix_refl _
  · exact prefix_append _ _

end Run

/-- **Incremental signing never touches signed bytes.**  The output starts with the input and with
the file of each revision.  A revision's file is what was handed to the signer or to the timestamp
service, with the `/Contents` literal between, and its range is the whole file without the literal;
so each range still selects what was handed out. -/
theorem signPdf_sealed (env : BuilderEnv) (params : PadesParameters) (content : Bytes)
    (st : BuilderState) (h : signPdf env params content = .ok st) :
    content <+: st.pdf ∧ (∃ r ∈ st.revisions, r.kind = .signature) ∧
    (∀ r ∈ st.revisions, Sealed env params content r ∧ r.file <+: st.pdf ∧
      extractSignedBytes st.pdf r.range = r.handed) ∧
    st.revisions.Pairwise fun r r' => r.file <+: r'.file ∧
      extractSignedBytes r'.file r.range = r.handed := by
  simp only [signPdf, bind_eq_ok] at h
  obtain ⟨p, -, st₁, hmain, st₂, hevidence, hlta⟩ := h
  obtain ⟨h₁, r, hr, hkind⟩ := mainRevision_sealing (initialState_sealing params content p) hmain
  have happ : Appends st₁ st₂ := by
    rw [evidenceRevision] at hevidence
    split at hevidence
    · exact appendDssRevision_appends hevidence
    · rw [← Except.ok.inj hevidence]
      exact Appends.refl _
  obtain ⟨h₃, hprefix⟩ : Sealing env params content p.document.root st ∧
      st₂.revisions <+: st.revisions := by
    split at hlta
    · exact timestampLoop_sealing (h₁.append happ) hlta
    · rw [← Except.ok.inj hlta]
      exact ⟨h₁.append happ, prefix_refl _⟩
  rw [happ.revisions] at hprefix
  refine ⟨h₃.start, ⟨r, hprefix.subset hr, hkind⟩, fun x hx => ?_, ?_⟩
  · obtain ⟨hsealed, hfile⟩ := h₃.revisions x hx
    exact ⟨hsealed, hfile, hsealed.extract hfile⟩
  · refine List.Pairwise.imp_of_mem ?_ h₃.ordered
    intro x y hx _ hxy
    exact ⟨hxy, (h₃.revisions x hx).1.extract hxy⟩

/-! ### A run -/

theorem length_decimal (n : Nat) : (decimal n).length = (Nat.toDigits 10 n).length := by
  rw [decimal, textBytes, length_map, String.length_toList, Nat.toString_eq_ofList_toDigits,
    String.length_ofList]

theorem length_decimal_le {n k : Nat} (hk : 0 < k) (h : n < 10 ^ k) : (decimal n).length ≤ k := by
  rw [length_decimal]
  exact (Nat.length_toDigits_le_iff (by decide) hk).mpr h

theorem byteRangeText_fits {br : ByteRange} (h₁ : br.length1 < 10 ^ 24) (h₂ : br.offset2 < 10 ^ 24)
    (h₃ : br.length2 < 10 ^ 24) : (byteRangeText br).length + 2 ≤ kByteRangeSlotLen := by
  have hopen : (textBytes "[ 0 ").length = 4 := by decide
  have hspace : (textBytes " ").length = 1 := by decide
  have hk : 0 < 24 := by decide
  have hlen₁ := length_decimal_le hk h₁
  have hlen₂ := length_decimal_le hk h₂
  have hlen₃ := length_decimal_le hk h₃
  rw [byteRangeText]
  simp only [length_append, hopen, hspace, kByteRangeSlotLen]
  omega

section Success

variable {env st root kind}

theorem openRevision_ok {signatureObject : ObjGen} {extra : Bytes}
    {others : List IncrementalObject} (message : String)
    (hdistinct : Distinct (⟨signatureObject, sigDictBody kind extra⟩ :: others))
    (hsize : st.pdf.length + (assembleRevision env st.pdf.length st.previousStartxref
      (⟨signatureObject, sigDictBody kind extra⟩ :: others) root signatureObject
      st.trailer).1.bytes.length < 10 ^ 24) :
    ∃ o, openRevision env st (⟨signatureObject, sigDictBody kind extra⟩ :: others) root
      signatureObject message = .ok o := by
  generalize hlayout : assembleRevision env st.pdf.length st.previousStartxref _ root
    signatureObject st.trailer = layout at hsize
  obtain ⟨front, back, rest, before, -, -, -, hbytes, hplaces⟩ :=
    assembleRevision_spec env _ _ root signatureObject _ extra hdistinct hlayout.symm
  set after := textBytes "\nendobj\n" ++ (back.flatMap objectText ++ rest)
  have hleft : (leftOf kind before blankRange).length =
      (before ++ sigDictStart kind ++ textBytes "/ByteRange ").length + kByteRangeSlotLen + 10 := by
    have hten : (textBytes "/Contents ").length = 10 := by decide
    rw [leftOf, length_append, length_append, length_blankRange, hten]
  have hlen : layout.1.bytes.length = (leftOf kind before blankRange).length +
      (kContentsHexLen + 2) + (extra ++ textBytes ">>" ++ after).length := by
    rw [hbytes, length_append, length_append, length_contentsLiteral_nil]
  obtain ⟨layout, trailer⟩ := layout
  simp only [blankPlaces] at hlen hplaces hsize
  have hfits : (byteRangeText (computeByteRange layout.places.contentsLt layout.places.contentsGt
      (st.pdf ++ layout.bytes).length)).length + 2 ≤ kByteRangeSlotLen := by
    apply byteRangeText_fits
    all_goals
      simp only [computeByteRange, hplaces, length_append] at hsize ⊢
      omega
  have htotal : (st.pdf ++ layout.bytes).length = st.pdf.length + layout.bytes.length :=
    length_append
  rw [openRevision, hlayout]
  simp only [bind_eq_ok, require_eq_ok, writeByteRange]
  refine ⟨_, (), ?_, _, ⟨(), ?_, (), ?_, rfl⟩, rfl⟩
  · rw [hplaces]
    simp only
    omega
  · rw [hplaces, htotal]
    simp only
    omega
  · refine le_trans hfits ?_
    rw [hplaces]
    simp only
    omega

theorem closeRevision_ok {o : OpenRevision} {der : Bytes} {left right : Bytes}
    (hpdf : o.pdf = left ++ contentsLiteral [] ++ right)
    (hlt : o.layout.places.contentsLt = left.length)
    (hgt : o.layout.places.contentsGt = left.length + (kContentsHexLen + 1))
    (hfits : (hexUpper der).length ≤ kContentsHexLen) :
    ∃ st', closeRevision kind o der st = .ok st' := by
  have hlen : o.pdf.length = left.length + (kContentsHexLen + 2) + right.length := by
    rw [hpdf, length_append, length_append, length_contentsLiteral_nil]
  simp only [closeRevision, writeContentsHex, bind_eq_ok, require_eq_ok]
  exact ⟨_, _, ⟨(), ⟨by omega, by omega, by omega⟩, (), by omega, rfl⟩, rfl⟩

end Success

theorem length_padded_le {width n k : Nat} (hwidth : width ≤ k) (hk : 0 < k) (h : n < 10 ^ k) :
    (textBytes (zeroPadded width n)).length ≤ k := by
  have hdigits := (Nat.length_toDigits_le_iff (by decide) hk).mpr h
  rw [textBytes, length_map, String.length_toList, zeroPadded, String.length_ofList,
    length_append, length_replicate]
  omega

theorem xrefRuns_flatten (entries : List (Nat × XrefEntry)) :
    (xrefRuns entries).flatten = entries ∧ ∀ run ∈ xrefRuns entries, run ≠ [] := by
  induction entries with
  | nil => exact ⟨rfl, nofun⟩
  | cons e rest ih =>
    obtain ⟨hflatten, hne⟩ := ih
    have hcons : ∀ {run : List (Nat × XrefEntry)} {runs : List (List (Nat × XrefEntry))},
        (∀ r ∈ runs, r ≠ []) → ∀ r ∈ (e :: run) :: runs, r ≠ [] := fun hruns =>
      forall_mem_cons.mpr ⟨cons_ne_nil _ _, hruns⟩
    rw [xrefRuns]
    split
    next f run runs heq =>
      rw [heq] at hflatten hne
      split
      · exact ⟨congrArg (e :: ·) hflatten, hcons (forall_mem_cons.mp hne).2⟩
      · exact ⟨congrArg (e :: ·) hflatten, hcons hne⟩
    · exact ⟨congrArg (e :: ·) hflatten, hcons hne⟩

theorem length_flatMap_le {α β γ : Type} {f : α → List β} {g : α → List γ} {k : Nat} {l : List α}
    (h : ∀ x ∈ l, (f x).length ≤ k * (g x).length) :
    (l.flatMap f).length ≤ k * (l.flatMap g).length := by
  induction l with
  | nil => exact Nat.zero_le _
  | cons x l ih =>
    obtain ⟨hx, hl⟩ := forall_mem_cons.mp h
    rw [flatMap_cons, flatMap_cons, length_append, length_append, Nat.mul_add]
    exact Nat.add_le_add hx (ih hl)

/-- An entry of a table with numbers of a usual length. -/
def XrefEntry.Short (e : Nat × XrefEntry) : Prop :=
  e.1 < 10 ^ 9 ∧ e.2.offset < 10 ^ 20 ∧ e.2.generation < 10 ^ 5

theorem length_xrefTable_le {entries : List (Nat × XrefEntry)}
    (h : ∀ e ∈ entries, XrefEntry.Short e) :
    (xrefTable entries).length ≤ 5 + 50 * entries.length := by
  obtain ⟨hflatten, hne⟩ := xrefRuns_flatten entries
  have htexts : (textBytes " ").length = 1 ∧ (textBytes "\n").length = 1 ∧
      (textBytes " n \n").length = 4 ∧ (textBytes "xref\n").length = 5 := by decide
  obtain ⟨hspace, hline, hend, hxref⟩ := htexts
  have hruns : ∀ run ∈ xrefRuns entries, (xrefSubsection run).length ≤ 50 * (id run).length := by
    intro run hrun
    have hshort : ∀ e ∈ run, XrefEntry.Short e := fun e he =>
      h e (hflatten ▸ mem_flatten_of_mem hrun he)
    have hentries := @length_flatMap_le _ _ _ (fun e : Nat × XrefEntry =>
      textBytes (zeroPadded 10 e.2.offset) ++ textBytes " " ++
        textBytes (zeroPadded 5 e.2.generation) ++ textBytes " n \n") (fun e => [e]) 30 run
      fun e he => by
        have hoffset := @length_padded_le 10 _ 20 (by decide) (by decide) (hshort e he).2.1
        have hgeneration := @length_padded_le 5 _ 5 (by decide) (by decide) (hshort e he).2.2
        simp only [length_append, hspace, hend, length_singleton]
        omega
    obtain ⟨e, rest, rfl⟩ := exists_cons_of_ne_nil (hne run hrun)
    have hnumber := length_decimal_le (by decide) (hshort e mem_cons_self).1
    have hlength : (decimal (e :: rest).length).length ≤ (e :: rest).length + 1 := by
      refine length_decimal_le (Nat.succ_pos _) ?_
      exact Nat.lt_of_succ_lt (Nat.lt_pow_self (by decide))
    rw [flatMap_singleton'] at hentries
    rw [xrefSubsection]
    simp only [length_append, hspace, hline, head?_cons, Option.map_some,
      Option.getD_some, id_eq] at hentries hlength ⊢
    simp only [length_cons] at *
    omega
  have hall := length_flatMap_le hruns
  rw [flatMap_id, hflatten] at hall
  rw [xrefTable, length_append, hxref]
  omega

/-- An object of a usual size. -/
structure IncrementalObject.Short (o : IncrementalObject) : Prop where
  obj : o.object.obj < 10 ^ 9
  gen : o.object.gen < 10 ^ 5
  body : o.body.length ≤ 20000

theorem length_objectText_le {o : IncrementalObject} (h : o.Short) :
    (objectText o).length ≤ 21000 := by
  have htexts : (textBytes " ").length = 1 ∧ (textBytes " obj\n").length = 5 ∧
      (textBytes "\nendobj\n").length = 8 := by decide
  obtain ⟨hspace, hobj, hend⟩ := htexts
  have hnumber := length_decimal_le (by decide) h.obj
  have hgeneration := length_decimal_le (by decide) h.gen
  have hbody := h.body
  rw [objectText, objectHeader]
  simp only [length_append, hspace, hobj, hend]
  omega

theorem offsets_short {baseOffset : Nat} {signatureObject : ObjGen}
    {objects : List IncrementalObject} (h : ∀ o ∈ objects, o.Short) : ∀ a : Assembly,
      baseOffset + (a.bytes ++ objects.flatMap objectText).length < 10 ^ 20 →
      (∀ e ∈ a.offsets, XrefEntry.Short e) →
      (∀ e ∈ (objects.foldl (assembleObject baseOffset signatureObject) a).offsets,
        XrefEntry.Short e) ∧
      (objects.foldl (assembleObject baseOffset signatureObject) a).offsets.length ≤
        a.offsets.length + objects.length := by
  induction objects with
  | nil => exact fun a _ ha => ⟨ha, Nat.le_refl _⟩
  | cons o rest ih =>
    intro a hsize ha
    obtain ⟨ho, hrest⟩ := forall_mem_cons.mp h
    set b := assembleObject baseOffset signatureObject a o with hb
    have hbytes : b.bytes ++ rest.flatMap objectText = a.bytes ++ (o :: rest).flatMap objectText := by
      rw [flatMap_cons, ← append_assoc]
      congr 1
      exact append_assoc _ _ _
    have hoffset : baseOffset + a.bytes.length < 10 ^ 20 := by
      rw [length_append] at hsize
      omega
    obtain ⟨hshort, hlength⟩ : (∀ e ∈ b.offsets, XrefEntry.Short e) ∧
        b.offsets.length ≤ a.offsets.length + 1 := by
      rw [hb, assembleObject]
      dsimp only
      split
      · exact ⟨ha, Nat.le_succ _⟩
      · refine ⟨fun e he => ?_, (length_append).le⟩
        rcases mem_append.mp he with he | he
        · exact ha e he
        · rw [mem_singleton.mp he]
          exact ⟨ho.obj, hoffset, ho.gen⟩
    obtain ⟨hall, hcount⟩ := ih hrest b (hbytes ▸ hsize) hshort
    rw [foldl_cons, length_cons, ← hb]
    exact ⟨hall, by omega⟩

/-- A qpdf that writes nothing, so that the size of a revision is known. -/
structure Mute : Prop where
  unparse : ∀ h, env.unparse h = []
  unicodeString : ∀ s, env.unicodeString s = []
  pdfDate : env.pdfDate = .ok ""

section Mute

variable {env p st root} {params : PadesParameters}

theorem length_assembleRevision_le (henv : Mute env) {base prev : Nat}
    {objects : List IncrementalObject} (hobjects : ∀ o ∈ objects, o.Short)
    (hfew : objects.length ≤ 40) (hbase : base ≤ 10 ^ 12) (signatureObject : ObjGen)
    (trailer : PdfMap) :
    (assembleRevision env base prev objects root signatureObject trailer).1.bytes.length ≤
      10 ^ 6 := by
  have hmem : ∀ o ∈ sortedObjects objects, o.Short := fun o ho =>
    hobjects o ((perm_insertionSort _ _).mem_iff.mp ho)
  have hcount : (sortedObjects objects).length = objects.length :=
    (perm_insertionSort _ _).length_eq
  have htext := @length_flatMap_le _ _ _ objectText (fun o => [o]) 21000 (sortedObjects objects)
    fun o ho => length_objectText_le (hmem o ho)
  rw [flatMap_singleton', hcount] at htext
  obtain ⟨hshort, hlength⟩ := @offsets_short base signatureObject _ hmem
    { maxObjectId := root.getObjGen.obj } (by rw [nil_append]; omega) nofun
  have htable := length_xrefTable_le hshort
  have hbytes := bytes_foldl_assembleObject base signatureObject (sortedObjects objects)
    { maxObjectId := root.getObjGen.obj }
  have htexts : (textBytes "trailer\n").length = 8 ∧ (textBytes "\nstartxref\n").length = 11 ∧
      (textBytes "\n%%EOF\n").length = 7 := by decide
  obtain ⟨htrailer, hstart, hend⟩ := htexts
  have hplace : (decimal (base + ((sortedObjects objects).flatMap objectText).length)).length ≤ 20 :=
    length_decimal_le (by decide) (by omega)
  rw [nil_append] at hbytes
  rw [assembleRevision]
  rw [sortedObjects] at *
  simp only [length_append, hbytes, henv.unparse, length_nil, htrailer, hstart, hend]
  dsimp only at hlength
  rw [length_nil] at hlength
  omega

theorem catalogBody_mute (henv : Mute env) (source : PdfMap) (form dss : Handle) :
    catalogBody env source form dss = [] := by
  rw [catalogBody, henv.unparse]
  rfl

/-- A file and a number of objects of a usual size. -/
structure Roomy (root : Handle) (k : Nat) (st : BuilderState) : Prop where
  pdf : st.pdf.length ≤ k * 10 ^ 6
  count : st.objectCount ≤ k * 100
  few : k ≤ 1000
  counted : root.getObjGen.obj ≤ st.objectCount
  gen : root.getObjGen.gen = 0

/-- The objects of a signed revision whose texts are short. -/
theorem short_signedObjects (henv : Mute env) (hpage : p.firstPage = .null none) {n : Nat}
    (hn : n < 10 ^ 6) (hcounted : p.document.root.getObjGen.obj ≤ n)
    (hgen : p.document.root.getObjGen.gen = 0) (kind : SigKind) {extra : Bytes}
    (hextra : extra.length ≤ 1000) (fieldName pdfDate : String) (acroform : PdfMap) (dss : Handle) :
    ∀ o ∈ signedObjects env p kind extra fieldName pdfDate acroform (.null (some ⟨n + 1, 0⟩))
      (.null (some ⟨n + 1 + 1, 0⟩)) (.null (some ⟨n + 1 + 1 + 1, 0⟩)) dss, o.Short := by
  have hnumber : n + 1 + 1 + 1 < 10 ^ 9 := by omega
  have hbody : (sigDictBody kind extra).length ≤ 20000 := by
    have hleft : (leftOf kind [] blankRange).length ≤ 1000 := by cases kind <;> decide +kernel
    have hend : (textBytes ">>").length = 2 := by decide
    rw [sigDictBody_eq, length_append, length_append, length_append, hend,
      length_contentsLiteral_nil, kContentsHexLen]
    omega
  have hwidget : (widgetBody env fieldName (.null (some ⟨n + 1, 0⟩)) p.firstPage
      pdfDate).length ≤ 20000 := by
    have htexts : (textBytes "<</Type/Annot/Subtype/Widget/FT/Sig/T ").length ≤ 100 ∧
        (textBytes "/Rect[0 0 50 50]/F 132/V ").length ≤ 100 ∧ (textBytes "/M ").length ≤ 100 ∧
        (textBytes ">>").length ≤ 100 ∧ (textBytes " ").length ≤ 100 ∧
        (textBytes " R").length ≤ 100 ∧ (decimal 0).length ≤ 100 := by decide +kernel
    have hdecimal := @length_decimal_le (n + 1) 9 (by decide) (by omega)
    rw [hpage, widgetBody, henv.unicodeString, henv.unicodeString]
    show (_ ++ (decimal _ ++ textBytes " " ++ decimal 0 ++ textBytes " R") ++ [] ++ _ ++ _ ++
      _ : Bytes).length ≤ _
    simp only [length_append, length_nil]
    omega
  intro o ho
  rw [signedObjects, catalogBody_mute henv, henv.unparse] at ho
  simp only [mem_cons, not_mem_nil, or_false] at ho
  rcases ho with rfl | rfl | rfl | rfl
  · exact ⟨show n + 1 < _ by omega, (by decide : 0 < _), hbody⟩
  · exact ⟨show n + 1 + 1 < _ by omega, (by decide : 0 < _), hwidget⟩
  · exact ⟨hnumber, (by decide : 0 < _), Nat.zero_le _⟩
  · exact ⟨show p.document.root.getObjGen.obj < _ by omega,
      show p.document.root.getObjGen.gen < _ by omega, Nat.zero_le _⟩

/-- A signed revision can be opened, and closed with any signature that fits. -/
theorem signed_runs (henv : Mute env) (hpage : p.firstPage = .null none) {k : Nat}
    (h : Roomy p.document.root k st) (kind : SigKind) {extra : Bytes} (hextra : extra.length ≤ 1000)
    (fieldName pdfDate : String) (acroform : PdfMap) (dss : Handle) (message : String) {der : Bytes}
    (hder : (hexUpper der).length ≤ kContentsHexLen) :
    ∃ o pdf, openRevision env { st with objectCount := st.objectCount + 1 + 1 + 1 }
        (signedObjects env p kind extra fieldName pdfDate acroform
          (.null (some ⟨st.objectCount + 1, 0⟩)) (.null (some ⟨st.objectCount + 1 + 1, 0⟩))
          (.null (some ⟨st.objectCount + 1 + 1 + 1, 0⟩)) dss)
        p.document.root ⟨st.objectCount + 1, 0⟩ message = .ok o ∧
      pdf.length ≤ st.pdf.length + 10 ^ 6 ∧ ∀ mid, closeRevision kind o der mid = .ok { mid with
        pdf := pdf
        trailer := o.trailer
        previousStartxref := o.layout.startxref
        revisions := mid.revisions ++ [⟨kind, pdf, o.range, o.handed, der⟩] } := by
  obtain ⟨hpdf, hcount, hfew, hcounted, hgen⟩ := h
  set opened : BuilderState := { st with objectCount := st.objectCount + 1 + 1 + 1 }
  have hdistinct := @distinct_signedObjects env p st.objectCount hcounted kind extra fieldName
    pdfDate acroform dss
  have hshort := short_signedObjects henv hpage (show st.objectCount < _ by omega) hcounted hgen kind
    hextra fieldName pdfDate acroform dss
  have hlayout := @length_assembleRevision_le env p.document.root henv st.pdf.length
    st.previousStartxref _ hshort (show 4 ≤ 40 by decide) (by omega) ⟨st.objectCount + 1, 0⟩ st.trailer
  obtain ⟨o, hopen⟩ := @openRevision_ok kind env p.document.root opened ⟨st.objectCount + 1, 0⟩ extra
    _ message hdistinct (lt_of_le_of_lt (Nat.add_le_add_left hlayout st.pdf.length) (by omega))
  obtain ⟨left, right, -, hopened, -, hlt, hgt, ⟨hfield, front, back, rest, hsplit, hbytes, hfilled⟩,
    hassembled⟩ := openRevision_spec hdistinct hopen
  obtain ⟨st', hclose⟩ := @closeRevision_ok kind st o der left right hopened hlt hgt hder
  obtain ⟨-, hpdf', -⟩ := closeRevision_spec hopened hlt hgt hclose
  simp only [closeRevision, bind_eq_ok, Except.ok.injEq] at hclose
  obtain ⟨pdf, hwrite, rfl⟩ := hclose
  refine ⟨o, pdf, hopen, ?_, fun mid => ?_⟩
  · have hlength : pdf.length = (st.pdf ++ o.layout.bytes).length := by
      rw [show pdf = _ from hpdf', hfilled, hbytes, hsplit]
      simp only [opened, length_append, flatMap_append, flatMap_cons, objectText,
        ← length_filledDict kind extra hfield hder]
    have hlayout' : o.layout.bytes.length ≤ 10 ^ 6 :=
      (congrArg (fun layout : RevisionLayout × PdfMap => layout.1.bytes.length) hassembled).le.trans
        hlayout
    rw [hlength, length_append]
    omega
  · simp only [closeRevision, hwrite]
    rfl

theorem newIndirect_runs (h : st.objectCount < 10 ^ 9) :
    newIndirect st = .ok (.null (some ⟨st.objectCount + 1, 0⟩),
      { st with objectCount := st.objectCount + 1 }) := by
  rw [newIndirect, require, if_pos (show st.objectCount < intMax by rw [intMax]; omega)]
  rfl

theorem dssStreams_runs {blobs : List Bytes} : ∀ {st : BuilderState},
    st.objectCount + blobs.length < 10 ^ 9 → ∃ result, dssStreams blobs st = .ok result := by
  induction blobs with
  | nil => exact fun _ => ⟨_, rfl⟩
  | cons blob rest ih =>
    intro st hcount
    rw [length_cons] at hcount
    rw [dssStreams]
    split
    · exact ih (by omega)
    · obtain ⟨result, hresult⟩ := @ih { st with objectCount := st.objectCount + 1 }
        (show st.objectCount + 1 + rest.length < _ by omega)
      rw [newIndirect_runs (by omega)]
      exact ⟨_, bind_eq_ok.mpr ⟨_, rfl, bind_eq_ok.mpr ⟨_, hresult, rfl⟩⟩⟩

theorem dssArray_runs {blobs : List Bytes} (h : st.objectCount + blobs.length < 10 ^ 9)
    (key : String) (dss : PdfMap) : ∃ dss', dssArray root key blobs dss st =
      .ok (dss', streamsFrom st.objectCount (written blobs),
        { st with objectCount := st.objectCount + (written blobs).length }) := by
  obtain ⟨⟨handles, objects, st'⟩, hstreams⟩ := dssStreams_runs h
  obtain ⟨rfl, rfl, rfl⟩ := dssStreams_eq_ok hstreams
  exact ⟨_, bind_eq_ok.mpr ⟨_, hstreams, rfl⟩⟩

theorem length_streamsFrom (blobs : List Bytes) (n : Nat) :
    (streamsFrom n blobs).length = blobs.length := by
  induction blobs generalizing n with
  | nil => rfl
  | cons blob rest ih => exact congrArg (· + 1) (ih (n + 1))

theorem short_streamsFrom {blobs : List Bytes} (hblobs : ∀ blob ∈ blobs, blob.length ≤ 1000) :
    ∀ {n : Nat}, n + blobs.length < 10 ^ 9 → ∀ o ∈ streamsFrom n blobs, o.Short := by
  induction blobs with
  | nil => exact fun _ o ho => absurd ho not_mem_nil
  | cons blob rest ih =>
    intro n hn
    obtain ⟨hblob, hrest⟩ := forall_mem_cons.mp hblobs
    rw [length_cons] at hn
    refine forall_mem_cons.mpr ⟨⟨show n + 1 < _ by omega, (by decide : 0 < _), ?_⟩,
      ih hrest (by omega)⟩
    have htexts : (textBytes "<</Length ").length = 10 ∧ (textBytes ">>\nstream\n").length = 10 ∧
        (textBytes "\nendstream").length = 10 := by decide
    have hdecimal := @length_decimal_le blob.length 4 (by decide) (by omega)
    show (_ ++ _ ++ _ ++ _ ++ _ : Bytes).length ≤ _
    simp only [length_append, htexts.1, htexts.2.1, htexts.2.2]
    omega

theorem appendDssRevision_runs (henv : Mute env) {k : Nat} (h : Roomy root k st) (hk : k < 1000)
    (hdss : root.hasKey "/DSS" = true → (root.getKey "/DSS").isDictionary = true)
    (hfew : st.evidence.certificateChain.length + st.evidence.crls.length +
      st.evidence.ocspResponses.length ≤ 38)
    (hblobs : ∀ blobs ∈ [st.evidence.certificateChain, st.evidence.crls, st.evidence.ocspResponses],
      ∀ blob ∈ blobs, blob.length ≤ 1000) :
    ∃ st', appendDssRevision env root st = .ok st' ∧ Roomy root (k + 1) st' ∧
      st'.evidence = st.evidence ∧ st'.answers = st.answers ∧ st'.revisions = st.revisions := by
  obtain ⟨hpdf, hcount, -, hcounted, hgen⟩ := h
  have hfilter : ∀ blobs : List Bytes, (written blobs).length ≤ blobs.length := fun blobs =>
    length_filter_le _ _
  have hcerts := hfilter st.evidence.certificateChain
  have hcrls := hfilter st.evidence.crls
  have hocsps := hfilter st.evidence.ocspResponses
  obtain ⟨dss₁, h₁⟩ := @dssArray_runs root st st.evidence.certificateChain (by omega) "/Certs"
    ((if root.hasKey "/DSS" then (root.getKey "/DSS").getDictAsMap else []).set "/Type"
      (.name none "/DSS"))
  set st₁ : BuilderState := { st with
    objectCount := st.objectCount + (written st.evidence.certificateChain).length } with hst₁
  obtain ⟨dss₂, h₂⟩ := @dssArray_runs root st₁ st.evidence.crls
    (show st.objectCount + (written _).length + _ < _ by omega) "/CRLs" dss₁
  set st₂ : BuilderState := { st₁ with
    objectCount := st₁.objectCount + (written st.evidence.crls).length } with hst₂
  obtain ⟨dss₃, h₃⟩ := @dssArray_runs root st₂ st.evidence.ocspResponses
    (show st.objectCount + (written _).length + (written _).length + _ < _ by omega) "/OCSPs" dss₂
  set st₃ : BuilderState := { st₂ with
    objectCount := st₂.objectCount + (written st.evidence.ocspResponses).length } with hst₃
  have hlast : st₃.objectCount < 10 ^ 9 := show st.objectCount + _ + _ + _ < _ by omega
  have h₄ := newIndirect_runs hlast
  apply Exists.intro
  apply And.intro
  · simp only [appendDssRevision, bind_eq_ok, require_eq_ok, Prod.exists]
    exact ⟨(), hdss, _, _, _, h₁, _, _, _, h₂, _, _, _, h₃, _, _, h₄, rfl⟩
  refine ⟨⟨?_, ?_, by omega, ?_, hgen⟩, rfl, rfl, rfl⟩
  · rw [length_append]
    refine (Nat.add_le_add hpdf (length_assembleRevision_le henv ?_ ?_ ?_ _ _)).trans (by omega)
    · have hsmall : ∀ {blobs : List Bytes}, (∀ blob ∈ blobs, blob.length ≤ 1000) →
          ∀ blob ∈ written blobs, blob.length ≤ 1000 := fun hall blob hblob =>
        hall blob (mem_filter.mp hblob).1
      simp only [forall_mem_cons] at hblobs
      obtain ⟨hb₁, hb₂, hb₃, -⟩ := hblobs
      intro o ho
      simp only [mem_append, mem_cons, not_mem_nil, or_false] at ho
      rcases ho with ((ho | ho) | ho) | rfl | rfl
      · exact short_streamsFrom (hsmall hb₁) (by omega) o ho
      · exact short_streamsFrom (hsmall hb₂) (show st.objectCount + _ + _ < _ by omega) o ho
      · exact short_streamsFrom (hsmall hb₃) (show st.objectCount + _ + _ + _ < _ by omega) o ho
      · exact ⟨show st.objectCount + _ + _ + _ + 1 < _ by omega, (by decide : 0 < _),
          (congrArg List.length (henv.unparse _)).le.trans (Nat.zero_le _)⟩
      · refine ⟨show root.getObjGen.obj < _ by omega, show root.getObjGen.gen < _ by omega, ?_⟩
        exact (congrArg List.length (catalogBody_mute henv _ _ _)).le.trans (Nat.zero_le _)
    · simp only [length_append, length_streamsFrom, length_cons, length_nil]
      omega
    · show st.pdf.length ≤ _
      omega
  · show st.objectCount + _ + _ + _ + 1 ≤ _
    omega
  · show root.getObjGen.obj ≤ st.objectCount + _ + _ + _ + 1
    omega

/-- `SEQUENCE { NULL }`, the signature and the token of a plain run. -/
def plainCms : Bytes := [0x30, 0x02, 0x05, 0x00]

theorem mainRevision_runs (henv : Mute env) (hsign : ∀ data, env.signPadesDetached data = .ok plainCms)
    (hpage : p.firstPage = .null none) {k : Nat} (h : Roomy p.document.root k st) (hk : k < 1000)
    {mid : BuilderState} (hcms : timestampedCms env params plainCms
      { st with objectCount := st.objectCount + 1 + 1 + 1 } = .ok (plainCms, mid))
    (hcount : mid.objectCount = st.objectCount + 3) :
    ∃ st', mainRevision env params p st = .ok st' ∧ Roomy p.document.root (k + 1) st' ∧
      st'.evidence = mid.evidence ∧ st'.answers = mid.answers ∧
      st'.revisions.length = mid.revisions.length + 1 := by
  have hextra : (sigExtra env params "").length ≤ 1000 := by
    have htexts : (textBytes "/M ").length ≤ 100 ∧ (textBytes "/Reason ").length ≤ 100 ∧
        (textBytes "/Location ").length ≤ 100 := by decide
    rw [sigExtra, henv.unicodeString, henv.unicodeString, henv.unicodeString]
    split <;> simp only [length_append, length_nil] <;> omega
  obtain ⟨o, pdf, hopen, hpdf, hclose⟩ := signed_runs henv hpage h .signature hextra p.mainFieldName
    "" (acroformWith p (st.fields ++ [.null (some ⟨st.objectCount + 1 + 1, 0⟩)])) st.dssRef
    "Не знайдено плейсхолдери PAdES у main incremental revision"
    (show (hexUpper plainCms).length ≤ _ by decide)
  obtain ⟨hpdf', hcount', -, hcounted, hgen⟩ := h
  apply Exists.intro
  apply And.intro
  · simp only [mainRevision, bind_eq_ok, Prod.exists]
    exact ⟨_, _, newIndirect_runs (by omega), _, _,
      newIndirect_runs (show st.objectCount + 1 < _ by omega), _, _,
      newIndirect_runs (show st.objectCount + 1 + 1 < _ by omega), "", henv.pdfDate, o, hopen,
      plainCms, hsign _, plainCms, mid, hcms, hclose _⟩
  refine ⟨⟨hpdf.trans (by omega), ?_, by omega, ?_, hgen⟩, rfl, rfl, length_append⟩
  · show mid.objectCount ≤ _
    omega
  · show _ ≤ mid.objectCount
    omega

theorem timestampRevision_runs (henv : Mute env)
    (hprovider : params.timestampProvider = some fun _ _ => .ok plainCms)
    (hpage : p.firstPage = .null none) {k : Nat} (h : Roomy p.document.root k st) (hk : k < 1000) :
    ∃ mid handed, timestampRevision env params p st = collectEvidence params plainCms handed mid ∧
      Roomy p.document.root (k + 1) mid ∧ mid.evidence = st.evidence ∧ mid.answers = st.answers ∧
      mid.revisions.length = st.revisions.length + 1 := by
  obtain ⟨o, pdf, hopen, hpdf, hclose⟩ := signed_runs henv hpage h .docTimestamp
    (show ([] : Bytes).length ≤ 1000 by decide) (uniqueFieldName st.timestampNames "TimeStamp1") ""
    (acroformWith p (st.fields ++ [.null (some ⟨st.objectCount + 1 + 1, 0⟩)])) st.dssRef
    "Не знайдено плейсхолдери PAdES DocTimeStamp" (show (hexUpper plainCms).length ≤ _ by decide)
  obtain ⟨hpdf', hcount', -, hcounted, hgen⟩ := h
  have hnew : ∀ {st : BuilderState}, st.objectCount < 10 ^ 9 → newIndirect st = _ := newIndirect_runs
  apply Exists.intro
  apply Exists.intro o.handed
  apply And.intro
  · rw [timestampRevision, hnew (by omega)]
    dsimp only [Bind.bind, Except.bind]
    rw [hnew (show st.objectCount + 1 < _ by omega)]
    dsimp only
    rw [hnew (show st.objectCount + 1 + 1 < _ by omega)]
    dsimp only
    rw [henv.pdfDate]
    dsimp only
    erw [hopen]
    dsimp only
    rw [requestTimestamp, hprovider]
    dsimp only [orError, Bind.bind, Except.bind]
    rw [hclose]
  refine ⟨⟨hpdf.trans (by omega), ?_, by omega, ?_, hgen⟩, rfl, rfl, length_append⟩
  · show st.objectCount + 1 + 1 + 1 ≤ _
    omega
  · show _ ≤ st.objectCount + 1 + 1 + 1
    omega

end Mute

def plainPdf : Bytes := textBytes "%PDF-1.7\nstartxref\n9\n"

/-- A document with a catalog and nothing else. -/
def plainDocument : PdfDocument where
  root := .dictionary (some ⟨1, 0⟩) []
  objectCount := 1
  root_counted := by decide

/-- A document with a certificate in its `/DSS`, the object 2. -/
def archivedDocument : PdfDocument where
  root := .dictionary (some ⟨1, 0⟩)
    [("/DSS", .dictionary none [("/Certs", .array none [.other (some ⟨2, 0⟩) []])])]
  objectCount := 2
  root_counted := by decide

/-- A qpdf that reads one document and writes nothing, and a signer with one signature. -/
def plainBuilder (document : PdfDocument) : BuilderEnv where
  processMemoryFile _ := .ok document
  unparse _ := []
  unicodeString _ := []
  sha256 _ := []
  pdfDate := .ok ""
  signPadesDetached _ := .ok plainCms
  getSignatureValue _ := .ok []
  appendTspToken cms _ := .ok cms

theorem plainBuilder_mute (document : PdfDocument) : Mute (plainBuilder document) :=
  ⟨fun _ => rfl, fun _ => rfl, rfl⟩

def plainPrepared (document : PdfDocument) (startxref : Nat) : Prepared where
  document := document
  firstPage := .null none
  acroform := []
  fields := []
  existingNames := []
  mainFieldName := "Signature1"
  startxref := startxref

theorem roomy_initialState (params : PadesParameters) {p : Prepared} {content : Bytes}
    (hsize : content.length ≤ 10 ^ 5) (hcount : p.document.objectCount ≤ 100)
    (hgen : p.document.root.getObjGen.gen = 0) :
    Roomy p.document.root 1 (initialState params content p) := by
  refine ⟨?_, ?_, by decide, p.document.root_counted, hgen⟩
  · show (withLineBreak content).length ≤ _
    rw [withLineBreak]
    split
    · omega
    · rw [length_append, length_singleton]
      omega
  · show p.document.objectCount ≤ _
    omega

theorem plain_signed {content : Bytes} {startxref : Nat} (hsize : content.length ≤ 10 ^ 5)
    (hprepare : prepare (plainBuilder plainDocument) {} content =
      .ok (plainPrepared plainDocument startxref)) :
    ∃ st, signPdf (plainBuilder plainDocument) {} content = .ok st := by
  obtain ⟨st, hmain, -⟩ := @mainRevision_runs _ (plainPrepared plainDocument startxref) _ {}
    (plainBuilder_mute plainDocument) (fun _ => rfl) rfl 1
    (roomy_initialState {} hsize (show 1 ≤ 100 by decide) rfl) (by decide) _ rfl rfl
  refine ⟨st, ?_⟩
  simp only [signPdf, bind_eq_ok]
  exact ⟨_, hprepare, st, hmain, st, rfl, rfl⟩

/-- The profile LTA with two certificates.  The first document timestamp brings a CRL, so that
another one follows. -/
def stampedParameters (a b : UInt8) : PadesParameters where
  profile := .lta
  timestampProvider := some fun _ _ => .ok plainCms
  timestampEvidenceProvider := some fun call _ _ => .ok (if call = 1 then { crls := [[3]] } else {})
  evidence := { certificateChain := [[a], [b]] }

theorem stamped_prepare (a b : UInt8) :
    prepare (plainBuilder archivedDocument) (stampedParameters a b) plainPdf =
      .ok (plainPrepared archivedDocument 9) := by
  simp only [prepare, bind_eq_ok, require_eq_ok, orError_eq_ok]
  exact ⟨(), fun _ => rfl, (), by decide +kernel, archivedDocument, rfl, (), rfl, (), ⟨rfl, rfl⟩,
    [], rfl, 9, by decide +kernel, ([], []), rfl, rfl⟩

theorem stamped_signed (a b : UInt8) :
    ∃ st, signPdf (plainBuilder archivedDocument) (stampedParameters a b) plainPdf = .ok st ∧
      st.pdf.length ≤ 10 ^ 9 ∧ st.revisions.length = 3 ∧
      st.answers = [{}, { crls := [[3]] }, {}] := by
  have hmute := plainBuilder_mute archivedDocument
  set p := plainPrepared archivedDocument 9
  have hinitial : Roomy p.document.root 1 (initialState (stampedParameters a b) plainPdf p) :=
    roomy_initialState _ (by decide) (by decide) rfl
  set stamped : BuilderState :=
    { initialState (stampedParameters a b) plainPdf p with
      objectCount := 5
      timestampCalls := 1
      answers := [{}] } with hstamped
  obtain ⟨st₁, hmain, hroom₁, hevidence₁, hanswers₁, hrevisions₁⟩ :=
    @mainRevision_runs _ p _ (stampedParameters a b) hmute (fun _ => rfl) rfl 1 hinitial (by decide)
      stamped rfl rfl
  obtain ⟨st₂, hdss₂, hroom₂, hevidence₂, hanswers₂, hrevisions₂⟩ :=
    appendDssRevision_runs hmute hroom₁ (by decide) (fun _ => rfl)
      (by rw [hevidence₁]; exact (by decide : 2 ≤ 38))
      (by rw [hevidence₁]; simp [hstamped, initialState, stampedParameters])
  obtain ⟨mid₃, handed₃, hstamp₃, hroom₃, hevidence₃, hanswers₃, hrevisions₃⟩ :=
    @timestampRevision_runs _ p _ (stampedParameters a b) hmute rfl rfl _ hroom₂ (by decide)
  -- the token of the first one brings the CRL
  have hcollect₃ : collectEvidence (stampedParameters a b) plainCms handed₃ mid₃ =
      .ok ({ mid₃ with
        evidence := ⟨[[a], [b]], [[3]], []⟩
        answers := [{}, { crls := [[3]] }] }, true) := by
    rw [collectEvidence]
    dsimp only [stampedParameters, bind, Except.bind]
    rw [hevidence₃, hanswers₃, hevidence₂, hanswers₂, hevidence₁, hanswers₁]
    rfl
  set st₃ : BuilderState := { mid₃ with
    evidence := ⟨[[a], [b]], [[3]], []⟩
    answers := [{}, { crls := [[3]] }] }
  have hroom₃' : Roomy p.document.root 4 st₃ :=
    ⟨hroom₃.pdf, hroom₃.count, hroom₃.few, hroom₃.counted, hroom₃.gen⟩
  obtain ⟨st₄, hdss₄, hroom₄, hevidence₄, hanswers₄, hrevisions₄⟩ :=
    appendDssRevision_runs hmute hroom₃' (by decide) (fun _ => rfl) (by exact (by decide : 3 ≤ 38))
      (by simp [st₃])
  obtain ⟨mid₅, handed₅, hstamp₅, hroom₅, hevidence₅, hanswers₅, hrevisions₅⟩ :=
    @timestampRevision_runs _ p _ (stampedParameters a b) hmute rfl rfl _ hroom₄ (by decide)
  have hcollect₅ : collectEvidence (stampedParameters a b) plainCms handed₅ mid₅ =
      .ok ({ mid₅ with answers := [{}, { crls := [[3]] }, {}] }, false) := by
    rw [collectEvidence]
    dsimp only [stampedParameters, bind, Except.bind]
    rw [hanswers₅, hanswers₄]
    rfl
  refine ⟨{ mid₅ with answers := [{}, { crls := [[3]] }, {}] }, ?_, ?_, ?_, rfl⟩
  · simp only [signPdf, bind_eq_ok]
    refine ⟨p, stamped_prepare a b, st₁, hmain, st₂, hdss₂, ?_⟩
    show timestampLoop _ _ _ 3 st₂ = _
    rw [timestampLoop, hstamp₃, hcollect₃]
    show (appendDssRevision _ _ st₃ >>= timestampLoop _ _ _ 2) = _
    rw [hdss₄]
    show timestampLoop _ _ _ 2 st₄ = _
    rw [timestampLoop, hstamp₅, hcollect₅]
    rfl
  · exact hroom₅.pdf.trans (by decide)
  · show mid₅.revisions.length = 3
    rw [hrevisions₅, hrevisions₄]
    show mid₃.revisions.length + 1 = 3
    rw [hrevisions₃, hrevisions₂, hrevisions₁]
    rfl

theorem signPdf_sealed_stamped : ∃ st,
    signPdf (plainBuilder archivedDocument) (stampedParameters 1 2) plainPdf = .ok st ∧
      st.revisions.length = 3 ∧ plainPdf <+: st.pdf ∧
      ∀ r ∈ st.revisions, extractSignedBytes st.pdf r.range = r.handed := by
  obtain ⟨st, hst, -, hlength, -⟩ := stamped_signed 1 2
  obtain ⟨hstart, -, hall, -⟩ := signPdf_sealed _ _ _ st hst
  exact ⟨st, hst, hlength, hstart, fun r hr => (hall r hr).2.2⟩

end Tamga.Pades
