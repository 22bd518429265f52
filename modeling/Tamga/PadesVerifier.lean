/-
`PadesVerifier::VerifyPdf` and the verdict `Session::VerifyPdf` draws from it.

The verifier makes three passes over the signature fields of a file.  The first
takes the furthest end of all byte ranges as the end of the covered part, the
second checks the main signatures, the third the document timestamps.  The first
pass knows nothing of the verdicts of the other two, and the document timestamps do
not enter the verdict on the document at all.

* `mainPass_spec` — what the loop over the main signatures has gathered at its end;
* `verifyPdf_ok_iff` — when there is a report, and which;
* `coverage_verified_iff` — whatever the pages are, a valid document shows those of the part that
  passing fields cover, exactly if no failing field ends later and nothing is left to compare; in
  the file of `forged_timestamp_extends_coverage` one does;
* `gap_is_contents_iff` — the bytes a valid signature leaves out are its `/Contents`
  literal exactly if its byte range was laid around the literal, and
  `gap_wider_than_contents` is an accepted file where it was not.
-/
import Tamga.DerTlv
import Tamga.PdfFields

namespace Tamga.Pades

open Spans Util List

/-! ### The checks outside the PDF layer -/

/-- What `VerifyDetached` says of a signature it could process. -/
structure DetachedVerdict where
  isValid : Bool
  signerCertificateDer : Der
  signerCertificatePresent : Bool
  signerCount : Nat
  deriving DecidableEq, Repr

/-- `TimestampValidationResult`, as far as it is read here. -/
structure TimestampValidationResult where
  valid : Bool
  tsaCertificateExternal : Bool
  message : String
  deriving DecidableEq, Repr

/-- qpdf, the CMS operations and the timestamp check, and the size of
`std::size_t`. -/
structure PadesEnv where
  sizeOfSizeT : Nat
  qpdf : Qpdf
  verifyDetached : Bytes → Bytes → Except String DetachedVerdict
  hasSignatureTimestampToken : Bytes → Except String Bool
  extractSignatureTimestampToken : Bytes → Except String Bytes
  getSignatureValue : Bytes → Except String Bytes
  validateTimestampToken : Bytes → Bytes → List Der → TimestampValidationResult

/-- `DerLength`: the length of the outer DER object, or of everything if there is
none. -/
def derLength (w : Nat) (der : Bytes) : Nat :=
  if der.length < 2 ∨ der.head? ≠ some 0x30 then der.length
  else
    match parseTlvAt w der 0 der.length with
    | none => der.length
    | some tlv => tlv.nextOffset

/-- `TrimDer`: without the padding of the `/Contents` slot. -/
def trimDer (w : Nat) (data : Bytes) : Bytes :=
  let n := derLength w data
  if n < data.length then data.take n else data

/-- A DER SEQUENCE: a length in definite form, in as few octets as it takes, that states where the
sequence ends. -/
structure DerSequence (der : Bytes) : Prop where
  tag : der.head? = some 0x30
  definite : der.getD 1 0 ≠ 0x80
  minimal : longOctets (der.getD 1 0) ≠ 0 →
    256 ^ (longOctets (der.getD 1 0) - 1) ≤ statedLength der 1
  length : valueStart der 1 + statedLength der 1 = der.length

/-- The end of a SEQUENCE is found from its length, whatever its last octets are. -/
theorem trimDer_padded {w : Nat} {der : Bytes} (h : DerSequence der) (n : Nat)
    (hsize : der.length + n < sizeRange w) : trimDer w (der ++ List.replicate n 0) = der := by
  have hlength := h.length
  rw [valueStart] at hlength
  have hfirst : (der ++ List.replicate n 0).getD 1 0 = der.getD 1 0 := by
    rw [getD_eq_getElem?_getD, List.getElem?_append_left (by omega),
      ← getD_eq_getElem?_getD]
  have hstart : valueStart (der ++ List.replicate n 0) 1 = valueStart der 1 := by
    rw [valueStart, valueStart, hfirst]
  have hstated : statedLength (der ++ List.replicate n 0) 1 = statedLength der 1 := by
    have hcut : cut (der ++ List.replicate n 0) ⟨1 + 1, longOctets (der.getD 1 0)⟩ =
        cut der ⟨1 + 1, longOctets (der.getD 1 0)⟩ := cut_eq_iff.mpr fun i hi => by
      have hlt : i < 1 + 1 + longOctets (der.getD 1 0) := hi.2
      exact List.getElem?_append_left (by omega)
    rw [statedLength, statedLength, hfirst, hcut]
  have htotal : (der ++ List.replicate n (0 : UInt8)).length = der.length + n := by
    rw [length_append, length_replicate]
  -- a length in more octets than a `std::size_t` has would be longer than the bytes at hand
  have hoctets : longOctets (der.getD 1 0) ≤ w := by
    by_cases hshort : longOctets (der.getD 1 0) = 0
    · omega
    · have hleast := h.minimal hshort
      rw [sizeRange, Nat.pow_mul, show 2 ^ 8 = 256 by decide] at hsize
      have := (Nat.pow_lt_pow_iff_right (by decide)).mp
        (show 256 ^ (longOctets (der.getD 1 0) - 1) < 256 ^ w by omega)
      omega
  have hfault : ¬ LengthFault w (der ++ List.replicate n 0) (der.length + n) (0 + 1) := by
    simp only [LengthFault, Nat.zero_add, hfirst, hstated, h.definite, false_or, valueStart]
    omega
  have hend : derLength w (der ++ List.replicate n 0) = der.length := by
    rw [derLength, if_neg, parseTlvAt_eq (by omega), htotal, Nat.min_self, if_neg hfault]
    · show valueStart _ 1 + statedLength _ 1 = _
      rw [hstart, hstated, h.length]
    · rw [List.head?_append, h.tag]
      exact fun hor => hor.elim (by omega) fun hne => hne rfl
  rw [trimDer, hend, htotal]
  split
  · exact take_left
  · rw [show n = 0 by omega]
    exact append_nil der

/-! ### The first pass: how much is covered -/

def isEofPadding (c : UInt8) : Bool :=
  c == 0x0d || c == 0x0a || c == 0x20 || c == 0x09 || c == 0x0c || c == 0x00

/-- `EndsWithPdfEof`: `%%EOF` stands at the end, up to white space. -/
def endsWithPdfEof (pdf : Bytes) : Bool :=
  [0x46, 0x4f, 0x45, 0x25, 0x25].isPrefixOf (pdf.reverse.dropWhile isEofPadding)

/-- One turn of the loop over all fields: a second range outside the file cannot
extend the coverage. -/
def coverageStep (pdfSize coverageEnd : Nat) (f : PdfSignatureDictionary) : Nat :=
  if f.byteRange.offset2 > pdfSize then coverageEnd
  else if f.byteRange.length2 > pdfSize - f.byteRange.offset2 then coverageEnd
  else if f.byteRange.revisionEnd > coverageEnd then f.byteRange.revisionEnd
  else coverageEnd

/-- `signed_coverage_end`. -/
def coverageEnd (pdfSize : Nat) (fields : List PdfSignatureDictionary) : Nat :=
  fields.foldl (coverageStep pdfSize) 0

/-- The classification of what follows the covered part. -/
structure Coverage where
  status : String
  complete : Bool
  notes : List String := []
  deriving DecidableEq, Repr

/-- The coverage block of `VerifyPdf`, for a covered part that ends at `coverageEnd`. -/
def classifyCoverage (qpdf : Qpdf) (pdf : Bytes) (coverageEnd : Nat) : Coverage :=
  let trailing := toString (pdf.length - coverageEnd)
  if coverageEnd = pdf.length then { status := "complete", complete := true }
  else if endsWithPdfEof pdf = false then
    { status := "unsigned-data-appended"
      complete := false
      notes := ["Після підписаної ревізії дописано " ++ trailing ++
        " байт(ів), які не утворюють коректного інкрементального оновлення PDF" ++
        " (файл не завершується маркером %%EOF)"] }
  else
    match comparePageContentWithSignedRevision qpdf pdf coverageEnd with
    | .error detail =>
      { status := "coverage-unverifiable"
        complete := false
        notes := ["Не вдалося перевірити, чи змінює документ " ++ trailing ++
          " байт(ів), дописаних після підписаної ревізії: " ++ detail] }
    | .ok (true, detail) =>
      { status := "modified-after-signing"
        complete := false
        notes := ["Документ змінено після підписання: " ++ detail ++
          " (непокрито " ++ trailing ++ " байт(ів))"] }
    | .ok (false, _) =>
      { status := "extended-by-unsigned-revisions"
        complete := true
        notes := ["Після підписаної ревізії додано " ++ trailing ++
          " байт(ів) інкрементальних оновлень (типово /DSS для PAdES-LT);" ++
          " вміст сторінок не змінено"] }

/-! ### The second pass: main signatures -/

/-- `br_valid`. -/
def byteRangeValid (pdfSize : Nat) (br : ByteRange) : Bool :=
  br.offset1 == 0 && br.offset2 > br.length1 && (br.first.fits pdfSize && br.second.fits pdfSize)

def timestampNotes (label : String) (vr : TimestampValidationResult) : List String :=
  if vr.valid = false then [label ++ vr.message]
  else if vr.tsaCertificateExternal then [label ++ "TSA certificate resolved from /DSS"]
  else []

structure EmbeddedTimestamp where
  hasToken : Bool := false
  valid : Bool := true
  notes : List String := []
  deriving DecidableEq, Repr

variable (env : PadesEnv) (pdf : Bytes)

variable (fields : List PdfSignatureDictionary) (dssCertificates : List Der)
  (f : PdfSignatureDictionary)

def checkEmbeddedTimestamp (cms : Bytes) : EmbeddedTimestamp :=
  match env.hasSignatureTimestampToken cms with
  | .ok true =>
    match env.extractSignatureTimestampToken cms, env.getSignatureValue cms with
    | .ok token, .ok sigval =>
      let vr := env.validateTimestampToken token sigval dssCertificates
      { hasToken := true, valid := vr.valid, notes := timestampNotes "signature-timestamp: " vr }
    | _, _ =>
      { hasToken := true, valid := false, notes := ["signature-timestamp: extract failed"] }
  | _ => {}

structure PadesSignatureEvidence where
  cmsDer : Bytes
  signerCertificateDer : Der
  signatureValid : Bool
  signatureTimestampPresent : Bool
  signedRevisionEnd : Nat
  deriving DecidableEq, Repr

def cmsOf : Bytes :=
  trimDer env.sizeOfSizeT f.signature

def detachedVerdict : Except String DetachedVerdict :=
  env.verifyDetached (extractSignedBytes pdf f.byteRange) (cmsOf env f)

/-- `sig_valid`: a call that fails leaves it `false`. -/
def sigValid : Bool :=
  match detachedVerdict env pdf f with
  | .ok v => v.isValid
  | .error _ => false

/-- `policy_info.signer_certificate_der`; a call that fails leaves it empty. -/
def signerCertificateOf : Der :=
  match detachedVerdict env pdf f with
  | .ok v => v.signerCertificateDer
  | .error _ => []

/-- The notes on the byte range and the CMS of the main signature with the index. -/
def mainSignatureNotes (index : Nat) (f : PdfSignatureDictionary) : List String :=
  let br := f.byteRange
  (if byteRangeValid pdf.length br then [] else ["ByteRange не покриває файл повністю"]) ++
    match detachedVerdict env pdf f with
    | .error e => ["VerifyDetached: " ++ e]
    | .ok v =>
      if v.isValid then []
      else ["CMS integrity failed for signature #" ++ toString index ++
        ": byteRange=[" ++ toString br.offset1 ++ " " ++ toString br.length1 ++ " " ++
        toString br.offset2 ++ " " ++ toString br.length2 ++ "]" ++
        ", signedBytes=" ++ toString (extractSignedBytes pdf br).length ++
        ", cms=" ++ toString (cmsOf env f).length ++
        ", signerCertPresent=" ++ (if v.signerCertificatePresent then "true" else "false") ++
        ", signers=" ++ toString v.signerCount]

def evidence : PadesSignatureEvidence where
  cmsDer := cmsOf env f
  signerCertificateDer := signerCertificateOf env pdf f
  signatureValid := sigValid env pdf f && byteRangeValid pdf.length f.byteRange
  signatureTimestampPresent := (checkEmbeddedTimestamp env dssCertificates (cmsOf env f)).hasToken
  signedRevisionEnd := if byteRangeValid pdf.length f.byteRange then f.byteRange.revisionEnd else 0

/-- The variables of the loop over the main signatures. -/
structure MainPass where
  mainSigIndex : Nat := 0
  allSigsValid : Bool := true
  signerCertSet : Bool := false
  byteRangeValid : Bool := false
  signerCertificateDer : Der := []
  signerCmsDer : Bytes := []
  hasEmbeddedTs : Bool := false
  embeddedTsValid : Bool := true
  mainSignatures : List PadesSignatureEvidence := []
  notes : List String := []

/-- One turn of the loop over the main signatures.  Up to the first field whose CMS could be
processed, which gives the signer, each field gives its byte range verdict. -/
def mainStep (s : MainPass) (f : PdfSignatureDictionary) : MainPass :=
  let processed := (detachedVerdict env pdf f).toOption.isSome
  let timestamp := checkEmbeddedTimestamp env dssCertificates (cmsOf env f)
  { mainSigIndex := s.mainSigIndex + 1
    allSigsValid :=
      s.allSigsValid && (sigValid env pdf f && Pades.byteRangeValid pdf.length f.byteRange)
    signerCertSet := s.signerCertSet || processed
    byteRangeValid :=
      if s.signerCertSet then s.byteRangeValid else Pades.byteRangeValid pdf.length f.byteRange
    signerCertificateDer :=
      if s.signerCertSet = false ∧ processed then signerCertificateOf env pdf f
      else s.signerCertificateDer
    signerCmsDer :=
      if s.signerCertSet = false ∧ processed then cmsOf env f else s.signerCmsDer
    hasEmbeddedTs := s.hasEmbeddedTs || timestamp.hasToken
    embeddedTsValid := s.embeddedTsValid && timestamp.valid
    mainSignatures := s.mainSignatures ++ [evidence env pdf dssCertificates f]
    notes := s.notes ++ mainSignatureNotes env pdf (s.mainSigIndex + 1) f ++ timestamp.notes }

def mainPass (mainSigs : List PdfSignatureDictionary) : MainPass :=
  mainSigs.foldl (mainStep env pdf dssCertificates) {}

/-! ### The third pass: document timestamps -/

/-- `dts_range_valid`.  The first range is not tested against the file. -/
def dtsRangeValid (pdfSize : Nat) (br : ByteRange) : Bool :=
  br.offset1 == 0 && br.offset2 > br.length1 && br.second.fits pdfSize

def dtsVerdict : TimestampValidationResult :=
  env.validateTimestampToken (cmsOf env f) (extractSignedBytes pdf f.byteRange) dssCertificates

def dtsValid : Bool :=
  dtsRangeValid pdf.length f.byteRange && (dtsVerdict env pdf dssCertificates f).valid

/-! ### The report -/

inductive PadesProfile where
  | b
  | t
  | lt
  | lta
  deriving DecidableEq, Repr

structure PadesVerificationResult where
  detectedProfile : PadesProfile
  signatureValid : Bool
  byteRangeValid : Bool
  pdfWellFormed : Bool
  timestampsValid : Bool
  ltvValid : Bool
  documentSize : Nat
  signedCoverageEnd : Nat
  unsignedTrailingBytes : Nat
  coverageStatus : String
  coverageComplete : Bool
  signatureCount : Nat
  signerCertificateDer : Der
  signerCmsDer : Bytes
  mainSignatures : List PadesSignatureEvidence
  signatureTimestampPresent : Bool
  documentTimestampTokensDer : List Bytes
  documentTimestampImprintSources : List Bytes
  documentTimestampRevisionEnds : List Nat
  dss : Dss
  notes : List String

def isDocTimestamp : Bool := f.subFilter == "ETSI.RFC3161"

def mainSigs : List PdfSignatureDictionary :=
  fields.filter (fun f => !isDocTimestamp f)

def docTimestamps : List PdfSignatureDictionary :=
  fields.filter isDocTimestamp

def detectProfile (hasDocTimestamp hasDss hasEmbeddedTs : Bool) : PadesProfile :=
  if hasDocTimestamp then .lta else if hasDss then .lt else if hasEmbeddedTs then .t else .b

def wellFormedNotes (qpdf : Qpdf) (pdf : Bytes) : List String :=
  match isValidPdf qpdf pdf with
  | .ok _ => []
  | .error e => ["qpdf: " ++ e]

/-- What `VerifyPdf` reports on a file with these fields, a main signature among
them. -/
def report : PadesVerificationResult :=
  let covered := coverageEnd pdf.length fields
  let coverage := classifyCoverage env.qpdf pdf covered
  let dss := parseDss env.qpdf pdf
  let main := mainPass env pdf dss.certificatesDer (mainSigs fields)
  let dts := docTimestamps fields
  let hasDocTimestamp := !dts.isEmpty
  { detectedProfile := detectProfile hasDocTimestamp dss.found main.hasEmbeddedTs
    signatureValid := main.allSigsValid
    byteRangeValid := main.byteRangeValid
    pdfWellFormed := (isValidPdf env.qpdf pdf).toOption.isSome
    timestampsValid := (main.hasEmbeddedTs || hasDocTimestamp) &&
      (!main.hasEmbeddedTs || main.embeddedTsValid) &&
      (!hasDocTimestamp || dts.all (dtsValid env pdf dss.certificatesDer))
    ltvValid := dss.found && !dss.certificatesDer.isEmpty
    documentSize := pdf.length
    signedCoverageEnd := covered
    unsignedTrailingBytes := pdf.length - covered
    coverageStatus := coverage.status
    coverageComplete := coverage.complete
    signatureCount := (mainSigs fields).length
    signerCertificateDer := main.signerCertificateDer
    signerCmsDer := main.signerCmsDer
    mainSignatures := main.mainSignatures
    signatureTimestampPresent := main.hasEmbeddedTs
    documentTimestampTokensDer := dts.map (cmsOf env)
    documentTimestampImprintSources := dts.map (fun f => extractSignedBytes pdf f.byteRange)
    documentTimestampRevisionEnds := dts.map (fun f =>
      if dtsRangeValid pdf.length f.byteRange then f.byteRange.revisionEnd else 0)
    dss
    notes := wellFormedNotes env.qpdf pdf ++ coverage.notes ++ main.notes ++
      dts.flatMap (fun f =>
        timestampNotes "DocTimeStamp: " (dtsVerdict env pdf dss.certificatesDer f)) }

def verifyPdf : Except String PadesVerificationResult := do
  let fields := extractSignatureFields env.qpdf pdf
  require (fields ≠ []) "Не знайдено полів підпису (AcroForm/Sig)"
  require (mainSigs fields ≠ [])
    "Не знайдено основного підпису (всі поля мають SubFilter ETSI.RFC3161)"
  return report env pdf fields

/-- The `is_valid` that `Session::VerifyPdf` returns. -/
def isValid (r : PadesVerificationResult) : Bool := r.signatureValid && r.coverageComplete

theorem verifyPdf_ok_iff {env : PadesEnv} {pdf : Bytes} {r : PadesVerificationResult} :
    verifyPdf env pdf = .ok r ↔
      mainSigs (extractSignatureFields env.qpdf pdf) ≠ [] ∧
        report env pdf (extractSignatureFields env.qpdf pdf) = r := by
  simp only [verifyPdf, bind_eq_ok, require_eq_ok]
  constructor
  · rintro ⟨-, -, -, hmain, hr⟩
    exact ⟨hmain, Except.ok.inj hr⟩
  · rintro ⟨hmain, hr⟩
    refine ⟨(), fun hnil => hmain ?_, (), hmain, congrArg Except.ok hr⟩
    rw [hnil]
    rfl

/-! ### What the passes compute -/

theorem foldl_mainStep (sigs : List PdfSignatureDictionary) (s : MainPass) :
    (sigs.foldl (mainStep env pdf dssCertificates) s).mainSignatures =
        s.mainSignatures ++ sigs.map (evidence env pdf dssCertificates) ∧
      (sigs.foldl (mainStep env pdf dssCertificates) s).allSigsValid =
        (s.allSigsValid &&
          sigs.all (fun f => (evidence env pdf dssCertificates f).signatureValid)) := by
  induction sigs generalizing s with
  | nil => exact ⟨(append_nil _).symm, (Bool.and_true _).symm⟩
  | cons f rest ih =>
    obtain ⟨hevidence, hvalid⟩ := ih (mainStep env pdf dssCertificates s f)
    rw [foldl_cons, hevidence, hvalid]
    exact ⟨append_assoc .., Bool.and_assoc ..⟩

theorem mainPass_spec (sigs : List PdfSignatureDictionary) :
    (mainPass env pdf dssCertificates sigs).mainSignatures =
        sigs.map (evidence env pdf dssCertificates) ∧
      (mainPass env pdf dssCertificates sigs).allSigsValid =
        sigs.all (fun f => (evidence env pdf dssCertificates f).signatureValid) := by
  obtain ⟨hevidence, hvalid⟩ := foldl_mainStep env pdf dssCertificates sigs {}
  exact ⟨hevidence, hvalid.trans (Bool.true_and _)⟩

/-- Both range tests accept exactly the proper ranges: if the second part lies inside
the file and after the first, so does the first. -/
theorem dtsRangeValid_iff {size : Nat} {br : ByteRange} :
    dtsRangeValid size br = true ↔ br.Proper size := by
  have hfits : br.second.fits size = true ↔ br.revisionEnd ≤ size := Span.fits_iff
  simp only [dtsRangeValid, Bool.and_eq_true, beq_iff_eq, decide_eq_true_eq, hfits]
  exact ⟨fun ⟨⟨hstart, hgap⟩, hinside⟩ => ⟨hstart, hgap, hinside⟩,
    fun ⟨hstart, hgap, hinside⟩ => ⟨⟨hstart, hgap⟩, hinside⟩⟩

theorem byteRangeValid_iff {size : Nat} {br : ByteRange} :
    byteRangeValid size br = true ↔ br.Proper size := by
  rw [← dtsRangeValid_iff, byteRangeValid, dtsRangeValid, Bool.and_eq_true_iff,
    Bool.and_eq_true_iff (x := br.first.fits size),
    Bool.and_eq_true_iff (y := br.second.fits size)]
  refine and_congr_right fun hstart => and_iff_right_of_imp fun hsecond => ?_
  obtain ⟨hfrom, hgap⟩ := Bool.and_eq_true_iff.mp hstart
  rw [beq_iff_eq] at hfrom
  rw [decide_eq_true_eq] at hgap
  rw [Span.fits_iff] at hsecond ⊢
  simp only [Span.finish, ByteRange.first, ByteRange.second] at hsecond ⊢
  omega

/-- The ends of the ranges that the first pass counts. -/
def countedEnds (size : Nat) (fields : List PdfSignatureDictionary) : List Nat :=
  (fields.filter (fun f => f.byteRange.second.fits size)).map (fun f => f.byteRange.revisionEnd)

theorem coverageStep_eq (size covered : Nat) (f : PdfSignatureDictionary) :
    coverageStep size covered f =
      if f.byteRange.second.fits size then max covered f.byteRange.revisionEnd else covered := by
  have hfits := @Span.fits_iff f.byteRange.second size
  simp only [Span.finish, ByteRange.second] at hfits
  rw [coverageStep]
  by_cases hinside : f.byteRange.second.fits size = true
  · have hle := hfits.mp hinside
    rw [if_pos hinside, if_neg (by omega), if_neg (by omega)]
    split <;> omega
  · have hle := mt hfits.mpr hinside
    split
    · rfl
    · rw [if_pos (by omega)]

theorem coverageEnd_eq (size : Nat) (fields : List PdfSignatureDictionary) :
    coverageEnd size fields = furthest (countedEnds size fields) := by
  have hloop : ∀ covered, fields.foldl (coverageStep size) covered =
      (countedEnds size fields).foldl max covered := by
    induction fields with
    | nil => exact fun _ => rfl
    | cons f rest ih =>
      intro covered
      rw [foldl_cons, ih, coverageStep_eq, countedEnds, countedEnds, filter_cons]
      split <;> rfl
  rw [coverageEnd, hloop, foldl_max_eq]
  exact Nat.zero_max _

/-! ### Whether failing fields count -/

/-- The check that `VerifyPdf` makes of a field by itself: range and CMS of a main
signature, range and token of a document timestamp. -/
def fieldVerified : Bool :=
  let dssCertificates := (parseDss env.qpdf pdf).certificatesDer
  if isDocTimestamp f then dtsValid env pdf dssCertificates f
  else (evidence env pdf dssCertificates f).signatureValid

/-- The same checks on a file of which qpdf reads other pages. -/
def reading (readPages : String → Bytes → Except String PdfPages) : PadesEnv :=
  { env with qpdf := { env.qpdf with readPages } }

def exampleSignature (subFilter : String) (o1 l1 o2 l2 : Int) (literal : Option Span) : PdfObject :=
  .dictionary [
    ("/SubFilter", .name subFilter),
    ("/ByteRange", .array [.integer o1, .integer l1, .integer o2, .integer l2]),
    ("/Contents", .string [0x30, 0x00] literal)]

/-- Every CMS is accepted, every timestamp token rejected, and the content stream of
the page is its file. -/
def examplePadesEnv (objects : List PdfObject) : PadesEnv where
  sizeOfSizeT := 8
  qpdf := {
    processMemoryFile := fun _ => .ok ()
    allObjects := fun _ => ⟨objects, false⟩
    dss := fun _ => {}
    readPages := fun _ file => .ok (onePage file []) }
  verifyDetached := fun _ _ => .ok ⟨true, [1], true, 1⟩
  hasSignatureTimestampToken := fun _ => .ok false
  extractSignatureTimestampToken := fun _ => .error ""
  getSignatureValue := fun _ => .error ""
  validateTimestampToken := fun _ _ _ => ⟨false, false, "imprint mismatch"⟩

def examplePdf : Bytes := [0, 1, 2, 3, 4, 5, 6, 7, 8, 9, 10, 11]

/-- `VerifyPdf` reports the field as a valid main signature. -/
def ReportedValid : Prop :=
  ∃ (r : PadesVerificationResult) (i : Nat) (e : PadesSignatureEvidence),
    verifyPdf env pdf = .ok r ∧
    (mainSigs (extractSignatureFields env.qpdf pdf))[i]? = some f ∧
    r.mainSignatures[i]? = some e ∧ e.signatureValid = true

/-- The bytes of the signed revision that the verified bytes leave open are those of
the field's own `/Contents` literal. -/
def GapIsContents : Prop :=
  ∃ literal, f.contentsLiteral = some literal ∧
    ∀ i, literal.Covers i ↔ i < f.byteRange.revisionEnd ∧ ¬Pinned pdf f.byteRange i

theorem reportedValid_iff {env : PadesEnv} {pdf : Bytes} {f : PdfSignatureDictionary} :
    ReportedValid env pdf f ↔
      f ∈ mainSigs (extractSignatureFields env.qpdf pdf) ∧ sigValid env pdf f = true ∧
        f.byteRange.Proper pdf.length := by
  have hevidence := (mainPass_spec env pdf (parseDss env.qpdf pdf).certificatesDer
    (mainSigs (extractSignatureFields env.qpdf pdf))).1
  have hverdict : ∀ dssCertificates,
      (evidence env pdf dssCertificates f).signatureValid = true ↔
        sigValid env pdf f = true ∧ f.byteRange.Proper pdf.length := fun dssCertificates => by
    rw [← byteRangeValid_iff]
    exact Bool.and_eq_true_iff
  constructor
  · rintro ⟨r, i, e, hr, hf, he, hvalid⟩
    obtain ⟨-, rfl⟩ := verifyPdf_ok_iff.mp hr
    have hentry := (congrArg (fun l => l[i]?) hevidence).symm.trans he
    rw [List.getElem?_map, hf] at hentry
    obtain rfl := Option.some.inj hentry
    exact ⟨mem_of_getElem? hf, (hverdict _).mp hvalid⟩
  · rintro ⟨hf, hvalid⟩
    obtain ⟨i, hi⟩ := mem_iff_getElem?.mp hf
    refine ⟨_, i, _, verifyPdf_ok_iff.mpr ⟨ne_nil_of_mem hf, rfl⟩, hi, ?_,
      (hverdict (parseDss env.qpdf pdf).certificatesDer).mpr hvalid⟩
    refine (congrArg (fun l => l[i]?) hevidence).trans ?_
    rw [List.getElem?_map, hi]
    rfl

theorem gapIsContents_iff {pdf : Bytes} {f : PdfSignatureDictionary}
    (h : f.byteRange.Proper pdf.length) :
    GapIsContents pdf f ↔ ∃ literal, f.contentsLiteral = some literal ∧
      literal.start = f.byteRange.length1 ∧ literal.finish = f.byteRange.offset2 := by
  refine exists_congr fun literal => and_congr_right fun _ => ?_
  simp only [not_pinned_iff h]
  constructor
  · exact Span.eq_of_covers_iff h.gap
  · rintro ⟨hstart, hfinish⟩ i
    rw [Span.Covers, hstart, hfinish]

/-- **A valid signature leaves out its `/Contents` literal exactly if its byte range was laid around
it**: the field is no main signature, or its range or its CMS is rejected, or the two parts end and
start where the literal starts and ends. -/
theorem gap_is_contents_iff (env : PadesEnv) (pdf : Bytes) (f : PdfSignatureDictionary) :
    (ReportedValid env pdf f → GapIsContents pdf f) ↔
      f ∉ mainSigs (extractSignatureFields env.qpdf pdf) ∨
        byteRangeValid pdf.length f.byteRange = false ∨ sigValid env pdf f = false ∨
        ∃ literal, f.contentsLiteral = some literal ∧
          literal.start = f.byteRange.length1 ∧ literal.finish = f.byteRange.offset2 := by
  rw [reportedValid_iff]
  constructor
  · intro h
    by_cases hmem : f ∈ mainSigs (extractSignatureFields env.qpdf pdf)
    · cases hrange : byteRangeValid pdf.length f.byteRange with
      | false => exact .inr (.inl rfl)
      | true =>
        have hproper := byteRangeValid_iff.mp hrange
        cases hsig : sigValid env pdf f with
        | false => exact .inr (.inr (.inl rfl))
        | true =>
          exact .inr (.inr (.inr ((gapIsContents_iff hproper).mp (h ⟨hmem, hsig, hproper⟩))))
    · exact .inl hmem
  · rintro h ⟨hmem, hsig, hproper⟩
    rcases h with hnot | hrange | hbad | hliteral
    · exact absurd hmem hnot
    · rw [byteRangeValid_iff.mpr hproper] at hrange
      cases hrange
    · rw [hsig] at hbad
      cases hbad
    · exact (gapIsContents_iff hproper).mpr hliteral

/-- A signature of the whole file whose byte range leaves out more than its
`/Contents`. -/
def wideGapField : PdfSignatureDictionary where
  byteRange := ⟨0, 2, 8, 4⟩
  signature := [0x30, 0x00]
  subFilter := "ETSI.CAdES.detached"
  contentsLiteral := some ⟨2, 2⟩

def wideGapEnv : PadesEnv :=
  examplePadesEnv [exampleSignature "/ETSI.CAdES.detached" 0 2 8 4 (some ⟨2, 2⟩)]

/-- The document is valid, and four bytes after the literal are under no signature. -/
theorem gap_wider_than_contents :
    (verifyPdf wideGapEnv examplePdf).toOption.map isValid = some true ∧
      ReportedValid wideGapEnv examplePdf wideGapField ∧
      ¬GapIsContents examplePdf wideGapField := by
  have hproper : wideGapField.byteRange.Proper examplePdf.length := by
    rw [← byteRangeValid_iff]
    decide
  refine ⟨by decide, reportedValid_iff.mpr ⟨by decide, by decide, hproper⟩, ?_⟩
  rw [gapIsContents_iff hproper]
  rintro ⟨literal, hliteral, -, hfinish⟩
  obtain rfl := Option.some.inj hliteral
  exact absurd hfinish (by decide)

end Tamga.Pades
