/-
Verifying XML documents and ASiC-E containers with XAdES signatures
(`Session::VerifyXml`, `Session::VerifyFileAsicEXades`).

Every signature found is judged by the engine, and the trust fields of the report are
aggregated over all of them; timestamps can only take trust away.

* `xadesEntry_good` — an entry is good exactly if the engine accepts its signer;
* `aggregated_accepts` — an aggregated report that can carry a positive decision
  speaks for every signer; `xmlReport_accepts` and `asicXadesReport_accepts` say the
  same of the two reports.
-/
import Tamga.AsicVerification
import Tamga.XadesVerifier

namespace Tamga.Session

open Util Zip Xml XmlDsig Xades Asic List

/-! ### What the verifier leaves -/

inductive XadesProfile where
  | bes
  | t
  | c
  | x
  | xL
  | a
  deriving DecidableEq, Repr

/-- The fields of `XadesVerificationResult` about timestamps, certificate and revocation
values, and the profile. -/
structure XadesEvidence where
  detectedProfile : XadesProfile := .bes
  formatProfile : String := "XAdES-BES"
  signatureTimestampPresent : Bool := false
  signatureTimestampChecked : Bool := false
  signatureTimestampValid : Bool := false
  tspChecked : Bool := false
  revocationValuesPresent : Bool := false
  ltvDataPresent : Bool := false
  ltvValid : Bool := false
  ltvEvidenceBound : Bool := false
  certificateValuesCount : Nat := 0
  revocationValuesCount : Nat := 0
  signatureTimestampTokenDer : Bytes := []
  signatureTimestampCanonicalizedData : Bytes := []
  certificateValuesDer : List Der := []
  revocationValuesOcspDer : List Der := []
  revocationValuesCrlDer : List Der := []

structure XadesSigner where
  result : XadesVerificationResult := {}
  evidence : XadesEvidence := {}

/-- The XML verifier, with the part of it that reads the unsigned properties: for the
document, the external references and the position of the signature. -/
structure XadesLib where
  xml : XmlEnv
  evidence : String → List (String × Bytes) → Nat → XadesEvidence

variable (X : XadesLib) (env : VerifyEnv) (E : Engines)

/-- `XadesVerifier::VerifyAll`. -/
def verifyAllSigners (signedXml : String) (external : List (String × Bytes)) :
    Except String (List XadesSigner) := do
  let set ← Xades.verifyAll X.xml signedXml external
  .ok (set.signatures.zipIdx.map fun (result, i) =>
    ⟨result, X.evidence signedXml external (i + 1)⟩)

variable (s : XadesSigner)

def XadesSigner.signatureValid : Bool := s.result.signatureValid

def XadesSigner.certificateDer : Der :=
  s.result.signingCertificate.signerCertificateDer

def xadesFormatSigner (signatureValid : Bool) : FormatSigner where
  certificateDer := s.certificateDer
  evidence := ⟨s.evidence.certificateValuesDer, s.evidence.revocationValuesOcspDer,
    s.evidence.revocationValuesCrlDer⟩
  signatureValid := signatureValid

/-! ### One signature -/

section Entry

variable (e : SignatureEntry)

def applyPerSignerTrustValidation : SignatureEntry :=
  let temp := runFormatTrustValidationOn env E (xadesFormatSigner s e.signatureValid) {}
  { e with
    certificateTimeValid := temp.certificateTimeValid
    validationTimeSource := temp.validationTimeSource
    chainChecked := temp.chainChecked
    chainValid := temp.chainValid
    trustChecked := temp.trustChecked
    trustValid := temp.trustValid
    trustStatus := temp.trustStatus
    trustMode := temp.trustMode
    trustReason := temp.trustReason
    historicalTrustUsed := temp.historicalTrustUsed
    historicalAnchorSubject := temp.historicalAnchorSubject
    historicalAnchorSerial := temp.historicalAnchorSerial
    revocationChecked := temp.revocationChecked
    ocspChecked := temp.ocspChecked
    revocationStatus := temp.revocationStatus
    errorCode := temp.errorCode
    message := temp.message }

/-- The end of `ApplyXadesTimestampPolicyValidation`, once the token was judged. -/
def applyXadesTimestampVerdict (verdict : CanonicalVerdict) (r : VerifyReport) : VerifyReport :=
  let r := applyTimestampDetailsVerdict { r with
    tspChecked := true
    timestampChecked := true
    timestampDetails := r.timestampDetails ++ [verdict.detail] }
  let r := { r with
    ltvValid := s.signatureValid && s.evidence.ltvDataPresent && verdict.valid }
  if verdict.valid then r
  else
    let r := appendXadesTimestampMessage verdict.reason r
    if r.timestampStatus = "timestamp-invalid" then applyTimestampFailureToTrust r else r

def applyXadesTimestampPolicyValidation (r : VerifyReport) : VerifyReport :=
  let x := s.evidence
  if x.signatureTimestampPresent = false then { r with ltvValid := false }
  else
    let r := applyFormatTimestampVerdict
      { r with timestampChecked := true, tspChecked := x.tspChecked } x.signatureTimestampValid false
    let r := { r with
      ltvValid := s.signatureValid && x.ltvDataPresent && x.signatureTimestampValid }
    if x.signatureTimestampTokenDer = [] ∨ x.signatureTimestampCanonicalizedData = [] then
      appendXadesTimestampMessage "missing token or canonicalized SignatureValue evidence" { r with
        timestampValid := false
        timestampStatus := "timestamp-invalid"
        ltvValid := false }
    else
      match tryCanonicalTimestampVerdict env E x.signatureTimestampTokenDer
          x.signatureTimestampCanonicalizedData s.result.signingTime
          ⟨x.certificateValuesDer, x.revocationValuesOcspDer, x.revocationValuesCrlDer⟩ with
      | none => r
      | some verdict => applyXadesTimestampVerdict s verdict r

def applyPerSignerXadesTimestampValidation : SignatureEntry :=
  if s.evidence.signatureTimestampPresent = false then e
  else
    let r := applyXadesTimestampPolicyValidation env E s {}
    let details :=
      if r.timestampDetails = [] then
        [{ status := r.timestampStatus, reasonCode := "TIMESTAMP_EVIDENCE_MISSING" }]
      else r.timestampDetails
    { e with
      timestampChecked := r.timestampChecked
      timestampValid := r.timestampValid
      timestampStatus := r.timestampStatus
      timestampDetails := details.map fun d => { d with signatureIndex := e.index } }

def xadesFormatEntry (index : Nat) (profile : String) (s : XadesSigner) : SignatureEntry :=
  let e : SignatureEntry :=
    { index := index
      signatureValid := s.signatureValid
      signerCertificatePresent := s.certificateDer ≠ []
      qualifyingPropertiesPresent := s.result.qualifyingPropertiesPresent
      signingCertificateDigestValid := s.result.signingCertificate.digestValid
      formatProfile := profile
      timestampChecked := s.evidence.signatureTimestampChecked
      ltvValid := s.evidence.ltvValid
      ltvEvidenceBound := s.evidence.ltvEvidenceBound }
  if s.evidence.signatureTimestampChecked then
    applyEntryTimestampVerdict e s.evidence.signatureTimestampValid
  else e

def validateEvidence : SignatureEntry :=
  { e with
    ltvEvidenceValidated :=
      e.ltvEvidenceBound && e.trustValid && revocationConfirmed e.revocationStatus }

def xadesEntry (index : Nat) (profile : String) (s : XadesSigner) : SignatureEntry :=
  validateEvidence (applyPerSignerXadesTimestampValidation env E s
    (applyPerSignerTrustValidation env E s (xadesFormatEntry index profile s)))

end Entry

/-! ### The report -/

/-- The signature whose format fields are reported: the first that is not valid, else
the first. -/
def representativeSigner (signers : List XadesSigner) : XadesSigner :=
  ((signers.find? fun s => !s.signatureValid).or signers.head?).getD {}

def xadesFormatReport (profile : String) (rep : XadesSigner) (allValid : Bool) : VerifyReport :=
  let r : VerifyReport :=
    { hasResult := true
      executionSucceeded := true
      signatureValid := allValid
      signatureFormat := "XAdES"
      formatProfile := profile
      signerCertificatePresent := rep.certificateDer ≠ []
      qualifyingPropertiesPresent := rep.result.qualifyingPropertiesPresent
      timestampChecked := rep.evidence.signatureTimestampChecked
      tspChecked := rep.evidence.tspChecked
      ltvValid := rep.evidence.ltvValid
      ltvEvidenceBound := rep.evidence.ltvEvidenceBound
      revocationEvidencePresent := rep.evidence.revocationValuesPresent
      policy := "xades-format" }
  if rep.evidence.signatureTimestampChecked then
    applyFormatTimestampVerdict r rep.evidence.signatureTimestampValid false
  else r

def confirmProfile (profile : String) (confirmed : Bool) (r : VerifyReport) : VerifyReport :=
  { r with
    validatedProfile := if confirmed then profile else ""
    ltvEvidenceValidated := confirmed }

/-- The evidence of the representative is bound, and the report confirms it. -/
def evidenceConfirmed (rep : XadesSigner) (r : VerifyReport) : Bool :=
  rep.evidence.ltvEvidenceBound && r.trustValid && revocationConfirmed r.revocationStatus

def xadesProfileName : XadesProfile → String
  | .bes => "XAdES-BES"
  | .t => "XAdES-T"
  | .c => "XAdES-C"
  | .x => "XAdES-X"
  | .xL => "XAdES-X-L"
  | .a => "XAdES-A"

def sessionXadesProfileName : String :=
  let profile :=
    if s.evidence.formatProfile = "" then xadesProfileName s.evidence.detectedProfile
    else s.evidence.formatProfile
  if profile = "XAdES-B-T" then "XAdES-T" else profile

/-- The format fields that `VerifyXml` sets again after the aggregation. -/
def restoreXmlFormat (profile : String) (rep : XadesSigner) (r : VerifyReport) : VerifyReport :=
  let full := r.timestampStatus == "timestamp-valid"
  let r :=
    { r with
      signatureFormat := "XAdES"
      formatProfile := profile
      timestampChecked := rep.evidence.signatureTimestampChecked
      tspChecked := rep.evidence.tspChecked
      ltvValid := rep.evidence.ltvValid
      ltvEvidenceBound := rep.evidence.ltvEvidenceBound }
  if rep.evidence.signatureTimestampChecked then
    applyFormatTimestampVerdict r rep.evidence.signatureTimestampValid full
  else r

def xadesEntries (profile : XadesSigner → String) (signers : List XadesSigner) :
    List SignatureEntry :=
  signers.zipIdx.map fun (s, i) => xadesEntry env E (i + 1) (profile s) s

def xmlReport (signers : List XadesSigner) : VerifyReport :=
  let rep := representativeSigner signers
  let profile := sessionXadesProfileName rep
  let aggregated := applyPerSignerTrustAggregation
    { xadesFormatReport profile rep (signers.all XadesSigner.signatureValid) with
      operation := "VerifyXml"
      signatures := xadesEntries env E sessionXadesProfileName signers }
  confirmProfile profile (evidenceConfirmed rep aggregated)
    (aggregatePerSignerTimestamps (restoreXmlFormat profile rep aggregated))

/-- `Session::VerifyXml`; a call that fails publishes no report. -/
def verifyXml (signedXml : String) : Except String VerifyCall := do
  require (env.initialized = true) "Session is not initialized"
  let signers ← verifyAllSigners X signedXml []
  .ok ⟨true, signers.all XadesSigner.signatureValid, xmlReport env E signers⟩

/-! ### Containers with XAdES signatures -/

def referenceDiagnostics (ref : XmlReferenceVerificationDetail) : String :=
  "uri='" ++ ref.uri ++ "' type='" ++ ref.type ++ "' digestMethod='" ++ ref.digestMethod ++
    "' status=" ++ ref.status.text ++ " expectedBase64='" ++ ref.expectedBase64 ++
    "' expectedHex='" ++ ref.expectedHex ++ "' computedBase64='" ++ ref.computedBase64 ++
    "' computedHex='" ++ ref.computedHex ++ "'" ++
    (if ref.error = "" then "" else " error='" ++ ref.error ++ "'")

def buildXadesXmlDiagnostics : String :=
  let xml := s.result.xmlSignature
  let x := s.evidence
  "XMLDSig diagnostics: digestValid=" ++ boolText xml.digestValid ++
  "; signatureValid=" ++ boolText xml.signatureValid ++
  "; signatureValue=" ++ (if xml.signatureValueValid then "ok" else "failed") ++
  (if xml.signatureValueError = "" then "" else " error='" ++ xml.signatureValueError ++ "'") ++
  "; xadesProfile=" ++ x.formatProfile ++
  "; signatureTimeStampPresent=" ++ boolText x.signatureTimestampPresent ++
  "; timestampChecked=" ++ boolText x.signatureTimestampChecked ++
  "; timestampValid=" ++ boolText x.signatureTimestampValid ++
  "; tspChecked=" ++ boolText x.tspChecked ++
  "; certificateValues=" ++ toString x.certificateValuesCount ++
  "; revocationValues=" ++ toString x.revocationValuesCount ++
  "; ltvValid=" ++ boolText x.ltvValid ++
  "; signedInfoLen=" ++ toString xml.signedInfoCanonicalizedLength ++
  "; signedInfoHashHex=" ++ xml.signedInfoHashHex ++
  "; signedInfoHashBase64=" ++ xml.signedInfoHashBase64 ++
  "; signedPropertiesLen=" ++ toString xml.signedProperties.canonicalizedLength ++
  "; signedPropertiesHashHex=" ++ xml.signedProperties.hashHex ++
  "; signedPropertiesHashBase64=" ++ xml.signedProperties.hashBase64 ++
  "; references=[" ++ "; ".intercalate (xml.referenceDetails.map referenceDiagnostics) ++ "]"

def normalizeCoverageUri (uri : String) : String :=
  match normalizeAsicEntryUri uri with
  | .ok out => out
  | .error _ => uri

def detectedContainerType (zip : Archive) : String :=
  match getMimetype zip with
  | none => "ASiC-E"
  | some mimetype =>
    if containsText (bytesText mimetype) "asic-s" then "ASiC-S" else "ASiC-E"

/-- The data objects under their normalized names. -/
def externalReferences (entries : List AsicFileEntry) : List (String × Bytes) :=
  (documents entries).map fun e => (normalizeCoverageUri e.name, e.data)

def verifyAllDocuments (X : XadesLib) (external : List (String × Bytes)) :
    List String → Except String (List XadesSigner)
  | [] => .ok []
  | xml :: rest => do
    let signers ← verifyAllSigners X xml external
    let later ← verifyAllDocuments X external rest
    .ok (signers ++ later)

def coveredUris : List String :=
  (s.result.xmlSignature.referenceDetails.filter fun d => isExternalUri d.uri).map
    fun d => normalizeCoverageUri d.uri

/-- The data objects that no signature covers, in the order of the map. -/
def uncoveredObjects (external : List (String × Bytes)) (signers : List XadesSigner) :
    List String :=
  ((external.map Prod.fst).mergeSort fun a b => decide (a ≤ b)).filter fun key =>
    key ∉ signers.flatMap coveredUris

def containerProfile : String :=
  if s.evidence.formatProfile = "" then "XAdES" else s.evidence.formatProfile

def containerFormatReport (containerType : String) (uncovered : List String)
    (signers : List XadesSigner) : VerifyReport :=
  let rep := representativeSigner signers
  let complete := uncovered.isEmpty
  { xadesFormatReport (containerProfile rep) rep (signers.all XadesSigner.signatureValid) with
    containerType := containerType
    containerCoverageComplete := complete
    coverageStatus := if complete then "complete" else "container-object-not-signed"
    operation := "VerifyFileAsicEXades"
    message := buildXadesXmlDiagnostics rep ++
      "; signaturesTotal=" ++ toString signers.length ++
      "; signaturesValid=" ++ toString (signers.countP XadesSigner.signatureValid) ++
      "; containerCoverageComplete=" ++
      (if complete then "true" else "false; uncovered=[" ++ ",".intercalate uncovered ++ "]")
    signatures := xadesEntries env E containerProfile signers }

/-- The format fields that are set again after the aggregation. -/
def restoreContainerFormat (containerType profile : String) (r : VerifyReport) : VerifyReport :=
  { r with
    containerType := containerType
    signatureFormat := "XAdES"
    formatProfile := profile }

def asicXadesReport (containerType : String) (uncovered : List String) (signers : List XadesSigner) :
    VerifyReport :=
  let rep := representativeSigner signers
  let profile := containerProfile rep
  let aggregated := applyPerSignerTrustAggregation
    (containerFormatReport env E containerType uncovered signers)
  confirmProfile profile (evidenceConfirmed rep aggregated)
    (aggregatePerSignerTimestamps (restoreContainerFormat containerType profile aggregated))

/-- The part of `VerifyFileAsicEXades` after the entries were read. -/
def verifyXadesEntries (zip : Archive) (entries : List AsicFileEntry) : VerifyCall :=
  let report := setVerifyReport "VerifyFileAsicEXades"
  let external := externalReferences entries
  let signatureXmls := (entries.filter fun e => isXadesSignature e.name).map
    fun e => bytesText e.data
  match indexNames normalizeCoverageUri (documents entries) [] with
  | .error e => ⟨true, false, { report true false .invalidArgument e with containerMalformed := true }⟩
  | .ok _ =>
    if signatureXmls = [] ∨ external = [] then
      ⟨true, false, report true false .invalidArgument
        (if signatureXmls = [] then "ASiC-E XAdES signature entry not found"
          else "ASiC-E document entry not found")⟩
    else
      match verifyAllDocuments X external signatureXmls with
      | .error e => ⟨false, false, report false false .invalidArgument e⟩
      | .ok signers =>
        let uncovered := uncoveredObjects external signers
        ⟨true, signers.all XadesSigner.signatureValid && uncovered.isEmpty,
          asicXadesReport env E (detectedContainerType zip) uncovered signers⟩

/-- `Session::VerifyFileAsicEXades` on the octets of the file. -/
def verifyFileAsicEXades (container : Container) : VerifyCall :=
  let report := setVerifyReport "VerifyFileAsicEXades"
  if env.initialized = false then
    ⟨false, false, report false false .notInitialized "Session is not initialized"⟩
  else match loadFromBuffer container with
  | .error e => ⟨false, false, report false false .invalidArgument e⟩
  | .ok zip =>
    match getFiles zip with
    | .error e => ⟨false, false, report false false .invalidArgument e⟩
    | .ok entries => verifyXadesEntries X env E zip entries

/-! ### The entries and the report of a container -/

section Made

variable {env E s} {containerType : String} {uncovered : List String} {signers : List XadesSigner}

theorem xadesFormatEntry_details (index : Nat) (profile : String) (s : XadesSigner) :
    (xadesFormatEntry index profile s).timestampDetails = [] := by
  simp only [xadesFormatEntry]
  split <;> rfl

variable (e : SignatureEntry) (profile : String)

theorem validation_details : (applyPerSignerXadesTimestampValidation env E s e).timestampDetails =
      if s.evidence.signatureTimestampPresent = false then e.timestampDetails
      else (if (applyXadesTimestampPolicyValidation env E s {}).timestampDetails = [] then
          [{ status := (applyXadesTimestampPolicyValidation env E s {}).timestampStatus
             reasonCode := "TIMESTAMP_EVIDENCE_MISSING" }]
        else (applyXadesTimestampPolicyValidation env E s {}).timestampDetails).map
          fun d => { d with signatureIndex := e.index } := by
  rw [applyPerSignerXadesTimestampValidation]
  split <;> rfl

theorem validateEvidence_details : (validateEvidence e).timestampDetails = e.timestampDetails := rfl

theorem applyPerSignerTrustValidation_details :
    (applyPerSignerTrustValidation env E s e).timestampDetails = e.timestampDetails := rfl

theorem xadesEntry_details_absent {index : Nat} {profile : String}
    (habsent : s.evidence.signatureTimestampPresent = false) :
    (xadesEntry env E index profile s).timestampDetails = [] := by
  rw [xadesEntry, validateEvidence_details, validation_details, if_pos habsent,
    applyPerSignerTrustValidation_details, xadesFormatEntry_details]

theorem xadesEntry_details_present {index : Nat} {profile : String}
    (hpresent : s.evidence.signatureTimestampPresent = true) :
    (xadesEntry env E index profile s).timestampDetails ≠ [] := by
  rw [xadesEntry, validateEvidence_details, validation_details,
    if_neg (by rw [hpresent]; decide), Ne, map_eq_nil_iff]
  split
  · exact cons_ne_nil _ _
  · assumption

theorem xadesFormatReport_core (rep : XadesSigner) (allValid : Bool) :
    (xadesFormatReport profile rep allValid).core =
      ({ hasResult := true, executionSucceeded := true, signatureValid := allValid } :
        VerifyReport).core := by
  simp only [xadesFormatReport]
  split
  · rw [applyFormatTimestampVerdict_core]
    rfl
  · rfl

theorem xadesFormatReport_status (rep : XadesSigner) (allValid : Bool) :
    (xadesFormatReport profile rep allValid).timestampStatus = "timestamp-invalid" ↔
      rep.evidence.signatureTimestampChecked = true ∧
        rep.evidence.signatureTimestampValid = false := by
  simp only [xadesFormatReport]
  cases rep.evidence.signatureTimestampChecked <;>
    cases rep.evidence.signatureTimestampValid <;> simp [applyFormatTimestampVerdict]

theorem mem_xadesEntries {profile : XadesSigner → String} {e : SignatureEntry}
    (h : e ∈ xadesEntries env E profile signers) :
    ∃ index, ∃ s ∈ signers, e = xadesEntry env E index (profile s) s := by
  obtain ⟨⟨s, i⟩, hi, rfl⟩ := mem_map.mp h
  exact ⟨i + 1, s, mem_of_getElem? (mem_zipIdx_iff_getElem?.mp hi), rfl⟩

theorem xadesEntry_mem (profile : XadesSigner → String) (h : s ∈ signers) :
    ∃ index, xadesEntry env E index (profile s) s ∈ xadesEntries env E profile signers := by
  obtain ⟨i, hi, rfl⟩ := mem_iff_getElem.mp h
  refine ⟨i + 1, mem_map.mpr ⟨(signers[i], i), ?_, rfl⟩⟩
  exact mem_zipIdx_iff_getElem?.mpr (List.getElem?_eq_getElem hi)

theorem xadesEntries_ne_nil (profile : XadesSigner → String) (h : signers ≠ []) :
    xadesEntries env E profile signers ≠ [] := by
  obtain ⟨s, rest, hs⟩ := exists_cons_of_ne_nil h
  obtain ⟨index, hmem⟩ := @xadesEntry_mem env E s signers profile (by rw [hs]; exact mem_cons_self)
  exact ne_nil_of_mem hmem

theorem absent_of_no_details {profile : XadesSigner → String}
    (h : (xadesEntries env E profile signers).flatMap SignatureEntry.timestampDetails = []) :
    ∀ s ∈ signers, s.evidence.signatureTimestampPresent = false := by
  intro s hs
  by_contra hpresent
  obtain ⟨index, hmem⟩ := @xadesEntry_mem env E s signers profile hs
  exact xadesEntry_details_present (Bool.of_not_eq_false hpresent)
    (flatMap_eq_nil_iff.mp h _ hmem)

theorem containerFormatReport_core :
    (containerFormatReport env E containerType uncovered signers).core =
      ({ hasResult := true
         executionSucceeded := true
         signatureValid := signers.all XadesSigner.signatureValid } : VerifyReport).core :=
  xadesFormatReport_core _ _ _

theorem containerFormatReport_status :
    (containerFormatReport env E containerType uncovered signers).timestampStatus =
        "timestamp-invalid" ↔
      (representativeSigner signers).evidence.signatureTimestampChecked = true ∧
        (representativeSigner signers).evidence.signatureTimestampValid = false :=
  xadesFormatReport_status _ _ _

theorem restoreContainerFormat_core (containerType profile : String) (r : VerifyReport) :
    (restoreContainerFormat containerType profile r).core = r.core := rfl

theorem restoreContainerFormat_signatures (containerType profile : String) (r : VerifyReport) :
    (restoreContainerFormat containerType profile r).signatures = r.signatures := rfl

theorem restoreContainerFormat_status (containerType profile : String) (r : VerifyReport) :
    (restoreContainerFormat containerType profile r).timestampStatus = r.timestampStatus := rfl

theorem confirmProfile_timestamps (confirmed : Bool) (r : VerifyReport) :
    (confirmProfile profile confirmed r).timestampDetails = r.timestampDetails ∧
      (confirmProfile profile confirmed r).timestampStatus = r.timestampStatus := ⟨rfl, rfl⟩

theorem asicXadesReport_details :
    (asicXadesReport env E containerType uncovered signers).timestampDetails =
      (xadesEntries env E containerProfile signers).flatMap SignatureEntry.timestampDetails := by
  simp only [asicXadesReport]
  rw [(confirmProfile_timestamps _ _ _).1, (aggregatePerSignerTimestamps_timestamps _).1,
    restoreContainerFormat_signatures, (aggregation_keeps _).1]
  rfl

theorem asicXadesReport_status
    (h : (xadesEntries env E containerProfile signers).flatMap SignatureEntry.timestampDetails = []) :
    (asicXadesReport env E containerType uncovered signers).timestampStatus =
      (containerFormatReport env E containerType uncovered signers).timestampStatus := by
  simp only [asicXadesReport]
  rw [(confirmProfile_timestamps _ _ _).2, (aggregatePerSignerTimestamps_timestamps _).2,
    restoreContainerFormat_status, (aggregation_keeps _).2.1]
  rw [restoreContainerFormat_signatures, (aggregation_keeps _).1]
  exact h

theorem asicXadesReport_signatureValid :
    (asicXadesReport env E containerType uncovered signers).signatureValid =
      signers.all XadesSigner.signatureValid := by
  show (aggregatePerSignerTimestamps _).signatureValid = _
  rw [aggregatePerSignerTimestamps_signatureValid]
  show (applyPerSignerTrustAggregation _).signatureValid = _
  rw [(aggregation_keeps _).2.2]
  exact congrArg ReportCore.signatureValid
    (@containerFormatReport_core env E containerType uncovered signers)

theorem nonempty_of_base
    (h : policyBaseValid (asicXadesReport env E containerType uncovered signers) = true) :
    signers ≠ [] := by
  rintro rfl
  have hbase := policyBaseValid_of_timestamps (show policyBaseValid (aggregatePerSignerTimestamps _) =
    true from h)
  rw [policyBaseValid_of_core (restoreContainerFormat_core _ _ _)] at hbase
  have hcore : (applyPerSignerTrustAggregation
      (containerFormatReport env E containerType uncovered [])).core =
      (containerFormatReport env E containerType uncovered []).core := rfl
  cases hbase

end Made

/-! ### A positive decision speaks for every signer -/

section Good

variable {env E}

variable (env E) in
def AcceptsXades : Prop :=
  s.certificateDer ≠ [] ∧
    acceptsSigner (E.validate (formatContext env (xadesFormatSigner s s.signatureValid))
      s.certificateDer s.evidence.certificateValuesDer) = true

theorem xadesFormatEntry_signatureValid (index : Nat) (profile : String) (s : XadesSigner) :
    (xadesFormatEntry index profile s).signatureValid = s.signatureValid := by
  simp only [xadesFormatEntry]
  split <;> rfl

theorem applyPerSignerTrustValidation_good (e : SignatureEntry) :
    (applyPerSignerTrustValidation env E s e).good ↔
      (runFormatTrustValidationOn env E (xadesFormatSigner s e.signatureValid) {}).good :=
  Iff.rfl

theorem applyPerSignerXadesTimestampValidation_good (e : SignatureEntry) :
    (applyPerSignerXadesTimestampValidation env E s e).good ↔ e.good := by
  rw [applyPerSignerXadesTimestampValidation]
  split <;> exact Iff.rfl

theorem xadesEntry_good (index : Nat) (profile : String) (s : XadesSigner) :
    (xadesEntry env E index profile s).good ↔ AcceptsXades env E s := by
  show (applyPerSignerXadesTimestampValidation env E s _).good ↔ _
  rw [applyPerSignerXadesTimestampValidation_good, applyPerSignerTrustValidation_good,
    runFormatTrustValidationOn_good, xadesFormatEntry_signatureValid]
  exact Iff.rfl

theorem restoreXmlFormat_core (profile : String) (rep : XadesSigner) (r : VerifyReport) :
    (restoreXmlFormat profile rep r).core = r.core := by
  simp only [restoreXmlFormat]
  split
  · exact applyFormatTimestampVerdict_core _ _ _
  · rfl

theorem aggregated_accepts {r : VerifyReport} {profile : XadesSigner → String}
    {signers : List XadesSigner} (hentries : r.signatures = xadesEntries env E profile signers)
    (h : policyBaseValid (applyPerSignerTrustAggregation r) = true) :
    ∀ s ∈ signers, AcceptsXades env E s := by
  intro s hs
  obtain ⟨index, hmem⟩ := @xadesEntry_mem env E s signers profile hs
  rw [← hentries] at hmem
  rw [applyPerSignerTrustAggregation] at h
  split at h
  next hnone =>
    -- no representative: there are no entries
    rw [representative, Option.or_eq_none_iff, Option.or_eq_none_iff, List.head?_eq_none_iff] at hnone
    rw [hnone.2.2] at hmem
    cases hmem
  next rep hrep => exact (xadesEntry_good index (profile s) s).mp (aggregated_good hrep h _ hmem)

theorem xmlReport_accepts {signers : List XadesSigner}
    (h : policyBaseValid (xmlReport env E signers) = true) :
    ∀ s ∈ signers, AcceptsXades env E s := by
  have hbase := policyBaseValid_of_timestamps (show policyBaseValid (aggregatePerSignerTimestamps _) =
    true from h)
  rw [policyBaseValid_of_core (restoreXmlFormat_core _ _ _)] at hbase
  exact aggregated_accepts rfl hbase

theorem asicXadesReport_accepts {containerType : String} {uncovered : List String}
    {signers : List XadesSigner}
    (h : policyBaseValid (asicXadesReport env E containerType uncovered signers) = true) :
    ∀ s ∈ signers, AcceptsXades env E s := by
  have hbase := policyBaseValid_of_timestamps (show policyBaseValid (aggregatePerSignerTimestamps _) =
    true from h)
  exact aggregated_accepts rfl hbase

end Good

end Tamga.Session
