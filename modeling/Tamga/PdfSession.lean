/-
Verifying a PDF (`Session::VerifyPdf`): the report that is made of what the PAdES
verifier found.

The validation engine is asked about the signer of every main signature, but the
trust fields of the report are those of the first; the others appear in the list of
signatures.  The timestamps of all signatures and of the document are collected.

* `pdfReport_core` — the trust fields of the report are those of the first signer.
-/
import Tamga.CmsVerification
import Tamga.PadesVerifier

namespace Tamga.Session

open Pades List

/-- `profile_name`. -/
def padesProfileName : PadesProfile → String
  | .b => "PAdES-B"
  | .t => "PAdES-T"
  | .lt => "PAdES-LT"
  | .lta => "PAdES-LTA"

variable (result : PadesVerificationResult)

def pdfDiagnostics : String :=
  "PAdES diagnostics: pdfWellFormed=" ++ boolText result.pdfWellFormed ++
  "; byteRangeValid=" ++ boolText result.byteRangeValid ++
  "; signatureCount=" ++ toString result.signatureCount ++
  "; profile=" ++ padesProfileName result.detectedProfile ++
  "; timestampsValid=" ++ boolText result.timestampsValid ++
  "; ltvStructural=" ++ boolText result.ltvValid ++
  "; dssCerts=" ++ toString result.dss.certificatesDer.length ++
  "; dssOcsp=" ++ toString result.dss.ocspResponsesDer.length ++
  "; dssCrls=" ++ toString result.dss.crlsDer.length ++
  "; containerCoverageComplete=" ++ boolText result.coverageComplete ++
  "; coverageStatus=" ++ result.coverageStatus ++
  "; signedCoverageEnd=" ++ toString result.signedCoverageEnd ++
  "; documentSize=" ++ toString result.documentSize ++
  String.join (result.notes.map fun note => "; " ++ note)

def pdfFormatReport : VerifyReport :=
  let r : VerifyReport :=
    { hasResult := true
      executionSucceeded := true
      signatureValid := result.signatureValid
      signatureFormat := "PAdES"
      formatProfile := padesProfileName result.detectedProfile
      signerCertificatePresent := result.signatureCount > 0 }
  let r := if result.detectedProfile = .b then r
    else applyFormatTimestampVerdict { r with timestampChecked := true } result.timestampsValid false
  { r with
    ltvValid := result.ltvValid
    ltvEvidenceBound := result.ltvValid
    containerCoverageComplete := result.coverageComplete
    coverageStatus := result.coverageStatus
    operation := "VerifyPdf"
    policy := "pades-format"
    message := pdfDiagnostics result }

def pdfSigner (evidence : PadesSignatureEvidence) : FormatSigner where
  certificateDer := evidence.signerCertificateDer
  cmsDer := evidence.cmsDer
  evidence := ⟨result.dss.certificatesDer, result.dss.ocspResponsesDer, result.dss.crlsDer⟩
  signatureValid := evidence.signatureValid

/-- The entry for a timestamp on which the engine did not report. -/
def missingTimestamp : TimestampEntry where
  status := "timestamp-partial"
  reasonCode := "timestamp-validation-unavailable"
  limitations := ["Канонічний рушій не повернув результат мітки CMS"]

def signatureTimestampDetails (index : Nat) (evidence : PadesSignatureEvidence)
    (details : List TimestampEntry) : List TimestampEntry :=
  (if details = [] then [missingTimestamp] else details).map fun d =>
    { d with
      signatureIndex := index
      kind := "signature"
      signedRevisionEnd := evidence.signedRevisionEnd }

/-- `signer_report` of the signature with the given index. -/
def pdfSignerReport (env : VerifyEnv) (E : Engines) (result : PadesVerificationResult)
    (index : Nat) (evidence : PadesSignatureEvidence) : VerifyReport :=
  let r := runFormatTrustValidationOn env E (pdfSigner result evidence) {}
  if evidence.signatureTimestampPresent then
    { r with timestampDetails := signatureTimestampDetails index evidence r.timestampDetails }
  else r

def pdfSignatureEntry (index : Nat)
    (evidence : PadesSignatureEvidence) (r : VerifyReport) : SignatureEntry where
  index := index
  signatureValid := evidence.signatureValid
  signerCertificatePresent := evidence.signerCertificateDer ≠ []
  formatProfile := padesProfileName result.detectedProfile
  timestampChecked := r.timestampChecked
  timestampValid := r.timestampValid
  timestampStatus := r.timestampStatus
  timestampDetails := r.timestampDetails
  ltvValid := result.ltvValid
  ltvEvidenceBound := result.ltvValid
  ltvEvidenceValidated :=
    result.ltvValid && r.trustValid && revocationConfirmed r.revocationStatus
  certificateTimeValid := r.certificateTimeValid
  validationTimeSource := r.validationTimeSource
  chainChecked := r.chainChecked
  chainValid := r.chainValid
  trustChecked := r.trustChecked
  trustValid := r.trustValid
  trustStatus := r.trustStatus
  trustMode := r.trustMode
  trustReason := r.trustReason
  historicalTrustUsed := r.historicalTrustUsed
  historicalAnchorSubject := r.historicalAnchorSubject
  historicalAnchorSerial := r.historicalAnchorSerial
  revocationChecked := r.revocationChecked
  ocspChecked := r.ocspChecked
  revocationStatus := r.revocationStatus
  errorCode := r.errorCode
  message := r.message

section Report

variable (env : VerifyEnv) (E : Engines) (result : PadesVerificationResult)

def pdfSignerReports : List (Nat × PadesSignatureEvidence × VerifyReport) :=
  result.mainSignatures.zipIdx.map fun (evidence, i) =>
    (i + 1, evidence, pdfSignerReport env E result (i + 1) evidence)

/-- The report that the loop over the main signatures leaves: that of the first
signer. -/
def firstSignerReport : List (Nat × PadesSignatureEvidence × VerifyReport) → VerifyReport
  | [] => pdfFormatReport result
  | (_, _, first) :: _ =>
    { first with
      message :=
        if pdfDiagnostics result = "" then first.message
        else pdfDiagnostics result ++ "; " ++ first.message }

variable (reports : List (Nat × PadesSignatureEvidence × VerifyReport))

def addSignatures
    (r : VerifyReport) : VerifyReport :=
  { r with
    timestampDetails := reports.flatMap fun (_, evidence, r) =>
      if evidence.signatureTimestampPresent then r.timestampDetails else []
    signatures := reports.map fun (index, evidence, r) => pdfSignatureEntry result index evidence r
    hasResult := true
    executionSucceeded := true
    signatureValid := result.signatureValid
    operation := "VerifyPdf" }

def pdfSignersReport : VerifyReport :=
  addSignatures result (pdfSignerReports env E result)
    (firstSignerReport result (pdfSignerReports env E result))

def documentVerdict (i : Nat) (token : Bytes) : Option CanonicalVerdict :=
  tryCanonicalTimestampVerdict env E token (result.documentTimestampImprintSources.getD i []) ""
    ⟨result.dss.certificatesDer, result.dss.ocspResponsesDer, result.dss.crlsDer⟩

def documentDetail (i : Nat) (token : Bytes) : TimestampEntry :=
  let revisionEnd := result.documentTimestampRevisionEnds.getD i 0
  let detail : TimestampEntry :=
    match documentVerdict env E result i token with
    | some verdict => verdict.detail
    | none =>
      { status := "timestamp-partial"
        reasonCode := "timestamp-validation-unavailable"
        limitations := ["Відсутній придатний токен або джерело imprint DocTimeStamp"] }
  let detail :=
    { detail with
      kind := "document"
      signatureIndex := result.mainSignatures.length + i + 1
      signedRevisionEnd := revisionEnd }
  if revisionEnd = 0 then
    { detail with
      valid := false
      cryptoValid := false
      status := "timestamp-invalid"
      reasonCode := "timestamp-byte-range-invalid" }
  else detail

def documentFull (i : Nat) (token : Bytes) : Bool :=
  (documentVerdict env E result i token).any (·.valid) &&
    result.documentTimestampRevisionEnds.getD i 0 != 0

/-- The reason of the first document timestamp that did not pass and has one. -/
def documentReason : String :=
  ((result.documentTimestampTokensDer.zipIdx.filter fun (token, i) =>
      !documentFull env E result i token).findSome? fun (token, i) =>
    (documentVerdict env E result i token).bind fun verdict =>
      if verdict.reason = "" then none else some verdict.reason).getD ""

def canonicalTimestampFull : Bool :=
  let signatures := (pdfSignerReports env E result).all fun (_, evidence, r) =>
    !evidence.signatureTimestampPresent || r.timestampStatus == "timestamp-valid"
  let documents := result.documentTimestampTokensDer.zipIdx.all fun (token, i) =>
    documentFull env E result i token
  (result.signatureTimestampPresent || !result.documentTimestampTokensDer.isEmpty) &&
    (!result.signatureTimestampPresent || signatures) &&
    (result.documentTimestampTokensDer.isEmpty || documents)

def documentDetails : List TimestampEntry :=
  result.documentTimestampTokensDer.zipIdx.map fun (token, i) => documentDetail env E result i token

def addDocumentTimestamps (r : VerifyReport) : VerifyReport :=
  let reason := documentReason env E result
  { r with
    timestampDetails := r.timestampDetails ++ documentDetails env E result
    message :=
      if canonicalTimestampFull env E result = false ∧ reason ≠ "" then
        (if r.message = "" then "" else r.message ++ "; ") ++ "PAdES document timestamp: " ++ reason
      else r.message
    signatureFormat := "PAdES"
    formatProfile := padesProfileName result.detectedProfile }

/-- `ApplyPadesTimestampVerdict`, from the profile PAdES-T on. -/
def applyPadesTimestampVerdict (r : VerifyReport) : VerifyReport :=
  if result.detectedProfile = .b then r
  else applyFormatTimestampVerdict { r with timestampChecked := true, tspChecked := true }
    result.timestampsValid (canonicalTimestampFull env E result)

def restoreFormat (r : VerifyReport) : VerifyReport :=
  { r with
    ltvValid := result.ltvValid
    ltvEvidenceBound := result.ltvValid
    containerCoverageComplete := result.coverageComplete
    coverageStatus := result.coverageStatus
    ltvEvidenceValidated :=
      result.ltvValid && r.trustValid && revocationConfirmed r.revocationStatus }

def pdfReport : VerifyReport :=
  restoreFormat result (applyPadesTimestampVerdict env E result
    (addDocumentTimestamps env E result (pdfSignersReport env E result)))

/-- `Session::VerifyPdf`; a call that fails publishes no report. -/
def verifyPdfSession (P : PadesEnv) (env : VerifyEnv) (E : Engines) (pdf : Bytes) :
    Except String VerifyCall := do
  require (env.initialized = true) "Session is not initialized"
  let result ← verifyPdf P pdf
  .ok ⟨true, isValid result, pdfReport env E result⟩

/-! ### The trust fields -/

variable (r : VerifyReport)

theorem addDocumentTimestamps_core : (addDocumentTimestamps env E result r).core = r.core := rfl

theorem applyPadesTimestampVerdict_core :
    (applyPadesTimestampVerdict env E result r).core = r.core := by
  rw [applyPadesTimestampVerdict]
  split
  · rfl
  · exact applyFormatTimestampVerdict_core _ _ _

theorem restoreFormat_core : (restoreFormat result r).core = r.core := rfl

theorem pdfSignerReport_core (index : Nat) (evidence : PadesSignatureEvidence) :
    (pdfSignerReport env E result index evidence).core =
      (runFormatTrustValidationOn env E (pdfSigner result evidence) {}).core := by
  simp only [pdfSignerReport]
  split <;> rfl

def ReportCore.processed (core : ReportCore) (signatureValid : Bool) : ReportCore :=
  { core with
    hasResult := true
    executionSucceeded := true
    signatureValid := signatureValid }

theorem addSignatures_core :
    (addSignatures result reports r).core = r.core.processed result.signatureValid := rfl

theorem firstSignerReport_core (index : Nat) (evidence : PadesSignatureEvidence)
    (later : List (Nat × PadesSignatureEvidence × VerifyReport)) :
    (firstSignerReport result ((index, evidence, r) :: later)).core = r.core := by
  simp only [firstSignerReport, VerifyReport.core]

theorem pdfReport_core {first : PadesSignatureEvidence} {rest : List PadesSignatureEvidence}
    (h : result.mainSignatures = first :: rest) :
    (pdfReport env E result).core =
      (runFormatTrustValidationOn env E (pdfSigner result first) {}).core.processed
        result.signatureValid := by
  have hreports : ∃ later, pdfSignerReports env E result =
      (1, first, pdfSignerReport env E result 1 first) :: later := by
    rw [pdfSignerReports, h, zipIdx_cons, map_cons]
    exact ⟨_, rfl⟩
  obtain ⟨later, hreports⟩ := hreports
  rw [pdfReport, restoreFormat_core, applyPadesTimestampVerdict_core, addDocumentTimestamps_core,
    pdfSignersReport, addSignatures_core, hreports, firstSignerReport_core, pdfSignerReport_core]

/-! ### The timestamps -/

variable {env E result}

theorem timestamps_restored (r : VerifyReport) :
    (restoreFormat result (applyPadesTimestampVerdict env E result r)).timestampDetails =
        r.timestampDetails ∧
      (restoreFormat result (applyPadesTimestampVerdict env E result r)).timestampStatus =
        if result.detectedProfile = .b then r.timestampStatus
        else (applyFormatTimestampVerdict { r with timestampChecked := true, tspChecked := true }
          result.timestampsValid (canonicalTimestampFull env E result)).timestampStatus := by
  show (applyPadesTimestampVerdict env E result r).timestampDetails = _ ∧
    (applyPadesTimestampVerdict env E result r).timestampStatus = _
  rw [applyPadesTimestampVerdict]
  split
  · exact ⟨rfl, rfl⟩
  · exact ⟨applyFormatTimestampVerdict_details _ _ _, rfl⟩

theorem pdfReport_details : (pdfReport env E result).timestampDetails =
    ((pdfSignerReports env E result).flatMap fun (_, evidence, r) =>
      if evidence.signatureTimestampPresent then r.timestampDetails else []) ++
      documentDetails env E result := by
  rw [pdfReport, (timestamps_restored _).1]
  rfl

theorem mem_signature_details {evidence : PadesSignatureEvidence}
    (hmem : evidence ∈ result.mainSignatures)
    (hpresent : evidence.signatureTimestampPresent = true) :
    ∃ index, ∀ d ∈ (pdfSignerReport env E result index evidence).timestampDetails,
      d ∈ (pdfReport env E result).timestampDetails := by
  obtain ⟨i, hi, rfl⟩ := mem_iff_getElem.mp hmem
  refine ⟨i + 1, fun d hd => ?_⟩
  rw [pdfReport_details]
  refine mem_append_left _ (mem_flatMap.mpr ⟨(i + 1, result.mainSignatures[i],
    pdfSignerReport env E result (i + 1) result.mainSignatures[i]), ?_, ?_⟩)
  · refine mem_map.mpr ⟨(result.mainSignatures[i], i), ?_, rfl⟩
    exact mem_zipIdx_iff_getElem?.mpr (List.getElem?_eq_getElem hi)
  · dsimp only
    rw [if_pos hpresent]
    exact hd

theorem mem_pdfSignerReports {index : Nat} {evidence : PadesSignatureEvidence} {r : VerifyReport}
    (h : (index, evidence, r) ∈ pdfSignerReports env E result) :
    evidence ∈ result.mainSignatures ∧ r = pdfSignerReport env E result index evidence := by
  obtain ⟨⟨evidence', i⟩, hi, heq⟩ := mem_map.mp h
  obtain ⟨rfl, rfl, rfl⟩ := heq
  exact ⟨mem_of_getElem? (mem_zipIdx_iff_getElem?.mp hi), rfl⟩

theorem addSignatures_status
    (r : VerifyReport) : (addSignatures result reports r).timestampStatus = r.timestampStatus := rfl

theorem firstSignerReport_status (index : Nat) (evidence : PadesSignatureEvidence)
    (r : VerifyReport) (later : List (Nat × PadesSignatureEvidence × VerifyReport)) :
    (firstSignerReport result ((index, evidence, r) :: later)).timestampStatus =
      r.timestampStatus := by
  simp only [firstSignerReport]

theorem pdfSignerReport_status (index : Nat) (evidence : PadesSignatureEvidence) :
    (pdfSignerReport env E result index evidence).timestampStatus =
      (runFormatTrustValidationOn env E (pdfSigner result evidence) {}).timestampStatus := by
  simp only [pdfSignerReport]
  split <;> rfl

theorem pdfSignersReport_status {first : PadesSignatureEvidence}
    {rest : List PadesSignatureEvidence} (hmain : result.mainSignatures = first :: rest) :
    (pdfSignersReport env E result).timestampStatus =
      (runFormatTrustValidationOn env E (pdfSigner result first) {}).timestampStatus := by
  rw [pdfSignersReport, addSignatures_status, pdfSignerReports, hmain, zipIdx_cons,
    map_cons, firstSignerReport_status, pdfSignerReport_status]

theorem timestamps_of_profile (hprofile : result.detectedProfile ≠ .b)
    (h : TimestampsAccepted (pdfReport env E result)) :
    result.timestampsValid = true ∧
      ∀ d ∈ (pdfReport env E result).timestampDetails, d.status ≠ "timestamp-invalid" := by
  have hstatus := h.status
  rw [pdfReport, (timestamps_restored _).2, if_neg hprofile] at hstatus
  obtain ⟨hvalid, hdetails⟩ := of_format_verdict_status hstatus
  refine ⟨hvalid, fun d hd => hdetails d ?_⟩
  rw [pdfReport, (timestamps_restored _).1] at hd
  exact hd

theorem documentVerdict_eq_none {i : Nat} {token : Bytes}
    (h : token = [] ∨ result.documentTimestampImprintSources.getD i [] = []) :
    documentVerdict env E result i token = none :=
  if_pos h

theorem certificate_of_present {evidence : PadesSignatureEvidence}
    (hmem : evidence ∈ result.mainSignatures) (hpresent : evidence.signatureTimestampPresent = true)
    (h : TimestampsAccepted (pdfReport env E result)) : evidence.signerCertificateDer ≠ [] := by
  intro hnone
  obtain ⟨index, hdetails⟩ := @mem_signature_details env E result evidence hmem hpresent
  have hreport : (pdfSignerReport env E result index evidence).timestampDetails =
      signatureTimestampDetails index evidence [] := by
    simp only [pdfSignerReport, runFormatTrustValidationOn, pdfSigner, hnone, hpresent, if_true]
  rw [hreport] at hdetails
  have hbad := h.details _ (hdetails _ (mem_singleton_self _))
  rcases hbad with hbad | hbad <;> cases hbad

end Report

/-! ### Files that can be read -/

theorem verifyPdf_shape {P : PadesEnv} {pdf : Bytes} {result : PadesVerificationResult}
    (h : verifyPdf P pdf = .ok result) :
    (∃ first rest, result.mainSignatures = first :: rest) ∧
      (result.documentTimestampTokensDer ≠ [] → result.detectedProfile ≠ .b) := by
  obtain ⟨hmain, rfl⟩ := verifyPdf_ok_iff.mp h
  constructor
  · have hspec := (mainPass_spec P pdf (parseDss P.qpdf pdf).certificatesDer
      (mainSigs (extractSignatureFields P.qpdf pdf))).1
    refine exists_cons_of_ne_nil ?_
    show (mainPass _ _ _ _).mainSignatures ≠ []
    rw [hspec]
    simpa using hmain
  · intro htokens
    have hdts : (docTimestamps (extractSignatureFields P.qpdf pdf)).isEmpty = false := by
      simpa [report] using htokens
    simp [report, hdts, detectProfile]

theorem verifyPdfSession_of_ok {P : PadesEnv} {env : VerifyEnv} {E : Engines} {pdf : Bytes}
    {result : PadesVerificationResult} (hinit : env.initialized = true)
    (h : verifyPdf P pdf = .ok result) :
    verifyPdfSession P env E pdf = .ok ⟨true, isValid result, pdfReport env E result⟩ := by
  simp only [verifyPdfSession, bind_eq_ok, require_eq_ok]
  exact ⟨(), hinit, result, h, rfl⟩

end Tamga.Session
