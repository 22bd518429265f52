/-
The report of a verification, and what is concluded from it (`core/Session.h`,
`ValidationReportProjection.cpp`, `VerifyReportCommit.cpp`, `VerifySummary.cpp`,
`VerifyChecks.cpp`).

Every format fills the same `VerifyReport`: the verdict of the validation engine on
a signer is projected into it, timestamps are added, and the policy decision and the
summary are computed from its fields alone.

* `policyDecision_valid_iff` — the fields on which a positive decision rests;
* `projectVerifyReport_good` — when the projection of an engine report carries a
  trusted signer with a confirmed revocation status.
-/
import Tamga.ValidationEngine

namespace Tamga.Session

open Policy Validation List

/-! ### The report -/

inductive ErrorCode where
  | none
  | notInitialized
  | settingsRequired
  | keyNotLoaded
  | invalidArgument
  | internalError
  | notSupported
  | guiNotAvailable
  | trustValidationFailed
  | revocationCheckFailed
  | onlineServiceUnavailable
  | timestampValidationFailed
  | policyValidationFailed
  deriving DecidableEq, Repr

structure TimestampEntry where
  signatureIndex : Nat := 0
  kind : String := "signature"
  signedRevisionEnd : Nat := 0
  status : String := "timestamp-not-validated"
  valid : Bool := false
  policyAcceptable : Bool := false
  cryptoValid : Bool := false
  genTimeValid : Bool := false
  certificateTimeValid : Bool := false
  ekuValid : Bool := false
  trustValid : Bool := false
  revocationChecked : Bool := false
  historicalTrustUsed : Bool := false
  ocspAttempted : Bool := false
  crlAttempted : Bool := false
  genTime : String := ""
  validationTime : String := ""
  reasonCode : String := ""
  trustSource : String := ""
  revocationStatus : String := "not-checked"
  because : List String := []
  warnings : List String := []
  limitations : List String := []
  evidenceIds : List String := []
  deriving DecidableEq, Repr

structure SignatureEntry where
  index : Nat := 0
  signatureValid : Bool := false
  signerCertificatePresent : Bool := false
  qualifyingPropertiesPresent : Bool := false
  signingCertificateDigestValid : Bool := false
  formatProfile : String := ""
  timestampChecked : Bool := false
  timestampValid : Bool := false
  timestampStatus : String := "timestamp-not-validated"
  timestampDetails : List TimestampEntry := []
  ltvValid : Bool := false
  ltvEvidenceBound : Bool := false
  ltvEvidenceValidated : Bool := false
  certificateTimeValid : Bool := false
  validationTimeSource : String := "unknown"
  chainChecked : Bool := false
  chainValid : Bool := false
  trustChecked : Bool := false
  trustValid : Bool := false
  trustStatus : String := "not-implemented"
  trustMode : String := "strict"
  trustReason : String := "not-evaluated"
  historicalTrustUsed : Bool := false
  historicalAnchorSubject : String := ""
  historicalAnchorSerial : String := ""
  revocationChecked : Bool := false
  ocspChecked : Bool := false
  revocationStatus : String := "not-checked"
  errorCode : ErrorCode := .none
  message : String := ""
  deriving DecidableEq, Repr

structure VerifyReport where
  hasResult : Bool := false
  executionSucceeded : Bool := false
  signatureValid : Bool := false
  trustValid : Bool := false
  trustChecked : Bool := false
  revocationChecked : Bool := false
  ocspChecked : Bool := false
  revocationEvidencePresent : Bool := false
  tspChecked : Bool := false
  timestampChecked : Bool := false
  timestampValid : Bool := false
  timestampStatus : String := "timestamp-not-validated"
  timestampDetails : List TimestampEntry := []
  signerCertificatePresent : Bool := false
  qualifyingPropertiesPresent : Bool := false
  certificateTimeValid : Bool := false
  validationTimeSource : String := "unknown"
  chainChecked : Bool := false
  chainValid : Bool := false
  trustListChecked : Bool := false
  cmsSignerCount : Nat := 0
  cmsVerifiedSignerCount : Nat := 0
  operation : String := ""
  policy : String := "crypto-integrity-only"
  containerType : String := "unknown"
  signatureFormat : String := "CMS"
  formatProfile : String := ""
  validatedProfile : String := ""
  ltvValid : Bool := false
  ltvEvidenceBound : Bool := false
  ltvEvidenceValidated : Bool := false
  containerCoverageComplete : Bool := true
  coverageStatus : String := "not-applicable"
  containerMalformed : Bool := false
  signatures : List SignatureEntry := []
  trustStatus : String := "not-implemented"
  trustMode : String := "strict"
  trustReason : String := "not-evaluated"
  historicalTrustUsed : Bool := false
  historicalAnchorSubject : String := ""
  historicalAnchorSerial : String := ""
  revocationStatus : String := "not-checked"
  trustListSource : String := "https://czo.gov.ua/download/tl/TL-UA-EC.xml"
  trustListCacheStatus : String := "not-checked"
  errorCode : ErrorCode := .none
  message : String := ""
  deriving DecidableEq, Repr

/-- The two texts that stand for a confirmed status. -/
def revocationConfirmed (status : String) : Bool := status == "valid" || status == "good"

/-! ### The summary and the policy decision -/

def trustFailureErrorCode (trustStatus : String) : ErrorCode :=
  if trustStatus = "certificate-revoked" ∨ trustStatus = "revocation-check-invalid" ∨
      trustStatus = "ocsp-response-invalid" then .revocationCheckFailed
  else if trustStatus = "ocsp-responder-unavailable" ∨ trustStatus = "tsp-responder-unavailable" then
    .onlineServiceUnavailable
  else if trustStatus = "timestamp-invalid" then .timestampValidationFailed
  else .trustValidationFailed

/-- A status that says that an online service did not answer. -/
def serviceUnavailable (trustStatus : String) : Bool :=
  trustStatus == "ocsp-responder-unavailable" || trustStatus == "tsp-responder-unavailable"

/-- The part of `ComputeVerifySummary` for a chain that is not trusted. -/
def untrustedSummary (trustStatus : String) : String :=
  if trustStatus = "certificate-revoked" then "integrity-but-revoked"
  else if trustStatus = "certificate-time-invalid" ∨
      trustStatus = "certificate-chain-time-invalid" then "integrity-but-certificate-expired"
  else if trustStatus = "certificate-chain-incomplete" ∨ trustStatus = "certificate-chain-cycle" ∨
      trustStatus = "signer-certificate-missing" ∨
      trustStatus = "legacy-anchor-not-in-current-tl" then "integrity-but-chain-incomplete"
  else if trustStatus = "trust-store-empty" ∨ trustStatus = "no-trust-store-configured" then
    "integrity-without-trust-store"
  else if trustStatus = "revocation-check-invalid" ∨ trustStatus = "ocsp-response-invalid" then
    "integrity-but-revocation-check-invalid"
  else "integrity-but-untrusted-chain"

variable (r : VerifyReport)

/-- The part of `ComputeVerifySummary` for a signature that is valid and covers its
container. -/
def intactSummary : String :=
  if r.trustChecked ∧ r.trustValid ∧ r.revocationChecked ∧
      r.revocationStatus = "temporarily-unavailable" then "integrity-but-revocation-unknown"
  else if serviceUnavailable r.trustStatus then "integrity-but-online-service-unavailable"
  else if r.trustStatus = "timestamp-not-fully-validated" ∨
      r.timestampStatus = "timestamp-partial" then "integrity-but-timestamp-not-fully-validated"
  else if r.timestampChecked ∧ r.timestampValid = false ∧
      (r.trustStatus = "timestamp-invalid" ∨ r.timestampStatus = "timestamp-invalid") then
    "integrity-but-timestamp-invalid"
  else if r.trustChecked ∧ r.trustValid ∧ r.revocationChecked ∧ r.revocationStatus = "unknown" then
    "integrity-but-revocation-unknown"
  else if r.trustChecked ∧ r.trustValid ∧ r.revocationChecked ∧
      revocationConfirmed r.revocationStatus ∧ r.timestampChecked ∧ r.timestampValid then
    "integrity-trust-revocation-and-timestamp"
  else if r.trustChecked = false then "integrity-only"
  else if r.trustValid = false then untrustedSummary r.trustStatus
  else if r.revocationChecked ∧ revocationConfirmed r.revocationStatus then
    "integrity-trust-and-revocation"
  else "integrity-and-trust"

def computeVerifySummary : String :=
  if r.hasResult = false then "not-executed"
  else if r.executionSucceeded = false then "execution-failed"
  else if r.containerMalformed then "container-malformed"
  else if r.signatureValid = false then "integrity-failed"
  else if r.containerCoverageComplete = false then "content-not-fully-signed"
  else intactSummary r

structure VerifyPolicyDecision where
  valid : Bool := false
  level : String := "integrity-only"
  summary : String
  deriving DecidableEq, Repr

/-- What a positive decision asks apart from the timestamps. -/
def policyBaseValid : Bool :=
  r.hasResult && r.executionSucceeded && r.signatureValid && r.trustChecked && r.trustValid &&
    r.revocationChecked && revocationConfirmed r.revocationStatus

def computeVerifyPolicyDecision : VerifyPolicyDecision :=
  if policyBaseValid r = false ∨ r.trustStatus = "timestamp-invalid" ∨
      r.timestampStatus = "timestamp-invalid" then
    { summary := computeVerifySummary r }
  else if r.timestampDetails.any fun d => !d.valid && !d.policyAcceptable then
    { summary := "integrity-but-timestamp-not-fully-validated" }
  else if r.trustStatus = "timestamp-not-fully-validated" then
    { summary := "integrity-but-timestamp-not-fully-validated" }
  else if serviceUnavailable r.trustStatus then { summary := computeVerifySummary r }
  else if r.timestampChecked ∧ r.timestampValid then ⟨true, "cades-t", computeVerifySummary r⟩
  else ⟨true, "bes", computeVerifySummary r⟩

/-- A bad timestamp takes the trust away. -/
def applyTimestampFailureToTrust : VerifyReport :=
  if r.trustValid = false then r
  else { r with
    trustValid := false
    trustStatus := "timestamp-invalid"
    errorCode := .timestampValidationFailed }

/-! ### The checks -/

structure VerifyCheck where
  status : String
  code : String
  deriving DecidableEq, Repr

/-- A revocation status that is no answer. -/
def revocationOpen (revocationStatus : String) : Bool :=
  revocationStatus != "valid" && revocationStatus != "good" && revocationStatus != "revoked" &&
    revocationStatus != "invalid"

/-- A positive decision with a reservation. -/
def hasPolicyWarning : Bool :=
  r.historicalTrustUsed || r.timestampStatus == "timestamp-partial" ||
    r.trustStatus == "timestamp-not-fully-validated" || serviceUnavailable r.trustStatus ||
    (r.revocationChecked && revocationOpen r.revocationStatus)

def firstPolicyWarningCode : String :=
  if r.historicalTrustUsed then "HISTORICAL_TRUST_USED"
  else if r.trustStatus = "timestamp-not-fully-validated" ∨
      r.timestampStatus = "timestamp-partial" then "TIMESTAMP_NOT_FULLY_VALIDATED"
  else if serviceUnavailable r.trustStatus then "ONLINE_SERVICE_UNAVAILABLE"
  else "REVOCATION_STATUS_UNKNOWN"

/-- The array `warnings` that `WritePolicySection` publishes. -/
def policyWarnings : List String :=
  (if r.historicalTrustUsed then ["HISTORICAL_TRUST_USED"] else []) ++
  (if r.trustStatus = "timestamp-not-fully-validated" ∨ r.timestampStatus = "timestamp-partial" then
    ["TIMESTAMP_NOT_FULLY_VALIDATED"] else []) ++
  (if serviceUnavailable r.trustStatus then ["ONLINE_SERVICE_UNAVAILABLE"] else []) ++
  (if r.revocationChecked ∧ revocationOpen r.revocationStatus then ["REVOCATION_STATUS_UNKNOWN"]
    else [])

/-- The end of `SummaryCheck`, for a decision that is not positive. -/
def refusedCheck : VerifyCheck :=
  if r.revocationStatus = "revoked" ∨ r.trustStatus = "certificate-revoked" then
    ⟨"invalid", "CERTIFICATE_REVOKED"⟩
  else if r.trustStatus = "certificate-time-invalid" ∨
      r.trustStatus = "certificate-chain-time-invalid" then
    ⟨"invalid", "CERTIFICATE_INVALID_AT_VALIDATION_TIME"⟩
  else if r.trustStatus = "revocation-check-invalid" ∨ r.trustStatus = "ocsp-response-invalid" then
    ⟨"invalid", "REVOCATION_INVALID"⟩
  else if r.trustStatus = "timestamp-invalid" ∨ r.timestampStatus = "timestamp-invalid" then
    ⟨"invalid", "TIMESTAMP_INVALID"⟩
  else ⟨"warning", "SIGNATURE_INTEGRITY_ONLY"⟩

def summaryCheck : VerifyCheck :=
  if r.hasResult = false then ⟨"skipped", "NOT_EXECUTED"⟩
  else if r.executionSucceeded = false then ⟨"invalid", "VERIFICATION_EXECUTION_FAILED"⟩
  else if r.containerMalformed then ⟨"invalid", "CONTAINER_MALFORMED"⟩
  else if r.signatureValid = false then ⟨"invalid", "SIGNATURE_INVALID"⟩
  else if r.containerCoverageComplete = false then ⟨"invalid", "CONTAINER_COVERAGE_INCOMPLETE"⟩
  else if (computeVerifyPolicyDecision r).valid then
    if hasPolicyWarning r then ⟨"warning", "SIGNATURE_VALID_WITH_WARNINGS"⟩
    else ⟨"valid", "SIGNATURE_VALID"⟩
  else refusedCheck r

def policyCheck : VerifyCheck :=
  if (computeVerifyPolicyDecision r).valid then
    if hasPolicyWarning r then ⟨"warning", firstPolicyWarningCode r⟩ else ⟨"valid", "POLICY_VALID"⟩
  else if r.hasResult then ⟨"invalid", "POLICY_INVALID"⟩
  else ⟨"skipped", "POLICY_NOT_EVALUATED"⟩

/-- No timestamp stands against a positive decision. -/
structure TimestampsAccepted : Prop where
  status : r.timestampStatus ≠ "timestamp-invalid"
  details : ∀ d ∈ r.timestampDetails, d.valid = true ∨ d.policyAcceptable = true

/-- The statuses that leave a decision positive. -/
structure TrustStatusAccepted (status : String) : Prop where
  timestamp : status ≠ "timestamp-invalid"
  validated : status ≠ "timestamp-not-fully-validated"
  service : serviceUnavailable status = false

theorem policyDecision_valid_iff : (computeVerifyPolicyDecision r).valid = true ↔
      policyBaseValid r = true ∧ TrustStatusAccepted r.trustStatus ∧ TimestampsAccepted r := by
  rw [computeVerifyPolicyDecision]
  by_cases h₁ : policyBaseValid r = false ∨ r.trustStatus = "timestamp-invalid" ∨
      r.timestampStatus = "timestamp-invalid"
  · rw [if_pos h₁]
    refine iff_of_false (by simp) ?_
    rintro ⟨hbase, hstatus, htime⟩
    rcases h₁ with h | h | h
    · rw [hbase] at h
      cases h
    · exact hstatus.timestamp h
    · exact htime.status h
  rw [if_neg h₁]
  obtain ⟨hbase, h₁⟩ := not_or.mp h₁
  obtain ⟨htrust, htime⟩ := not_or.mp h₁
  rw [Bool.not_eq_false] at hbase
  by_cases h₂ : (r.timestampDetails.any fun d => !d.valid && !d.policyAcceptable) = true
  · rw [if_pos h₂]
    refine iff_of_false (by simp) fun h => ?_
    obtain ⟨d, hd, hbad⟩ := any_eq_true.mp h₂
    rw [Bool.and_eq_true, Bool.not_eq_true', Bool.not_eq_true'] at hbad
    rcases h.2.2.details d hd with hv | hv
    · rw [hv] at hbad
      cases hbad.1
    · rw [hv] at hbad
      cases hbad.2
  have hdetails : ∀ d ∈ r.timestampDetails, d.valid = true ∨ d.policyAcceptable = true := by
    intro d hd
    by_contra hbad
    rw [not_or, Bool.not_eq_true, Bool.not_eq_true] at hbad
    exact h₂ (any_eq_true.mpr ⟨d, hd, by rw [hbad.1, hbad.2]; rfl⟩)
  rw [if_neg h₂]
  by_cases h₃ : r.trustStatus = "timestamp-not-fully-validated"
  · rw [if_pos h₃]
    exact iff_of_false (by simp) fun h => h.2.1.validated h₃
  rw [if_neg h₃]
  by_cases h₄ : serviceUnavailable r.trustStatus = true
  · rw [if_pos h₄]
    refine iff_of_false (by simp) fun h => ?_
    rw [h.2.1.service] at h₄
    cases h₄
  rw [if_neg h₄]
  refine iff_of_true ?_ ⟨hbase, ⟨htrust, h₃, Bool.not_eq_true _ ▸ h₄⟩, htime, hdetails⟩
  split <;> rfl

/-! ### Timestamps in the report -/

/-- The verdict over all timestamps of the report. -/
def applyTimestampDetailsVerdict : VerifyReport :=
  if r.timestampDetails = [] then r
  else
    let anyInvalid := r.timestampDetails.any fun d => d.status == "timestamp-invalid"
    let valid := (r.timestampDetails.all fun d => d.valid && d.status == "timestamp-valid") &&
      !anyInvalid
    { r with
      timestampChecked := true
      tspChecked := true
      timestampValid := valid
      timestampStatus :=
        if anyInvalid then "timestamp-invalid"
        else if valid then "timestamp-valid"
        else "timestamp-partial" }

def applyFormatTimestampVerdict (cryptoValid canonicalFull : Bool) : VerifyReport :=
  if cryptoValid = false then
    { r with timestampValid := false, timestampStatus := "timestamp-invalid" }
  else if r.timestampDetails ≠ [] then applyTimestampDetailsVerdict r
  else if canonicalFull then
    { r with timestampValid := true, timestampStatus := "timestamp-valid" }
  else { r with timestampValid := false, timestampStatus := "timestamp-partial" }

def applyEntryTimestampVerdict (e : SignatureEntry) (cryptoValid : Bool) : SignatureEntry :=
  { e with
    timestampValid := false
    timestampStatus := if cryptoValid then "timestamp-partial" else "timestamp-invalid" }

/-- The fields on which a positive decision rests, apart from the timestamps. -/
structure ReportCore where
  hasResult : Bool
  executionSucceeded : Bool
  signatureValid : Bool
  trustChecked : Bool
  trustValid : Bool
  trustStatus : String
  revocationChecked : Bool
  revocationStatus : String

def VerifyReport.core : ReportCore where
  hasResult := r.hasResult
  executionSucceeded := r.executionSucceeded
  signatureValid := r.signatureValid
  trustChecked := r.trustChecked
  trustValid := r.trustValid
  trustStatus := r.trustStatus
  revocationChecked := r.revocationChecked
  revocationStatus := r.revocationStatus

section Core

variable (r : VerifyReport)

@[simp]
theorem applyTimestampDetailsVerdict_core : (applyTimestampDetailsVerdict r).core = r.core := by
  rw [applyTimestampDetailsVerdict]
  split <;> rfl

@[simp]
theorem applyFormatTimestampVerdict_core (cryptoValid canonicalFull : Bool) :
    (applyFormatTimestampVerdict r cryptoValid canonicalFull).core = r.core := by
  rw [applyFormatTimestampVerdict]
  split
  · rfl
  split
  · exact applyTimestampDetailsVerdict_core r
  · split <;> rfl

/-- A failed timestamp takes the trust away and leaves the rest as it is. -/
theorem applyTimestampFailureToTrust_signatureValid :
    (applyTimestampFailureToTrust r).signatureValid = r.signatureValid := by
  rw [applyTimestampFailureToTrust]
  split <;> rfl

end Core

theorem applyTimestampDetailsVerdict_details :
    (applyTimestampDetailsVerdict r).timestampDetails = r.timestampDetails := by
  rw [applyTimestampDetailsVerdict]
  split <;> rfl

theorem applyFormatTimestampVerdict_details (cryptoValid canonicalFull : Bool) :
    (applyFormatTimestampVerdict r cryptoValid canonicalFull).timestampDetails =
      r.timestampDetails := by
  rw [applyFormatTimestampVerdict]
  split
  · rfl
  split
  · exact applyTimestampDetailsVerdict_details r
  · split <;> rfl

/-- One invalid timestamp makes the status of the report invalid. -/
theorem applyTimestampDetailsVerdict_status {r : VerifyReport} :
    (applyTimestampDetailsVerdict r).timestampStatus = "timestamp-invalid" ↔
      (∃ d ∈ r.timestampDetails, d.status = "timestamp-invalid") ∨
        (r.timestampDetails = [] ∧ r.timestampStatus = "timestamp-invalid") := by
  rw [applyTimestampDetailsVerdict]
  by_cases hnil : r.timestampDetails = []
  · rw [if_pos hnil, hnil]
    simp
  rw [if_neg hnil]
  simp only [hnil, false_and, or_false]
  by_cases hany : (r.timestampDetails.any fun d => d.status == "timestamp-invalid") = true
  · simp only [hany, if_true, true_iff]
    simpa using any_eq_true.mp hany
  rw [Bool.not_eq_true] at hany
  simp only [hany]
  refine iff_of_false ?_ ?_
  · rw [if_neg (by decide)]
    split <;> simp
  · rintro ⟨d, hd, hstatus⟩
    rw [any_eq_true.mpr ⟨d, hd, by rw [hstatus]; rfl⟩] at hany
    cases hany

theorem of_format_verdict_status {r : VerifyReport} {cryptoValid full : Bool}
    (h : (applyFormatTimestampVerdict r cryptoValid full).timestampStatus ≠ "timestamp-invalid") :
    cryptoValid = true ∧ ∀ d ∈ r.timestampDetails, d.status ≠ "timestamp-invalid" := by
  rw [applyFormatTimestampVerdict] at h
  by_cases hvalid : cryptoValid = false
  · rw [if_pos hvalid] at h
    exact absurd rfl h
  refine ⟨Bool.of_not_eq_false hvalid, fun d hd hinvalid => ?_⟩
  rw [if_neg hvalid, if_pos (ne_nil_of_mem hd), Ne, applyTimestampDetailsVerdict_status] at h
  exact h (Or.inl ⟨d, hd, hinvalid⟩)

/-! ### The projection of an engine report -/

def canonicalRevocationStatusString : RevocationStatus → String
  | .good => "valid"
  | .revoked => "revoked"
  | .invalid => "invalid"
  | .responderUnavailable => "temporarily-unavailable"
  | .stale => "stale"
  | .notChecked => "not-checked"
  | .unknown => "unknown"

def canonicalValidationTimeSource (resolution : SigningTimeResolution) (present : Bool) : String :=
  if present = false then "unknown"
  else match resolution.source with
  | .rfc3161Timestamp => if resolution.trustedTime then "trustedTimestamp" else "signingTime"
  | .claimedSigningTime => "signingTime"
  | .verificationTimeFallback => "currentTime"
  | .unavailable => "currentTime"

def timestampStatusString : TimestampStatus → String
  | .valid => "timestamp-valid"
  | .missing => "timestamp-not-validated"
  | .notChecked => "timestamp-not-validated"
  | .invalidImprint => "timestamp-invalid"
  | .invalidSignature => "timestamp-invalid"
  | .unsupported => "timestamp-invalid"
  | .untrustedTsa => "timestamp-partial"
  | .tsaExpired => "timestamp-partial"

def isRefusedTsa (reasonCode : String) : Bool :=
  reasonCode == "TSA_REVOKED" || reasonCode == "TSA_EKU_INVALID" ||
    reasonCode == "TIMESTAMP_TIME_INVALID" || reasonCode == "TSA_CERTIFICATE_TIME_INVALID" ||
    reasonCode == "TSA_CHAIN_TIME_INVALID"

/-- `ProjectTimestampResult`, without the description of the TSA certificate. -/
def projectTimestampResult (result : TimestampEngineResult) : TimestampEntry where
  valid := result.valid
  policyAcceptable := result.policyAcceptable
  cryptoValid := result.cryptoValid
  genTimeValid := result.genTimeValid
  certificateTimeValid := result.certificateTimeValid
  ekuValid := result.ekuValid
  trustValid := result.trustValid
  revocationChecked := result.revocationChecked
  historicalTrustUsed := result.historicalTrustUsed
  ocspAttempted := result.ocspAttempted
  crlAttempted := result.crlAttempted
  genTime := result.genTime
  validationTime := result.validationTime
  reasonCode := result.reasonCode
  trustSource := result.trustSource
  revocationStatus := canonicalRevocationStatusString result.revocationStatus
  because := result.because
  warnings := result.warnings
  limitations := result.limitations
  evidenceIds := result.evidenceIds
  status :=
    if result.reasonCode = "TSA_CERTIFICATE_MISSING" then "timestamp-partial"
    else if isRefusedTsa result.reasonCode then "timestamp-invalid"
    else timestampStatusString result.status

variable (ve : ValidationReport)

def selectedPathTrusted : Bool :=
  ve.pathSelection.selectedIndex.isSome && ve.pathSelection.selectedResult.trusted

/-- The first part of `ProjectVerifyReport`: signer, chain, trust and the status of
the revocation. -/
def projectTrust (present : Bool) (ve : ValidationReport) : VerifyReport :=
  let selected := ve.pathSelection.selectedResult
  let usesHistorical := selectedPathTrusted ve && selected.usesHistoricalTrust
  { signatureValid := ve.decision.signatureValid
    signerCertificatePresent := present
    chainChecked := ve.pathSelection.selectedIndex.isSome
    chainValid := selectedPathTrusted ve
    certificateTimeValid :=
      ve.pathSelection.selectedIndex.isSome && selected.signerCertificateTimeValid
    validationTimeSource := canonicalValidationTimeSource ve.signingTimeResolution present
    trustChecked := true
    trustValid := ve.decision.trustValid
    revocationChecked := ve.signerRevocation.ocspAttempted || ve.signerRevocation.crlAttempted
    ocspChecked := ve.signerRevocation.ocspAttempted
    revocationStatus := canonicalRevocationStatusString ve.signerRevocation.revocationStatus
    historicalTrustUsed := usesHistorical
    trustMode := if usesHistorical then "historical" else "strict"
    historicalAnchorSubject :=
      if usesHistorical ∧ selected.signerIssuerCertificateDer ≠ [] then selected.trustAnchorSource
      else ""
    trustListChecked := ve.trustService.checked
    trustListCacheStatus := if ve.trustService.checked then "snapshot" else "not-checked"
    trustListSource :=
      if ve.trustService.checked ∧ ve.trustService.snapshotEvidenceId ≠ "" then
        ve.trustService.snapshotEvidenceId
      else "https://czo.gov.ua/download/tl/TL-UA-EC.xml"
    trustStatus := ve.decision.trustStatus
    trustReason := ve.decision.trustReason }

/-- A revocation that the engine did not accept defeats the trust; one after the
moment of the signature is only mentioned. -/
def projectRevocation (r : VerifyReport) : VerifyReport :=
  let revocation := ve.signerRevocation
  if revocation.overallStatus ≠ .valid ∧ revocation.revocationStatus = .invalid then
    { r with
      trustValid := false
      trustStatus := "revocation-check-invalid"
      errorCode := .revocationCheckFailed
      message := revocation.because.head?.getD r.message }
  else if revocation.overallStatus ≠ .valid ∧ revocation.revocationStatus = .revoked then
    { r with
      trustValid := false
      trustStatus := "certificate-revoked"
      errorCode := .revocationCheckFailed
      message := "Certificate is revoked by CRL policy." }
  else if revocation.revocationStatus = .revoked then
    { r with
      message := (revocation.warnings.head?.or revocation.because.head?).getD r.message }
  else r

def projectTimestamp (r : VerifyReport) : VerifyReport :=
  if ve.timestampAttempted then
    applyTimestampDetailsVerdict { r with
      timestampDetails := r.timestampDetails ++ [projectTimestampResult ve.timestamp]
      timestampChecked := true
      timestampValid := ve.timestamp.valid
      tspChecked := true
      timestampStatus := timestampStatusString ve.timestamp.status }
  else { r with timestampStatus := "timestamp-not-validated" }

def projectErrorCode (r : VerifyReport) : VerifyReport :=
  match ve.decision.overallStatus with
  | .valid => r
  | .integrityOnly => r
  | .indeterminate =>
    if ve.decision.trustValid = false ∧ r.errorCode = .none then
      { r with errorCode := trustFailureErrorCode r.trustStatus }
    else r
  | .invalid =>
    if r.revocationStatus = "revoked" then { r with errorCode := .revocationCheckFailed }
    else if r.errorCode = .none then { r with errorCode := .invalidArgument }
    else r

/-- `ProjectVerifyReport`; the evidence of a signer certificate is there if the engine
was given one. -/
def projectVerifyReport (present : Bool) (ve : ValidationReport) : VerifyReport :=
  projectErrorCode ve (projectTimestamp ve (projectRevocation ve (projectTrust present ve)))

/-- The fields that the engine decides replace those of the report. -/
def applyValidationEngineReport (present : Bool) (ve : ValidationReport) (r : VerifyReport) :
    VerifyReport :=
  let projected := projectVerifyReport present ve
  { r with
    signerCertificatePresent := projected.signerCertificatePresent
    certificateTimeValid := projected.certificateTimeValid
    validationTimeSource := projected.validationTimeSource
    chainChecked := projected.chainChecked
    chainValid := projected.chainValid
    trustChecked := projected.trustChecked
    trustValid := projected.trustValid
    trustStatus := projected.trustStatus
    trustReason := projected.trustReason
    trustMode := projected.trustMode
    historicalTrustUsed := projected.historicalTrustUsed
    historicalAnchorSubject := projected.historicalAnchorSubject
    historicalAnchorSerial := projected.historicalAnchorSerial
    trustListChecked := projected.trustListChecked
    trustListCacheStatus := projected.trustListCacheStatus
    trustListSource := projected.trustListSource
    revocationChecked := projected.revocationChecked
    ocspChecked := projected.ocspChecked
    revocationStatus := projected.revocationStatus
    timestampChecked := projected.timestampChecked
    timestampValid := projected.timestampValid
    tspChecked := projected.tspChecked
    timestampStatus := projected.timestampStatus
    timestampDetails := projected.timestampDetails
    errorCode := projected.errorCode
    message := if projected.message = "" then r.message else projected.message }

/-- The engine calls the signer trusted, and a check of its revocation found it
good. -/
def acceptsSigner : Bool :=
  ve.decision.trustValid &&
    (ve.signerRevocation.ocspAttempted || ve.signerRevocation.crlAttempted) &&
    ve.signerRevocation.revocationStatus == .good

/-- The fields of the report that speak for a signer. -/
def VerifyReport.good : Prop :=
  r.trustChecked = true ∧ r.trustValid = true ∧ r.revocationChecked = true ∧
    revocationConfirmed r.revocationStatus = true

theorem revocationConfirmed_canonical (status : RevocationStatus) :
    revocationConfirmed (canonicalRevocationStatusString status) = true ↔ status = .good := by
  cases status <;> decide

section Projection

variable (ve : ValidationReport) (r : VerifyReport)

theorem projectErrorCode_good : (projectErrorCode ve r).good ↔ r.good := by
  rw [projectErrorCode]
  repeat' split
  all_goals exact Iff.rfl

theorem good_of_core {r r' : VerifyReport} (h : r.core = r'.core) : r.good ↔ r'.good := by
  simp only [VerifyReport.core, ReportCore.mk.injEq] at h
  obtain ⟨-, -, -, h₁, h₂, -, h₃, h₄⟩ := h
  rw [VerifyReport.good, VerifyReport.good, h₁, h₂, h₃, h₄]

theorem projectTimestamp_good : (projectTimestamp ve r).good ↔ r.good := by
  refine good_of_core ?_
  rw [projectTimestamp]
  split
  · rw [applyTimestampDetailsVerdict_core]
    rfl
  · rfl

theorem projectRevocation_good (hstatus : r.revocationStatus =
      canonicalRevocationStatusString ve.signerRevocation.revocationStatus) :
    (projectRevocation ve r).good ↔ r.good := by
  have hrevocation : ∀ r' : VerifyReport, r'.revocationStatus = r.revocationStatus →
      ve.signerRevocation.revocationStatus ≠ .good → (r'.good ↔ r.good) := by
    intro r' heq hne
    refine iff_of_false ?_ ?_
    · rintro ⟨-, -, -, hconf⟩
      rw [heq, hstatus, revocationConfirmed_canonical] at hconf
      exact hne hconf
    · rintro ⟨-, -, -, hconf⟩
      rw [hstatus, revocationConfirmed_canonical] at hconf
      exact hne hconf
  simp only [projectRevocation]
  split
  next h => exact hrevocation _ rfl (by rw [h.2]; decide)
  next =>
    split
    next h => exact hrevocation _ rfl (by rw [h.2]; decide)
    next => split <;> exact Iff.rfl

theorem projectVerifyReport_good (present : Bool) :
    (projectVerifyReport present ve).good ↔ acceptsSigner ve = true := by
  rw [projectVerifyReport, projectErrorCode_good, projectTimestamp_good,
    projectRevocation_good _ _ rfl, acceptsSigner]
  simp only [VerifyReport.good, projectTrust, revocationConfirmed_canonical, Bool.and_eq_true,
    beq_iff_eq, true_and]
  exact and_assoc.symm

theorem applyValidationEngineReport_good (present : Bool) :
    (applyValidationEngineReport present ve r).good ↔ acceptsSigner ve = true :=
  projectVerifyReport_good ve present

end Projection

theorem policyBaseValid_of_core {r r' : VerifyReport} (h : r.core = r'.core) :
    policyBaseValid r = policyBaseValid r' := by
  simp only [VerifyReport.core, ReportCore.mk.injEq] at h
  obtain ⟨h₁, h₂, h₃, h₄, h₅, -, h₆, h₇⟩ := h
  rw [policyBaseValid, policyBaseValid, h₁, h₂, h₃, h₄, h₅, h₆, h₇]

theorem policyBaseValid_iff : policyBaseValid r = true ↔
      (r.hasResult = true ∧ r.executionSucceeded = true ∧ r.signatureValid = true) ∧ r.good := by
  simp only [policyBaseValid, VerifyReport.good, Bool.and_eq_true, and_assoc]

/-! ### Committing a report -/

def buildVerifyMessage (executionSucceeded signatureValid : Bool) (message : String) : String :=
  if message ≠ "" then message
  else if executionSucceeded && signatureValid then
    "Signature integrity verified. See policyDecision for the trust verdict."
  else if executionSucceeded then
    "Signature integrity check completed with a negative result."
  else ""

def boolText (b : Bool) : String := if b then "true" else "false"

def appendVerifyReportNote (label message : String) (r : VerifyReport) : VerifyReport :=
  if message = "" then r
  else { r with
    message := (if r.message = "" then "" else r.message ++ "; ") ++ label ++ message }

def appendContainerTimestampMessage : String → VerifyReport → VerifyReport :=
  appendVerifyReportNote "ASiC container timestamp: "

def appendXadesTimestampMessage : String → VerifyReport → VerifyReport :=
  appendVerifyReportNote "XAdES timestamp policy: "

@[simp]
theorem appendVerifyReportNote_core (label message : String) (r : VerifyReport) :
    (appendVerifyReportNote label message r).core = r.core := by
  rw [appendVerifyReportNote]
  split <;> rfl

theorem appendVerifyReportNote_timestamps (label message : String) (r : VerifyReport) :
    (appendVerifyReportNote label message r).timestampDetails = r.timestampDetails ∧
      (appendVerifyReportNote label message r).timestampStatus = r.timestampStatus := by
  rw [appendVerifyReportNote]
  split <;> exact ⟨rfl, rfl⟩

/-- `SetVerifyReport`: `MakeClearedVerifyReport`, then `CommitVerifyOutcome`. -/
def setVerifyReport (operation : String) (executionSucceeded signatureValid : Bool)
    (errorCode : ErrorCode) (message : String) : VerifyReport :=
  let xades := operation = "VerifyFileAsicEXades"
  { hasResult := true
    executionSucceeded := executionSucceeded
    signatureValid := signatureValid
    operation := operation
    containerType := if xades then "ASiC-E" else "unknown"
    signatureFormat := if xades then "XAdES" else "CMS"
    formatProfile := if xades then "XAdES" else ""
    errorCode := errorCode
    message := buildVerifyMessage executionSucceeded signatureValid message }

end Tamga.Session
