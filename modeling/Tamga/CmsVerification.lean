/-
Verifying a detached CMS signature (`cryptonite/VerifyOps.cpp`, `Session::VerifyData`),
and the verdict on a timestamp token that all formats share
(`TryCanonicalTimestampVerdict`).

`VerifyCms` checks every signer and reports the conjunction.  Trust is another
matter: the validation engine is asked about the certificate of the first signer
only, and its verdict fills the trust fields of the report.

* `verifyCms_results` — what a valid verdict says of the signers;
* `dataReport_base` — the report can carry a positive decision exactly if the
  signature is valid and the engine accepts the first signer.
-/
import Tamga.VerifyReport

namespace Tamga.Session

open Policy Validation

/-! ### The environment -/

structure Settings where
  offlineMode : Bool := true
  workDir : String := ""
  trustMode : String := "strict"
  validationLevel : String := "standard"
  allowAiaIssuerFetch : Bool := false
  deriving DecidableEq, Repr

/-- A decoded `SignedData`: the certificate found for each of its signers, if any, and
all its certificates. -/
structure CmsContents where
  signerCertificatesDer : List (Option Der)
  embeddedCertificatesDer : List Der
  deriving DecidableEq, Repr

structure CmsLibrary where
  decode : Bytes → Except String CmsContents
  /-- The adapters and the check of one signer, for the data, the signature and the
  index of the signer. -/
  verifySigner : Bytes → Bytes → Nat → Except String Bool
  /-- `BuildRcError`, for the code that was returned. -/
  rcError : String → String
  /-- `ExtractSigningTime`. -/
  extractSigningTime : Bytes → Option String

structure Engines where
  validate : ValidationContext → Der → List Der → ValidationReport
  timestamp : TimestampEngineInput → TimestampEngineResult

def Engines.ofEnv {Cert Resp Crl : Type} (E : ValidationEnv Cert Resp Crl) : Engines where
  validate := Validation.validate E
  timestamp := E.timestampEngine

/-- What a session verifies with, apart from the engines. -/
structure VerifyEnv where
  initialized : Bool := true
  settings : Settings := {}
  ocspUrl : String := ""
  cms : CmsLibrary
  /-- `EnrichWithAiaIssuersIfNeeded`. -/
  enrichWithAiaIssuers : Der → List Der → List Der
  /-- The anchors and certificates that are collected for the timestamp engine. -/
  timestampAnchors : TimestampEngineInput

def profileOf (trustMode : String) : ValidationProfile :=
  if trustMode = "strict" then .strict
  else if trustMode = "ukraine-legal" then .ukraineLegal
  else if trustMode = "offline" then .offline
  else if trustMode = "forensic" then .forensic
  else .compatibility

def levelOf (validationLevel : String) : ValidationLevel :=
  if validationLevel = "basic" then .basic
  else if validationLevel = "extended" then .extended
  else if validationLevel = "forensic" then .forensic
  else .standard

/-! ### The signers of a CMS -/

structure CmsSignerResult where
  index : Nat
  signatureValid : Bool
  certificateDer : Der
  deriving DecidableEq, Repr

/-- What `VerifyCms` leaves in `is_valid` and `policy_info`. -/
structure CmsVerdict where
  isValid : Bool := false
  signerCertificatePresent : Bool := false
  signerCertificateDer : Der := []
  embeddedCertificatesDer : List Der := []
  signerCount : Nat := 0
  verifiedSignerCount : Nat := 0
  signers : List CmsSignerResult := []
  deriving DecidableEq, Repr

variable (lib : CmsLibrary) (env : VerifyEnv) (E : Engines)

def verifyCmsSignerAt (data signature : Bytes) (certificate : Option Der) (index : Nat) :
    Except String CmsSignerResult := do
  let certificateDer ← orError certificate (lib.rcError "signer certificate resolution")
  let valid ← lib.verifySigner data signature index
  .ok ⟨index + 1, valid, certificateDer⟩

/-- The loop of `VerifyCms` over the signers, from the given index on. -/
def verifySigners (lib : CmsLibrary) (data signature : Bytes) :
    List (Option Der) → Nat → Except String (List CmsSignerResult)
  | [], _ => .ok []
  | certificate :: rest, index => do
    let result ← verifyCmsSignerAt lib data signature certificate index
    let results ← verifySigners lib data signature rest (index + 1)
    .ok (result :: results)

def cmsVerdict (contents : CmsContents) (certificate : Der) (results : List CmsSignerResult) :
    CmsVerdict :=
  if results.all (·.signatureValid) then
    { isValid := true
      signerCertificatePresent := true
      signerCertificateDer := certificate
      embeddedCertificatesDer := contents.embeddedCertificatesDer
      signerCount := results.length
      verifiedSignerCount := results.length
      signers := results }
  else
    { signerCount := results.length, verifiedSignerCount := results.length, signers := results }

/-- `VerifyCms` for detached data.  An error without text counts as executed. -/
def verifyCms (data signature : Bytes) : Except String CmsVerdict := do
  let contents ← lib.decode signature
  let certificate ← orError (contents.signerCertificatesDer.head?.join)
    (lib.rcError "signer certificate resolution")
  match verifySigners lib data signature contents.signerCertificatesDer 0 with
  | .error e => if e = "" then .ok {} else .error e
  | .ok results => .ok (cmsVerdict contents certificate results)

/-! ### `VerifyData` -/

/-- What a verification returns, and the report it leaves behind. -/
structure VerifyCall where
  executed : Bool
  isValid : Bool
  report : VerifyReport

def cmsContext (signature : Bytes) : ValidationContext where
  profile := profileOf env.settings.trustMode
  level := levelOf env.settings.validationLevel
  offline := env.settings.offlineMode
  workDir := env.settings.workDir
  cmsDer := signature
  claimedSigningTime := (env.cms.extractSigningTime signature).getD ""
  ocspUrl := if env.settings.offlineMode then "" else env.ocspUrl
  signatureCryptoValid := true

def judgeCmsSigner (signature : Bytes) (embedded : List Der) (certificateDer : Der) :
    ValidationReport :=
  E.validate (cmsContext env signature) certificateDer
    (env.enrichWithAiaIssuers certificateDer embedded)

def integrityReport (v : CmsVerdict) : VerifyReport where
  hasResult := true
  executionSucceeded := true
  signatureValid := v.isValid
  operation := "VerifyData"
  message := buildVerifyMessage true v.isValid ""
  signerCertificatePresent := v.signerCertificatePresent
  cmsSignerCount := v.signerCount
  cmsVerifiedSignerCount := v.verifiedSignerCount
  signatures := v.signers.map fun s =>
    { index := s.index
      signatureValid := s.signatureValid
      signerCertificatePresent := s.certificateDer ≠ [] }

def dataReport (signature : Bytes) (v : CmsVerdict) : VerifyReport :=
  if v.isValid then
    let report := applyValidationEngineReport (v.signerCertificateDer ≠ [])
      (judgeCmsSigner env E signature v.embeddedCertificatesDer v.signerCertificateDer)
      (integrityReport v)
    if report.trustValid = false ∧ report.trustChecked then
      { report with errorCode := trustFailureErrorCode report.trustStatus }
    else report
  else integrityReport v

def verifyData (data signature : Bytes) : VerifyCall :=
  if env.initialized = false then
    ⟨false, false, setVerifyReport "VerifyData" false false .notInitialized
      "Session is not initialized"⟩
  else match verifyCms env.cms data signature with
  | .error e => ⟨false, false, setVerifyReport "VerifyData" false false .invalidArgument e⟩
  | .ok v => ⟨true, v.isValid, dataReport env E signature v⟩

/-! ### Timestamp tokens -/

def buildXadesValidationContext : ValidationContext where
  profile := profileOf env.settings.trustMode
  level := levelOf env.settings.validationLevel
  offline := env.settings.offlineMode
  workDir := env.settings.workDir

/-- What `TryCanonicalTimestampVerdict` leaves in its results. -/
structure CanonicalVerdict where
  valid : Bool
  reason : String
  detail : TimestampEntry

/-- The certificates and the revocation evidence that accompany a token. -/
structure TokenEvidence where
  certificates : List Der := []
  ocsp : List Der := []
  crls : List Der := []

/-- The reason of a refusal is the last step that was noted. -/
def refusalReason (result : TimestampEngineResult) : String :=
  if result.valid then ""
  else result.because.getLast?.getD "TSA signature, chain, EKU or revocation validation failed"

/-- `TryCanonicalTimestampVerdict`, with `none` where it returns false. -/
def tryCanonicalTimestampVerdict (token imprintSource : Bytes) (validationTime : String)
    (evidence : TokenEvidence) : Option CanonicalVerdict :=
  if token = [] ∨ imprintSource = [] then none
  else
    let context := buildXadesValidationContext env
    let resolved := resolvePolicy context
    let result := E.timestamp { env.timestampAnchors with
      explicitTimestampTokenDer := token
      explicitTimestampImprintSource := imprintSource
      validationTime := validationTime
      policy := resolved.policy
      plan := resolved.plan
      additionalTsaCandidateCertificatesDer := evidence.certificates
      embeddedOcspResponsesDer := evidence.ocsp
      embeddedCrlsDer := evidence.crls
      profile := context.profile
      level := context.level }
    some ⟨result.valid, refusalReason result, projectTimestampResult result⟩

/-! ### The engine on the signer of another format -/

/-- What `RunFormatTrustValidationOn` is given about a signer. -/
structure FormatSigner where
  certificateDer : Der
  cmsDer : Der := []
  evidence : TokenEvidence := {}
  signatureValid : Bool

def formatContext (s : FormatSigner) : ValidationContext :=
  { buildXadesValidationContext env with
    cmsDer := s.cmsDer
    embeddedRevocationOcspDer := s.evidence.ocsp
    embeddedRevocationCrlDer := s.evidence.crls
    signatureCryptoValid := s.signatureValid }

/-- `RunFormatTrustValidationOn`.  Without a certificate nothing is asked. -/
def runFormatTrustValidationOn (s : FormatSigner) (r : VerifyReport) : VerifyReport :=
  if s.certificateDer = [] then r
  else applyValidationEngineReport true
    (E.validate (formatContext env s) s.certificateDer s.evidence.certificates) r

theorem runFormatTrustValidationOn_good {env : VerifyEnv} {E : Engines} {s : FormatSigner} :
    (runFormatTrustValidationOn env E s {}).good ↔ s.certificateDer ≠ [] ∧
      acceptsSigner (E.validate (formatContext env s) s.certificateDer
        s.evidence.certificates) = true := by
  rw [runFormatTrustValidationOn]
  by_cases h : s.certificateDer = []
  · rw [if_pos h]
    refine iff_of_false ?_ fun hg => hg.1 h
    rintro ⟨hchecked, -⟩
    cases hchecked
  · rw [if_neg h, applyValidationEngineReport_good]
    exact (and_iff_right h).symm

/-! ### What the verdict and the report rest on -/

theorem verifySigners_certificates {lib : CmsLibrary} {data signature : Bytes} :
    ∀ {certificates : List (Option Der)} {index : Nat} {results : List CmsSignerResult},
      verifySigners lib data signature certificates index = .ok results →
        certificates = results.map fun s => some s.certificateDer := by
  intro certificates
  induction certificates with
  | nil =>
    intro index results h
    obtain rfl := Except.ok.inj h
    rfl
  | cons certificate rest ih =>
    intro index results h
    simp only [verifySigners, verifyCmsSignerAt, bind_eq_ok, orError_eq_ok] at h
    obtain ⟨_, ⟨der, rfl, valid, -, hresult⟩, rest', hrest, hresults⟩ := h
    obtain rfl := Except.ok.inj hresult
    obtain rfl := Except.ok.inj hresults
    rw [List.map_cons, ← ih hrest]

section

variable {lib : CmsLibrary} {data signature : Bytes} {v : CmsVerdict}
    (h : verifyCms lib data signature = .ok v) (hvalid : v.isValid = true)

include h hvalid

theorem verifyCms_results : ∃ contents certificate results, lib.decode signature = .ok contents ∧
      contents.signerCertificatesDer.head?.join = some certificate ∧
      (contents.signerCertificatesDer = results.map fun s => some s.certificateDer) ∧
      results.all (·.signatureValid) = true ∧ v = cmsVerdict contents certificate results := by
  simp only [verifyCms, bind_eq_ok, orError_eq_ok] at h
  obtain ⟨contents, hdecode, certificate, hcertificate, h⟩ := h
  refine ⟨contents, certificate, ?_⟩
  cases hresults : verifySigners lib data signature contents.signerCertificatesDer 0 with
  | error e =>
    rw [hresults] at h
    by_cases he : e = ""
    · simp only [he, if_true] at h
      obtain rfl := Except.ok.inj h
      cases hvalid
    · simp only [he, if_false] at h
      cases h
  | ok results =>
    rw [hresults] at h
    obtain rfl := Except.ok.inj h
    refine ⟨results, hdecode, hcertificate, verifySigners_certificates hresults, ?_, rfl⟩
    by_contra hall
    rw [cmsVerdict, if_neg hall] at hvalid
    cases hvalid

theorem verifyCms_contents : ∃ contents, lib.decode signature = .ok contents ∧
      contents.embeddedCertificatesDer = v.embeddedCertificatesDer ∧
      contents.signerCertificatesDer.head? = some (some v.signerCertificateDer) := by
  obtain ⟨contents, certificate, results, hdecode, hcertificate, -, hall, rfl⟩ :=
    verifyCms_results h hvalid
  rw [cmsVerdict, if_pos hall]
  exact ⟨contents, hdecode, rfl, Option.join_eq_some_iff.mp hcertificate⟩

end

section Report

variable {env E} {signature : Bytes} {v : CmsVerdict}

theorem dataReport_signatureValid : (dataReport env E signature v).signatureValid = v.isValid := by
  rw [dataReport]
  by_cases h : v.isValid = true
  · rw [if_pos h]
    dsimp only
    split <;> rfl
  · rw [if_neg h]
    rfl

theorem dataReport_executed : (dataReport env E signature v).hasResult = true ∧
    (dataReport env E signature v).executionSucceeded = true := by
  rw [dataReport]
  split
  · dsimp only
    split <;> exact ⟨rfl, rfl⟩
  · exact ⟨rfl, rfl⟩

theorem dataReport_base : policyBaseValid (dataReport env E signature v) = true ↔ v.isValid = true ∧
      acceptsSigner (judgeCmsSigner env E signature v.embeddedCertificatesDer
        v.signerCertificateDer) = true := by
  rw [policyBaseValid_iff, dataReport_signatureValid]
  obtain ⟨hresult, hexecuted⟩ := @dataReport_executed env E signature v
  simp only [hresult, hexecuted, true_and]
  refine and_congr_right fun h => ?_
  rw [dataReport, if_pos h]
  dsimp only
  split
  · exact applyValidationEngineReport_good _ (integrityReport v) _
  · exact applyValidationEngineReport_good _ (integrityReport v) _

end Report

end Tamga.Session
