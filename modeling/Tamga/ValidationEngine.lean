/-
The validation pipeline (`ValidationEngine::Validate`).

The stages run in a fixed order: policy, timestamp, signing time, trust path,
trust service, revocation, decision.  Files, the timestamp engine and the
parser of trust lists enter as a `ValidationEnv`; the other stages are the
models of the preceding modules.

* `synthesizeDecision_valid_iff` — the exact condition for the verdict `Valid`;
* `validate_valid_sound` — what a `Valid` verdict and a trusted time rest on;
* `trusted_time_required_iff` — when a required trusted time is enforced;
* `claimed_time_noninterference_iff` — which pairs of claimed times can change
  the historical-trust outcome.
-/
import Tamga.RevocationEngine
import Tamga.SigningMoment
import Tamga.TrustPath

namespace Tamga.Validation

open Policy IsoTime

/-! ### The environment -/

structure TimestampEngineInput where
  cmsDer : Der := []
  explicitTimestampTokenDer : Der := []
  explicitTimestampImprintSource : Bytes := []
  validationTime : String := ""
  policy : ValidationPolicy := {}
  plan : ValidationPlan := {}
  currentTrustAnchorsDer : List Der := []
  tsaTrustAnchorsDer : List Der := []
  historicalTrustAnchorsDer : List Der := []
  historicalTsaTrustAnchorsDer : List Der := []
  customTrustAnchorsDer : List Der := []
  pinnedTrustAnchorsDer : List Der := []
  intermediateStoreCertificatesDer : List Der := []
  additionalTsaCandidateCertificatesDer : List Der := []
  embeddedCrlsDer : List Der := []
  embeddedOcspResponsesDer : List Der := []
  profile : ValidationProfile := .strict
  level : ValidationLevel := .basic

structure TimestampEngineResult where
  valid : Bool := false
  policyAcceptable : Bool := false
  cryptoValid : Bool := false
  genTimeValid : Bool := false
  certificateTimeValid : Bool := false
  ekuValid : Bool := false
  trustValid : Bool := false
  historicalTrustUsed : Bool := false
  revocationChecked : Bool := false
  ocspAttempted : Bool := false
  crlAttempted : Bool := false
  status : TimestampStatus := .notChecked
  revocationStatus : RevocationStatus := .notChecked
  reasonCode : String := ""
  trustSource : String := ""
  genTime : String := ""
  validationTime : String := ""
  tsaCertificateDer : Der := []
  tsaIssuerCertificateDer : Der := []
  because : List String := []
  warnings : List String := []
  limitations : List String := []
  evidenceIds : List String := []

/-- Everything a run of the engine finds outside its arguments. -/
structure ValidationEnv (Cert Resp Crl : Type) where
  revocation : RevocationOracle Cert Resp Crl
  /-- `LoadCertificatesFromDir` on a directory below the work directory. -/
  loadCertificatesFromDir : String → List Der
  /-- The listing of `trust-list/history`, if it is a directory. -/
  historyDir : String → Option (List DirEntry)
  /-- `std::filesystem::relative` of a snapshot to the work directory. -/
  relativePath : String → Snapshot → Option String
  /-- `ReadTrustListXml`. -/
  readTrustListXml : String → Snapshot → String
  parseTrustList : String → TrustListParseResult
  timestampEngine : TimestampEngineInput → TimestampEngineResult
  /-- `LoadCrlsFromWorkDir`, after the lists of the given certificates have been
  downloaded. -/
  loadCrlsFromWorkDir : String → List Der → List Der

structure ValidationReport where
  decision : ValidationDecision := {}
  pathSelection : PathSelection := {}
  trustService : TrustServiceDecision := {}
  signerRevocation : RevocationEngineResult := {}
  timestamp : TimestampEngineResult := {}
  timestampAttempted : Bool := false
  signingTimeResolution : SigningTimeResolution := {}

/-! ### The decision -/

def untrustedStatus (historicalMatch : Bool) (selected : PathValidationResult) : String × String :=
  if historicalMatch then ("legacy-anchor-not-in-current-tl", "legacy-anchor-not-in-current-tl")
  else match selected.status with
  | .incomplete => ("certificate-chain-incomplete", "legacy-anchor-not-in-current-tl")
  | .expired => ("certificate-chain-time-invalid", "expired-chain")
  | .invalidSignature => ("certificate-chain-invalid", "invalid-chain-signature")
  | .untrusted =>
    if containsText selected.message "empty" then
      ("trust-store-empty", "legacy-anchor-not-in-current-tl")
    else ("untrusted-chain", "current-tl-anchor-mismatch")
  | _ => ("untrusted-chain", "no-trusted-path")

/-- What `SynthesizeDecision` is given. -/
structure DecisionInput where
  signatureCryptoValid : Bool
  pathSelection : PathSelection
  pathResults : List PathValidationResult
  trustService : TrustServiceDecision
  signerRevocation : RevocationEngineResult
  timestamp : TimestampEngineResult
  timestampAttempted : Bool
  signingTime : SigningTimeResolution
  policy : ValidationPolicy
  context : ValidationContext

namespace DecisionInput

variable (d : DecisionInput)

def pathTrusted : Bool :=
  d.pathSelection.selectedIndex.isSome && d.pathSelection.selectedResult.trusted

def usesHistorical : Bool := d.pathTrusted && d.pathSelection.selectedResult.usesHistoricalTrust

def serviceLevelOk : Bool := !d.policy.requireServiceLevelTrust || d.trustService.serviceTrusted

def trustValid : Bool := d.pathTrusted && d.serviceLevelOk

def signerRevoked : Bool :=
  d.signerRevocation.revocationStatus == .revoked && d.signerRevocation.overallStatus == .invalid

def revocationOpen : Bool :=
  d.signerRevocation.overallStatus == .indeterminate && d.policy.revocationHardFail

/-- The timestamp is there, is not valid, and a trusted time is required. -/
def timestampRefused : Bool :=
  d.timestampAttempted && !d.timestamp.valid && d.policy.requireTrustedSigningTime

/-- The trust part of the decision, shared by everything after the revocation
check. -/
def trustDecision : ValidationDecision :=
  let historicalMatch := d.pathResults.any fun r => r.candidateId == "historical-tl" && r.trusted
  let texts := if d.trustValid then
      ("trusted-anchor-validated",
        if d.usesHistorical then
          "historical-tl-anchor: " ++ d.pathSelection.selectedResult.trustAnchorSource
        else "current-tl-anchor")
    else untrustedStatus historicalMatch d.pathSelection.selectedResult
  { signatureValid := d.signatureCryptoValid
    trustedSigningTime :=
      if d.signingTime.trustedTime then d.signingTime.signatureEvaluationTime else ""
    signatureEvaluationTime := d.signingTime.signatureEvaluationTime
    trustValid := d.trustValid
    trustStatus := texts.1
    trustReason := texts.2 }

/-- The last part of `SynthesizeDecision`, when no gate has returned. -/
def conclude : ValidationDecision :=
  let timeBecause := if d.signingTime.trustedTime then
    ["Довірений час підпису підтверджено RFC3161 міткою."] else []
  let timeWarning :=
    if !d.signingTime.trustedTime && d.signingTime.signatureEvaluationTime != "" then
      ["Час підпису не підтверджено криптографічно — використано fallback/claimed."] else []
  let trustBecause := if d.trustValid then
      (if d.usesHistorical then
        ["Ланцюжок довіри вибудований через архівний список довіри (historical-tl)."]
      else ["Ланцюжок довіри вибудований через поточний список довіри."])
    else ["Не вдалося встановити довіру до ланцюжка сертифікатів."]
  { d.trustDecision with
    overallStatus := if d.trustValid then .valid else .indeterminate
    levelReached :=
      if isExtendedOrHigher d.context.level then (if d.trustValid then .extended else .standard)
      else .standard
    qualifiedValid := d.trustValid && d.signingTime.trustedTime
    ltvValid := isLongTermValidationValid d.trustValid d.signerRevocation.revocationStatus
      d.timestampAttempted d.timestamp.valid
    summary := if d.trustValid then
        (if d.usesHistorical then "valid-historical-trust" else "valid")
      else "indeterminate"
    because := timeBecause ++ trustBecause ++ d.signerRevocation.because
    warnings := timeWarning ++
      (if d.trustValid && d.usesHistorical then ["historical-trust-used"] else []) ++
      d.signerRevocation.warnings ++ d.signingTime.warnings ++
      (if d.timestampAttempted then d.timestamp.warnings else [])
    limitations := d.signerRevocation.limitations ++ d.signingTime.limitations ++
      (if d.timestampAttempted then d.timestamp.limitations else []) }

end DecisionInput

/-- `SynthesizeDecision`: the gates in their order. -/
def synthesizeDecision (d : DecisionInput) : ValidationDecision :=
  let start : ValidationDecision :=
    { signatureValid := d.signatureCryptoValid
      trustedSigningTime :=
        if d.signingTime.trustedTime then d.signingTime.signatureEvaluationTime else ""
      signatureEvaluationTime := d.signingTime.signatureEvaluationTime }
  if d.context.level = .basic then
    if !d.signatureCryptoValid then
      { start with
        overallStatus := .invalid
        summary := "invalid"
        because := ["Криптографічна перевірка підпису не пройшла."] }
    else
      { start with
        overallStatus := .integrityOnly
        summary := "integrity-only"
        because := ["Рівень Basic: перевірена лише цілісність підпису."] }
  else if !d.signatureCryptoValid then
    { start with
      overallStatus := .invalid
      summary := "invalid"
      because := ["Криптографічна перевірка підпису не пройшла."] }
  else if d.signerRevoked then
    { start with
      overallStatus := .invalid
      summary := "invalid"
      because := ["Сертифікат підписанта відкликано."] ++ d.signerRevocation.because }
  else if !d.trustValid && d.context.profile == .strict then
    { d.trustDecision with
      overallStatus := .indeterminate
      summary := "indeterminate"
      because :=
        ["Ланцюжок довіри не вдалося вибудувати до поточного кореня (Strict-профіль)."]
      limitations :=
        (if d.pathSelection.selectedResult.message = "" then ["no-trusted-path"]
          else [d.pathSelection.selectedResult.message]) ++ d.signingTime.limitations
      warnings := d.signingTime.warnings }
  else if d.revocationOpen then
    { d.trustDecision with
      overallStatus := .indeterminate
      summary := "indeterminate"
      because := ["Статус відкликання сертифіката не встановлено (hard-fail)."] ++
        d.signerRevocation.because
      warnings := d.signerRevocation.warnings ++ d.signingTime.warnings
      limitations := d.signerRevocation.limitations ++ d.signingTime.limitations }
  else if d.timestampRefused then
    { d.trustDecision with
      overallStatus := .indeterminate
      summary := "indeterminate"
      because :=
        ["Мітка часу RFC3161 не пройшла перевірку, але вимагається довірений час підпису."] ++
        d.timestamp.because
      warnings := d.timestamp.warnings
      limitations := d.timestamp.limitations }
  else d.conclude

/-! ### The stages -/

section Stages

variable {Cert Resp Crl : Type} (E : ValidationEnv Cert Resp Crl)

variable (resolved : ResolvedValidationPolicy) (context : ValidationContext)

def storeCertificates (store : String) : List Der :=
  if context.workDir = "" then [] else E.loadCertificatesFromDir (context.workDir ++ "/" ++ store)

/-- The times that the caller gives. -/
def timeCandidates : List SigningTimeCandidate :=
  (if context.verificationTime = "" then [] else
    [{ source := .verificationTimeFallback, time := context.verificationTime }]) ++
  (if context.claimedSigningTime = "" then [] else
    [{ source := .claimedSigningTime, time := context.claimedSigningTime }])

def timestampInput (embeddedCertificatesDer : List Der) : TimestampEngineInput :=
  { cmsDer := context.cmsDer
    validationTime :=
      (resolveSigningTime (timeCandidates context) context resolved.policy).signatureEvaluationTime
    policy := resolved.policy
    plan := resolved.plan
    currentTrustAnchorsDer := storeCertificates E context "trust-store"
    tsaTrustAnchorsDer := storeCertificates E context "tsa-store"
    historicalTrustAnchorsDer := storeCertificates E context "historical-trust-store"
    historicalTsaTrustAnchorsDer := storeCertificates E context "historical-tsa-store"
    intermediateStoreCertificatesDer := storeCertificates E context "intermediate-store"
    additionalTsaCandidateCertificatesDer := embeddedCertificatesDer
    embeddedCrlsDer := context.embeddedRevocationCrlDer
    embeddedOcspResponsesDer := context.embeddedRevocationOcspDer
    profile := context.profile
    level := context.level }

/-- The result of the timestamp engine; untouched where there is no CMS. -/
def timestampStage (embeddedCertificatesDer : List Der) : TimestampEngineResult :=
  if context.cmsDer = [] then {}
  else E.timestampEngine (timestampInput E resolved context embeddedCertificatesDer)

def timestampAttempted (embeddedCertificatesDer : List Der) : Bool :=
  decide (context.cmsDer ≠ []) &&
    (timestampStage E resolved context embeddedCertificatesDer).status != .missing

/-- The time that a valid timestamp proves. -/
def timestampCandidate (attempted : Bool) (timestamp : TimestampEngineResult) :
    List SigningTimeCandidate :=
  if attempted && timestamp.valid then
    match normalizeTimestampTime timestamp.genTime with
    | some time =>
      [{ source := .rfc3161Timestamp
         time := time
         cryptographicallyValid := true
         trusted := true
         evidenceId := timestamp.evidenceIds.headD "" }]
    | none => []
  else []

/-- The moment at which everything else is judged. -/
def signingTimeStage (embeddedCertificatesDer : List Der) : SigningTimeResolution :=
  resolveSigningTime
    (timestampCandidate (timestampAttempted E resolved context embeddedCertificatesDer)
        (timestampStage E resolved context embeddedCertificatesDer) ++ timeCandidates context)
    context resolved.policy

variable (signerCertificateDer : Der) (embeddedCertificatesDer : List Der)

/-- What the search for a path starts from. -/
def pathInput (evaluationTime : String) : PathBuilderInput :=
  { signerCertificateDer := signerCertificateDer
    embeddedCertificatesDer := embeddedCertificatesDer
    intermediateStoreCertificatesDer := storeCertificates E context "intermediate-store"
    currentTrustAnchorsDer := storeCertificates E context "trust-store"
    historicalTrustAnchorsDer := storeCertificates E context "historical-trust-store"
    policy := resolved.policy
    validationTime := evaluationTime }

/-- The trust list of the moment. -/
def snapshotStage (evaluationTime : String) : Snapshot :=
  selectSnapshot (E.historyDir context.workDir) evaluationTime
    (resolved.policy.trustAnchorPolicy == .currentTLOnly)

def startsWith (head text : List Char) : Bool := head.isPrefixOf text

/-- `StableSnapshotId` of the path relative to the work directory. -/
def stableSnapshotId (relative : Option String) : String :=
  match relative with
  | none => "unknown"
  | some rel =>
    let historyHead := "trust-list/history/".toList
    if rel = "" then "unknown"
    else if startsWith "..".toList rel.toList then "unknown"
    else if startsWith historyHead rel.toList then
      "history/" ++ String.ofList (rel.toList.drop historyHead.length)
    else if startsWith "trust-list/".toList rel.toList then "current"
    else "unknown"

/-- The service that issued the certificate, by that list. -/
def trustServiceStage (snapshot : Snapshot) : TrustServiceDecision :=
  let xml := E.readTrustListXml context.workDir snapshot
  if xml ≠ "" ∧ signerCertificateDer ≠ [] then
    trustServiceEvaluate E.parseTrustList signerCertificateDer xml
      (stableSnapshotId (E.relativePath context.workDir snapshot))
  else {}

/-- The lists at hand: the cached ones, refreshed over the network where that is
allowed, and the embedded ones. -/
def crlPool (signerCertificateDer issuerCertDer : Der) : List Der :=
  let downloaded := if resolved.plan.networkAllowed && context.workDir != "" then
      signerCertificateDer :: (if issuerCertDer = [] then [] else [issuerCertDer])
    else []
  E.loadCrlsFromWorkDir context.workDir downloaded ++ context.embeddedRevocationCrlDer

def revocationInput (selection : PathSelection) (evaluationTime : String) : RevocationEngineInput :=
  let issuerCertDer := if selection.selectedIndex.isSome then
    selection.selectedResult.signerIssuerCertificateDer else []
  { certificateDer := signerCertificateDer
    issuerCertificateDer := issuerCertDer
    role := .signer
    validationTime := evaluationTime
    networkAllowed := resolved.plan.networkAllowed
    revocationHardFail := resolved.policy.revocationHardFail
    crlsDer := crlPool E resolved context signerCertificateDer issuerCertDer
    embeddedOcspResponsesDer := context.embeddedRevocationOcspDer
    ocspUrl := context.ocspUrl }

/-- The status of the signer at the moment. -/
def revocationStage (selection : PathSelection)
    (evaluationTime : String) : RevocationEngineResult :=
  if signerCertificateDer ≠ [] then
    revocationValidate E.revocation
      (revocationInput E resolved context signerCertificateDer selection evaluationTime)
  else
    { overallStatus := .indeterminate
      because := ["Сертифікат підписанта відсутній — перевірка відкликання неможлива."] }

/-- All stages, each at the moment that the first one finds. -/
def decisionInput : DecisionInput :=
  let signingTime := signingTimeStage E resolved context embeddedCertificatesDer
  let evaluationTime := signingTime.signatureEvaluationTime
  let results := pathResults E.revocation.certs
    (pathInput E resolved context signerCertificateDer embeddedCertificatesDer evaluationTime)
  let selection := pathSelect results resolved.policy
  { signatureCryptoValid := context.signatureCryptoValid
    pathSelection := selection
    pathResults := results
    trustService := trustServiceStage E context signerCertificateDer
      (snapshotStage E resolved context evaluationTime)
    signerRevocation :=
      revocationStage E resolved context signerCertificateDer selection evaluationTime
    timestamp := timestampStage E resolved context embeddedCertificatesDer
    timestampAttempted := timestampAttempted E resolved context embeddedCertificatesDer
    signingTime := signingTime
    policy := resolved.policy
    context := context }

/-- `ValidationEngine::Validate` under a given policy. -/
def validateWith : ValidationReport :=
  let d := decisionInput E resolved context signerCertificateDer embeddedCertificatesDer
  let decision := synthesizeDecision d
  { decision :=
      if context.signatureCryptoValid then decision
      else { decision with
        because := decision.because ++
          ["Криптографічна перевірка підпису не підтверджена викликачем " ++
            "(ValidationContext.signature_crypto_valid=false)."] }
    pathSelection := d.pathSelection
    trustService := d.trustService
    signerRevocation := d.signerRevocation
    timestamp := d.timestamp
    timestampAttempted := d.timestampAttempted
    signingTimeResolution := d.signingTime }

/-- `ValidationEngine::Validate`. -/
def validate : ValidationReport :=
  validateWith E (resolvePolicy context) context signerCertificateDer embeddedCertificatesDer

/-! ### The gates -/

theorem synthesizeDecision_valid_iff (d : DecisionInput) :
    (synthesizeDecision d).overallStatus = .valid ↔
      d.context.level ≠ .basic ∧ d.signatureCryptoValid = true ∧ d.signerRevoked = false ∧
      d.trustValid = true ∧ d.revocationOpen = false ∧ d.timestampRefused = false := by
  unfold synthesizeDecision
  by_cases hlevel : d.context.level = .basic
  · rw [if_pos hlevel]
    split <;> simp [hlevel]
  rw [if_neg hlevel]
  cases hsig : d.signatureCryptoValid with
  | false => simp
  | true =>
  cases hrev : d.signerRevoked with
  | true => simp
  | false =>
  cases htrust : d.trustValid with
  | false =>
    -- an untrusted path is refused early under the strict profile, late otherwise
    cases hstrict : d.context.profile == .strict with
    | true => simp
    | false =>
      cases hopen : d.revocationOpen <;> cases hts : d.timestampRefused <;>
        simp [DecisionInput.conclude, htrust]
  | true =>
    cases hopen : d.revocationOpen with
    | true => simp
    | false =>
      cases hts : d.timestampRefused with
      | true => simp
      | false => simp [DecisionInput.conclude, htrust, hlevel]

variable {resolved context} {E} {signer : Der} {embedded : List Der}

theorem validateWith_overall :
    (validateWith E resolved context signer embedded).decision.overallStatus
      = (synthesizeDecision (decisionInput E resolved context signer embedded)).overallStatus := by
  unfold validateWith
  cases context.signatureCryptoValid <;> rfl

/-! ### The signing time -/

theorem timeCandidates_untrusted : (timeCandidates context).find? isTrustedTimestamp = none := by
  unfold timeCandidates
  split <;> split <;> simp [isTrustedTimestamp]

theorem timeCandidates_claimed : ((timeCandidates context).find? isClaimedTime).map (·.time)
      = if context.claimedSigningTime = "" then none else some context.claimedSigningTime := by
  unfold timeCandidates
  by_cases hv : context.verificationTime = "" <;> by_cases hc : context.claimedSigningTime = "" <;>
    simp [hv, hc, isClaimedTime]

theorem timestampCandidate_find (attempted : Bool) (timestamp : TimestampEngineResult) :
    ((timestampCandidate attempted timestamp).find? isTrustedTimestamp).map (·.time)
      = if attempted && timestamp.valid then normalizeTimestampTime timestamp.genTime else none := by
  unfold timestampCandidate
  cases hav : attempted && timestamp.valid with
  | false => simp
  | true =>
    cases hn : normalizeTimestampTime timestamp.genTime with
    | none => simp
    | some time =>
      have := normalizeTimestampTime_ne_empty hn
      simp [isTrustedTimestamp, this]

theorem timestampCandidate_claimed (attempted : Bool) (timestamp : TimestampEngineResult) :
    (timestampCandidate attempted timestamp).find? isClaimedTime = none := by
  unfold timestampCandidate
  split
  · split <;> simp [isClaimedTime]
  · rfl

variable (E resolved context) in
/-- The time of the timestamp, where it is valid. -/
def provedTime : Option String :=
  if timestampAttempted E resolved context embeddedCertificatesDer &&
      (timestampStage E resolved context embeddedCertificatesDer).valid then
    normalizeTimestampTime (timestampStage E resolved context embeddedCertificatesDer).genTime
  else none

/-- The time that is used where none is proved: the claimed one, or else the
time of the verification. -/
def fallbackTime (context : ValidationContext) : String :=
  if context.claimedSigningTime = "" then context.verificationTime else context.claimedSigningTime

/-- **The signing time**: trusted exactly when a token proves it, and then the
proved one. -/
theorem signingTimeStage_spec : (signingTimeStage E resolved context embedded).trustedTime
        = (provedTime E resolved context embedded).isSome ∧
      (signingTimeStage E resolved context embedded).signatureEvaluationTime
        = (provedTime E resolved context embedded).getD (fallbackTime context) := by
  set attempted := timestampAttempted E resolved context embedded with hatt
  set timestamp := timestampStage E resolved context embedded with hts
  have hfind : ((timestampCandidate attempted timestamp ++ timeCandidates context).find?
      isTrustedTimestamp).map (·.time) = provedTime E resolved context embedded := by
    rw [List.find?_append, timeCandidates_untrusted, Option.or_none, timestampCandidate_find]
    rfl
  have hclaimed : ((timestampCandidate attempted timestamp ++ timeCandidates context).find?
      isClaimedTime).map (·.time)
        = if context.claimedSigningTime = "" then none else some context.claimedSigningTime := by
    rw [List.find?_append, timestampCandidate_claimed, Option.none_or, timeCandidates_claimed]
  cases hcand : (timestampCandidate attempted timestamp ++ timeCandidates context).find?
      isTrustedTimestamp with
  | some c =>
    rw [hcand] at hfind
    obtain ⟨h1, h2⟩ := @resolveSigningTime_of_timestamp _ context resolved.policy _ hcand
    rw [← hfind]
    exact ⟨h1, h2⟩
  | none =>
    rw [hcand] at hfind
    obtain ⟨h1, h2⟩ := @resolveSigningTime_of_untrusted _ context resolved.policy hcand
    rw [← hfind]
    refine ⟨h1, h2.trans ?_⟩
    rw [hclaimed, fallbackTime]
    split <;> rfl

/-! ### What a valid verdict rests on -/

variable (E resolved context signer embedded) in
/-- What has been established about a signature that is called valid at
`evaluationTime`. -/
structure ValidVerdict (report : ValidationReport) : Prop where
  signature : context.signatureCryptoValid = true
  /-- The selected path is a candidate of the policy, trusted by the chain
  validator at the evaluation time, and historical only where that is allowed. -/
  path : ∃ c ∈ pathBuild (pathInput E resolved context signer embedded
      report.signingTimeResolution.signatureEvaluationTime),
    report.pathSelection.selectedResult = pathValidate E.revocation.certs c ∧
    (c.usesHistoricalTrust = true → resolved.policy.allowHistoricalTrust = true) ∧
    c.validationTime = report.signingTimeResolution.signatureEvaluationTime ∧
    ∃ start : SourceCertificate E.revocation.certs, start.der = signer ∧
      ∃ cs anchor, TrustedPath E.revocation.certs c.chainInput start cs anchor
  service : resolved.policy.requireServiceLevelTrust = true →
    report.trustService.serviceTrusted = true
  /-- The revocation engine was asked about the signer at the evaluation time. -/
  revocation : report.signerRevocation = revocationValidate E.revocation
    (revocationInput E resolved context signer report.pathSelection
      report.signingTimeResolution.signatureEvaluationTime)
  notRevoked : ¬(report.signerRevocation.revocationStatus = .revoked ∧
    revokedLater (validationTimeSec E.revocation.certs.now
      report.signingTimeResolution.signatureEvaluationTime)
      report.signerRevocation.revocationTime = false)
  hardFail : resolved.policy.revocationHardFail = true →
    report.signerRevocation.overallStatus = .valid

theorem decisionInput_path
    (h : (decisionInput E resolved context signer embedded).pathTrusted = true) :
    ∃ c ∈ pathBuild (pathInput E resolved context signer embedded
        (signingTimeStage E resolved context embedded).signatureEvaluationTime),
      (decisionInput E resolved context signer embedded).pathSelection.selectedResult
        = pathValidate E.revocation.certs c ∧
      (c.usesHistoricalTrust = true → resolved.policy.allowHistoricalTrust = true) ∧
      c.validationTime = (signingTimeStage E resolved context embedded).signatureEvaluationTime ∧
      ∃ start : SourceCertificate E.revocation.certs, start.der = signer ∧
        ∃ cs anchor, TrustedPath E.revocation.certs c.chainInput start cs anchor := by
  obtain ⟨hsel, htrusted⟩ := Bool.and_eq_true_iff.mp h
  obtain ⟨i, hi⟩ := Option.isSome_iff_exists.mp hsel
  obtain ⟨c, hc, hres, htime, hsigner, hhist⟩ := selectedPath_sound E.revocation.certs
    (pathInput E resolved context signer embedded
      (signingTimeStage E resolved context embedded).signatureEvaluationTime) hi
  refine ⟨c, hc, hres, hhist, htime, ?_⟩
  have htrust : (chainValidate E.revocation.certs c.chainInput).trusted = true := by
    have : (pathValidate E.revocation.certs c).trusted = true := hres ▸ htrusted
    exact this
  obtain ⟨start, hstart, hpath⟩ := chainValidate_trusted_iff_path.mp htrust
  exact ⟨start, hstart.trans hsigner, hpath⟩

theorem signer_ne_nil_of_path {start : SourceCertificate E.revocation.certs}
    (hstart : start.der = signer) : signer ≠ [] := by
  rintro rfl
  have := start.decoded
  simp [hstart, decodeCertificateDer] at this

/-- **Soundness of the verdict.**  Whatever the policy and the engines behind the pipeline, `Valid`
is reported only for a signature that passed its cryptographic check, over a path that is trusted at
the evaluation time and admitted by the policy, with the service and the revocation status that the
policy asks for, and not revoked at that time.  The signing time is called trusted only if the
timestamp engine found the token valid; the evaluation time is then that of the token. -/
theorem validate_valid_sound (E : ValidationEnv Cert Resp Crl)
    (resolved : ResolvedValidationPolicy) (context : ValidationContext) (signer : Der)
    (embedded : List Der) :
    let report := validateWith E resolved context signer embedded
    (report.decision.overallStatus = .valid →
      ValidVerdict E resolved context signer embedded report) ∧
    (report.signingTimeResolution.trustedTime = true →
      context.cmsDer ≠ [] ∧
      report.timestamp = E.timestampEngine (timestampInput E resolved context embedded) ∧
      report.timestamp.valid = true ∧
      normalizeTimestampTime report.timestamp.genTime
        = some report.signingTimeResolution.signatureEvaluationTime) := by
  intro report
  constructor
  · intro hvalid
    have hgates := validateWith_overall.symm.trans hvalid
    rw [synthesizeDecision_valid_iff] at hgates
    obtain ⟨-, hsig, hrevoked, htrust, hopen, -⟩ := hgates
    obtain ⟨hpathTrusted, hservice⟩ := Bool.and_eq_true_iff.mp htrust
    have hpath := decisionInput_path hpathTrusted
    have hne : signer ≠ [] := by
      obtain ⟨c, -, -, -, -, start, hstart, -⟩ := hpath
      exact signer_ne_nil_of_path hstart
    have hstage : report.signerRevocation = revocationValidate E.revocation
        (revocationInput E resolved context signer report.pathSelection
          report.signingTimeResolution.signatureEvaluationTime) := by
      show revocationStage E resolved context signer _ _ = _
      rw [revocationStage, if_pos hne]
      rfl
    have hnot : ¬(report.signerRevocation.revocationStatus = .revoked ∧
        revokedLater (validationTimeSec E.revocation.certs.now
          report.signingTimeResolution.signatureEvaluationTime)
          report.signerRevocation.revocationTime = false) := by
      intro hrev
      have hinv : report.signerRevocation.overallStatus = .invalid := by
        rw [hstage] at hrev ⊢
        exact (revocationValidate_invalid_status _).mpr hrev
      have hgate : (report.signerRevocation.revocationStatus == .revoked &&
          report.signerRevocation.overallStatus == .invalid) = false := hrevoked
      rw [hrev.1, hinv] at hgate
      exact absurd hgate (by decide)
    refine ⟨hsig, hpath, ?_, hstage, hnot, ?_⟩
    · intro hreq
      have hgate : (!resolved.policy.requireServiceLevelTrust ||
          report.trustService.serviceTrusted) = true := hservice
      rwa [hreq, Bool.not_true, Bool.false_or] at hgate
    · intro hhard
      have hgate : (report.signerRevocation.overallStatus == .indeterminate &&
          resolved.policy.revocationHardFail) = false := hopen
      rw [hhard, Bool.and_true, beq_eq_false_iff_ne] at hgate
      rw [hstage] at hnot hgate ⊢
      exact revocationValidate_valid_of hnot hgate
  · intro htrusted
    obtain ⟨hsome, htime⟩ := @signingTimeStage_spec _ _ _ E resolved context embedded
    have hproved : (provedTime E resolved context embedded).isSome = true :=
      hsome.symm.trans htrusted
    obtain ⟨time, ht⟩ := Option.isSome_iff_exists.mp hproved
    rw [ht, Option.getD_some] at htime
    unfold provedTime at ht
    split at ht
    next hboth =>
      obtain ⟨hatt, hv⟩ := Bool.and_eq_true_iff.mp hboth
      have hcms : context.cmsDer ≠ [] := by
        simpa using (Bool.and_eq_true_iff.mp hatt).1
      refine ⟨hcms, ?_, hv, ht.trans ?_⟩
      · show timestampStage E resolved context embedded = _
        rw [timestampStage, if_neg hcms]
      · show some time = some (signingTimeStage E resolved context embedded).signatureEvaluationTime
        rw [htime]
    · simp at ht

/-! ### The required trusted time -/

variable (E resolved context signer embedded) in
/-- Everything but the signing time speaks for the signature. -/
structure OtherGatesPass : Prop where
  level : context.level ≠ .basic
  signature : context.signatureCryptoValid = true
  notRevoked : (decisionInput E resolved context signer embedded).signerRevoked = false
  trust : (decisionInput E resolved context signer embedded).trustValid = true
  revocation : (decisionInput E resolved context signer embedded).revocationOpen = false

theorem validateWith_valid_iff :
    (validateWith E resolved context signer embedded).decision.overallStatus = .valid ↔
      OtherGatesPass E resolved context signer embedded ∧
      (timestampAttempted E resolved context embedded &&
        !(timestampStage E resolved context embedded).valid &&
        resolved.policy.requireTrustedSigningTime) = false := by
  rw [validateWith_overall, synthesizeDecision_valid_iff]
  constructor
  · rintro ⟨h1, h2, h3, h4, h5, h6⟩
    exact ⟨⟨h1, h2, h3, h4, h5⟩, h6⟩
  · rintro ⟨⟨h1, h2, h3, h4, h5⟩, h6⟩
    exact ⟨h1, h2, h3, h4, h5, h6⟩

theorem provedTime_isSome_iff : (provedTime E resolved context embedded).isSome = true ↔
      timestampAttempted E resolved context embedded = true ∧
      (timestampStage E resolved context embedded).valid = true ∧
      (normalizeTimestampTime
        (timestampStage E resolved context embedded).genTime).isSome = true := by
  unfold provedTime
  split
  next h =>
    obtain ⟨h1, h2⟩ := Bool.and_eq_true_iff.mp h
    simp [h1, h2]
  next h =>
    constructor
    · intro hs
      simp at hs
    · rintro ⟨h1, h2, -⟩
      exact absurd (Bool.and_eq_true_iff.mpr ⟨h1, h2⟩) h

/-- **When a required trusted time is enforced.**  Under a policy that requires a trusted signing
time, `Valid` implies a trusted time exactly for those inputs for which, as soon as every other gate
passes, a token is there and, if the timestamp engine accepts it, has a time that can be normalised.
-/
theorem trusted_time_required_iff (E : ValidationEnv Cert Resp Crl)
    (resolved : ResolvedValidationPolicy) (context : ValidationContext) (signer : Der)
    (embedded : List Der) :
    (resolved.policy.requireTrustedSigningTime = true →
      (validateWith E resolved context signer embedded).decision.overallStatus = .valid →
      (validateWith E resolved context signer embedded).signingTimeResolution.trustedTime = true) ↔
    (resolved.policy.requireTrustedSigningTime = true →
      OtherGatesPass E resolved context signer embedded →
      timestampAttempted E resolved context embedded = true ∧
      ((timestampStage E resolved context embedded).valid = true →
        (normalizeTimestampTime
          (timestampStage E resolved context embedded).genTime).isSome = true)) := by
  have htrusted : (validateWith E resolved context signer
      embedded).signingTimeResolution.trustedTime
        = (provedTime E resolved context embedded).isSome :=
    (@signingTimeStage_spec _ _ _ E resolved context embedded).1
  rw [htrusted, provedTime_isSome_iff, validateWith_valid_iff]
  constructor
  · intro h hreq hgates
    cases hatt : timestampAttempted E resolved context embedded with
    | false =>
      -- no token: nothing stands between the other gates and `Valid`
      have := (h hreq ⟨hgates, by simp [hatt]⟩).1
      rw [hatt] at this
      exact absurd this (by decide)
    | true =>
      refine ⟨rfl, fun hv => ?_⟩
      exact (h hreq ⟨hgates, by simp [hv]⟩).2.2
  · rintro h hreq ⟨hgates, hrefused⟩
    obtain ⟨hatt, hnorm⟩ := h hreq hgates
    have hv : (timestampStage E resolved context embedded).valid = true := by
      simpa [hatt, hreq] using hrefused
    exact ⟨hatt, hv, hnorm hv⟩

end Stages

/-! ### A timestamp, and none -/

def grantingEnv (genTime : String) : ValidationEnv Der Der Der where
  revocation := contradictingResponses
  loadCertificatesFromDir := fun dir => if dir = "w/trust-store" then [[9]] else []
  historyDir := fun _ => none
  relativePath := fun _ _ => some "trust-list/TL-UA-EC.xml"
  readTrustListXml := fun _ _ => "tl"
  parseTrustList := fun _ =>
    { ok := true, services := [{ status := "svcstatus/granted", certificates := [[7]] }] }
  timestampEngine := fun _ => { valid := true, status := .valid, genTime := genTime }
  loadCrlsFromWorkDir := fun _ _ => []

/-- The legal profile at a level that requires a trusted signing time. -/
def legalContext (cms : Der) : ValidationContext :=
  { profile := .ukraineLegal
    level := .extended
    workDir := "w"
    cmsDer := cms
    embeddedRevocationOcspDer := [[1]]
    signatureCryptoValid := true }

/-- With a token whose time can be read, the run is valid and its time trusted. -/
theorem validate_valid_sound_granted : let env := grantingEnv "20240301020304Z"
    let context := legalContext [5]
    let report := validateWith env (resolvePolicy context) context [7] []
    ValidVerdict env (resolvePolicy context) context [7] [] report ∧
      normalizeTimestampTime report.timestamp.genTime
        = some report.signingTimeResolution.signatureEvaluationTime := by
  intro env context report
  have h := validate_valid_sound env (resolvePolicy context) context [7] []
  have hvalid : report.decision.overallStatus = .valid := by decide
  have htrusted : report.signingTimeResolution.trustedTime = true := by decide
  exact ⟨h.1 hvalid, (h.2 htrusted).2.2.2⟩

/-- A signature without any timestamp is valid under the policy that requires a
trusted signing time. -/
theorem valid_without_required_time :
    (resolvePolicy (legalContext [])).policy.requireTrustedSigningTime = true ∧
    (validate (grantingEnv "") (legalContext []) [7] []).decision.overallStatus = .valid ∧
    (validate (grantingEnv "") (legalContext []) [7] []).signingTimeResolution.trustedTime
      = false := by
  refine ⟨by decide, by decide, by decide⟩

/-! ### The claimed time and historical trust -/

/-- What a run says about historical trust. -/
structure HistoricalOutcome where
  snapshot : Snapshot
  pathStatus : ChainStatus
  pathTrusted : Bool
  usesHistorical : Bool
  deriving DecidableEq, Repr

section Claimed

variable {Cert Resp Crl : Type} (E : ValidationEnv Cert Resp Crl)

/-- What a validation at this moment rests on. -/
def outcomeAt (resolved : ResolvedValidationPolicy) (context : ValidationContext) (signer : Der)
    (embedded : List Der) (evaluationTime : String) : HistoricalOutcome :=
  let selection := pathSelect (pathResults E.revocation.certs
    (pathInput E resolved context signer embedded evaluationTime)) resolved.policy
  let trusted := selection.selectedIndex.isSome && selection.selectedResult.trusted
  { snapshot := snapshotStage E resolved context evaluationTime
    pathStatus := selection.selectedResult.status
    pathTrusted := trusted
    usesHistorical := trusted && selection.selectedResult.usesHistoricalTrust }

def historicalOutcome (context : ValidationContext) (signer : Der) (embedded : List Der) :
    HistoricalOutcome :=
  outcomeAt E (resolvePolicy context) context signer embedded
    (validate E context signer embedded).signingTimeResolution.signatureEvaluationTime

/-- The same call with another claimed time. -/
def ValidationContext.claiming (context : ValidationContext) (time : String) : ValidationContext :=
  { context with claimedSigningTime := time }

/-- The outcome is that of the run: the path is the one it selects, and the trust service is looked
up in the snapshot. -/
theorem historicalOutcome_of_run (context : ValidationContext) (signer : Der) (embedded : List Der) :
    let report := validate E context signer embedded
    let outcome := historicalOutcome E context signer embedded
    outcome.pathStatus = report.pathSelection.selectedResult.status ∧
    outcome.pathTrusted = (report.pathSelection.selectedIndex.isSome &&
      report.pathSelection.selectedResult.trusted) ∧
    outcome.usesHistorical = (outcome.pathTrusted &&
      report.pathSelection.selectedResult.usesHistoricalTrust) ∧
    report.trustService = trustServiceStage E context signer outcome.snapshot :=
  ⟨rfl, rfl, rfl, rfl⟩

variable {E}

theorem outcomeAt_congr {resolved : ResolvedValidationPolicy} {context : ValidationContext}
    {signer : Der} {embedded : List Der} {t t' : String}
    (hparse : parseIso8601Time t = parseIso8601Time t') (hsnap : SameSnapshotReference t t') :
    outcomeAt E resolved context signer embedded t
      = outcomeAt E resolved context signer embedded t' := by
  have hpaths : pathResults E.revocation.certs (pathInput E resolved context signer embedded t)
      = pathResults E.revocation.certs (pathInput E resolved context signer embedded t') :=
    @pathResults_congr _ E.revocation.certs (pathInput E resolved context signer embedded "") _ _
      hparse
  simp only [outcomeAt, hpaths, snapshotStage, selectSnapshot_congr hsnap]

theorem historicalOutcome_of_untrusted {context : ValidationContext} {signer : Der}
    {embedded : List Der}
    (h : (validate E context signer embedded).signingTimeResolution.trustedTime = false) :
    historicalOutcome E context signer embedded
      = outcomeAt E (resolvePolicy context) context signer embedded (fallbackTime context) := by
  obtain ⟨hsome, htime⟩ := @signingTimeStage_spec _ _ _ E (resolvePolicy context) context embedded
  have hnone : provedTime E (resolvePolicy context) context embedded = none := by
    rw [← Option.isNone_iff_eq_none, ← Option.not_isSome, ← hsome]
    have : (signingTimeStage E (resolvePolicy context) context embedded).trustedTime = false := h
    rw [this]
    rfl
  rw [hnone, Option.getD_none] at htime
  show outcomeAt E _ context signer embedded
    (signingTimeStage E (resolvePolicy context) context embedded).signatureEvaluationTime = _
  rw [htime]

end Claimed

/-- Two claimed times lead to the same historical-trust outcome, whatever the
signature, its evidence, the trust lists and the policy, as long as no run has a
trusted time. -/
def ClaimedTimeIrrelevant (t t' : String) : Prop :=
  ∀ (Cert Resp Crl : Type) (E : ValidationEnv Cert Resp Crl) (context : ValidationContext)
    (signer : Der) (embedded : List Der),
    (validate E (context.claiming t) signer embedded).signingTimeResolution.trustedTime = false →
    (validate E (context.claiming t') signer embedded).signingTimeResolution.trustedTime = false →
    historicalOutcome E (context.claiming t) signer embedded
      = historicalOutcome E (context.claiming t') signer embedded

/-- An environment with a given history of snapshots and given certificates. -/
def probeEnv (certs : CertOracle Der) (history : List DirEntry) : ValidationEnv Der Der Der where
  revocation := { contradictingResponses with certs := certs }
  loadCertificatesFromDir := fun _ => [[9]]
  historyDir := fun _ => some history
  relativePath := fun _ _ => none
  readTrustListXml := fun _ _ => ""
  parseTrustList := fun _ => {}
  timestampEngine := fun _ => {}
  loadCrlsFromWorkDir := fun _ _ => []

theorem untrusted_of_no_cms {Cert Resp Crl : Type} {E : ValidationEnv Cert Resp Crl}
    {context : ValidationContext} {signer : Der} {embedded : List Der} (h : context.cmsDer = []) :
    (validate E context signer embedded).signingTimeResolution.trustedTime = false := by
  refine (@signingTimeStage_spec _ _ _ E (resolvePolicy context) context embedded).1.trans ?_
  simp [provedTime, timestampAttempted, h]

/-- What irrelevance means for the outcomes of two probes. -/
theorem ClaimedTimeIrrelevant.outcome {t t' : String} (h : ClaimedTimeIrrelevant t t')
    (certs : CertOracle Der) (history : List DirEntry) (context : ValidationContext)
    (hcms : context.cmsDer = []) :
    outcomeAt (probeEnv certs history) (resolvePolicy context) context [7] []
        (if t = "" then context.verificationTime else t)
      = outcomeAt (probeEnv certs history) (resolvePolicy context) context [7] []
        (if t' = "" then context.verificationTime else t') := by
  have hun : ∀ time, (validate (probeEnv certs history) (context.claiming time) [7]
      []).signingTimeResolution.trustedTime = false := fun _ => untrusted_of_no_cms hcms
  have heq := h Der Der Der (probeEnv certs history) context [7] [] (hun t) (hun t')
  rw [historicalOutcome_of_untrusted (hun t), historicalOutcome_of_untrusted (hun t')] at heq
  exact heq

theorem ClaimedTimeIrrelevant.snapshot {t t' : String} (h : ClaimedTimeIrrelevant t t')
    (history : List DirEntry) (v : String) :
    selectSnapshot (some history) (if t = "" then v else t) false
      = selectSnapshot (some history) (if t' = "" then v else t') false :=
  congrArg HistoricalOutcome.snapshot (h.outcome contradictingResponses.certs history
    { profile := .ukraineLegal, level := .standard, verificationTime := v } rfl)

def validOnlyAt (now instant : Int) : CertOracle Der :=
  { contradictingResponses.certs with
    checkValidityWithDate := fun _ time => time == instant
    now := now }

theorem isValidAt_validOnlyAt (now instant : Int) (c : Der) (t : String) :
    isValidAt (validOnlyAt now instant) c t = true ↔
      (parseIso8601Time t).getD now = instant := by
  unfold isValidAt
  cases parseIso8601Time t <;> simp [validOnlyAt]

def strictChain (t : String) : CertificateChainInput :=
  { signerCertificateDer := [7]
    intermediateCertificatesDer := [[9]]
    trustAnchorsDer := [[9]]
    trustAnchorSource := "current-tl"
    validationTime := t }

theorem strictChain_trusted (now instant : Int) (t : String) :
    (chainValidate (validOnlyAt now instant) (strictChain t)).trusted = true ↔
      (parseIso8601Time t).getD now = instant := by
  rw [chainValidate_trusted_iff_path]
  constructor
  · rintro ⟨signer, -, cs, anchor, hpath⟩
    exact (isValidAt_validOnlyAt now instant _ t).mp (hpath.validAt signer List.mem_cons_self)
  intro h
  have hvalid := fun c => (isValidAt_validOnlyAt now instant c t).mpr h
  exact ⟨⟨[7], [7], "signer", rfl⟩, rfl, [], ⟨[9], [9], "current-tl", rfl⟩,
    { candidates := by simp
      anchored := List.mem_cons_self
      linked := .cons_cons rfl (.singleton _)
      validAt := fun c _ => hvalid c.certificate
      fit := fun i hi => absurd hi (by simp) }⟩

def strictContext : ValidationContext :=
  { profile := .strict, level := .standard, workDir := "w" }

theorem outcomeAt_strict (certs : CertOracle Der) (t : String) :
    (outcomeAt (probeEnv certs []) (resolvePolicy strictContext) strictContext [7] []
      t).pathTrusted = (chainValidate certs (strictChain t)).trusted := by
  set input := pathInput (probeEnv certs []) (resolvePolicy strictContext) strictContext [7] [] t
  set r := pathValidate certs (makeCandidate input "current-tl" "current-tl" [[9]] false) with hr
  have hres : pathResults certs input = [r] := rfl
  have hallowed : isAuthoritativeCandidateAllowed r (resolvePolicy strictContext).policy = true :=
    rfl
  obtain ⟨hindex, hselected⟩ := pathSelect_singleton hallowed
  show ((pathSelect (pathResults certs input) (resolvePolicy strictContext).policy).selectedIndex.isSome
    && (pathSelect (pathResults certs input)
      (resolvePolicy strictContext).policy).selectedResult.trusted) = _
  rw [hres, hindex, hselected]
  rfl

theorem ClaimedTimeIrrelevant.chain {t t' : String} (h : ClaimedTimeIrrelevant t t')
    (ht : t ≠ "") (ht' : t' ≠ "") (now instant : Int) :
    (parseIso8601Time t).getD now = instant ↔ (parseIso8601Time t').getD now = instant := by
  have hout := congrArg HistoricalOutcome.pathTrusted
    (h.outcome (validOnlyAt now instant) [] strictContext rfl)
  rw [if_neg ht, if_neg ht', outcomeAt_strict, outcomeAt_strict] at hout
  rw [← strictChain_trusted, ← strictChain_trusted, hout]

theorem eq_of_getD_eq {a b : Option Int}
    (h : ∀ now instant : Int, a.getD now = instant ↔ b.getD now = instant) : a = b := by
  cases a with
  | none =>
    cases b with
    | none => rfl
    | some y =>
      have hy : y + 1 = y := (h (y + 1) y).mpr rfl
      omega
  | some x =>
    cases b with
    | none =>
      have hx : x + 1 = x := (h (x + 1) x).mp rfl
      omega
    | some y => simpa [eq_comm] using h 0 x

def someMonth : List Char := "2024-01".toList

theorem ClaimedTimeIrrelevant.ne_empty {t : String} (h : ClaimedTimeIrrelevant "" t) : t = "" := by
  by_contra ht
  have hsnap := fun v => h.snapshot [monthEntry someMonth] v
  have hsingle := fun s => @selectSnapshot_single someMonth (by decide) (by decide) s
  simp only [if_true, if_neg ht, hsingle] at hsnap
  by_cases hshort : t.toList.length < 7
  · have := hsnap "2024-01"
    rw [if_pos hshort, if_neg (by decide)] at this
    exact absurd this (by simp)
  · have := hsnap ""
    rw [if_neg hshort, if_pos (by decide)] at this
    exact absurd this (by simp)

theorem ClaimedTimeIrrelevant.symm {t t' : String} (h : ClaimedTimeIrrelevant t t') :
    ClaimedTimeIrrelevant t' t :=
  fun Cert Resp Crl E context signer embedded h' h'' =>
    (h Cert Resp Crl E context signer embedded h'' h').symm

theorem ClaimedTimeIrrelevant.sameSnapshotReference {t t' : String}
    (h : ClaimedTimeIrrelevant t t') (ht : t ≠ "") (ht' : t' ≠ "") :
    SameSnapshotReference t t' := by
  have hsnap := fun history => h.snapshot history ""
  simp only [if_neg ht, if_neg ht'] at hsnap
  have hshort : t.toList.length < 7 ↔ t'.toList.length < 7 := by
    have := hsnap [monthEntry someMonth]
    rw [selectSnapshot_single (by decide) (by decide), selectSnapshot_single (by decide)
      (by decide)] at this
    by_cases h1 : t.toList.length < 7 <;> by_cases h2 : t'.toList.length < 7 <;>
      simp [h1, h2] at this ⊢
  refine ⟨hshort, ?_⟩
  intro hlong older month holder hold hlen hmonth hlt
  have hlong' : 7 ≤ t'.toList.length := Nat.not_lt.mp fun hc => absurd (hshort.mpr hc) (by omega)
  have := hsnap [monthEntry older, monthEntry month]
  rw [selectSnapshot_pair holder hold hlen hmonth hlt hlong,
    selectSnapshot_pair holder hold hlen hmonth hlt hlong', Snapshot.history.injEq] at this
  by_cases h1 : month ≤ t.toList.take 7 <;> by_cases h2 : month ≤ t'.toList.take 7
  · simp [h1, h2]
  · rw [if_pos h1, if_neg h2] at this
    exact absurd (snapshotName_injective hlen hmonth holder hold this) hlt.ne'
  · rw [if_neg h1, if_pos h2] at this
    exact absurd (snapshotName_injective holder hold hlen hmonth this) hlt.ne
  · simp [h1, h2]

/-- **Which claimed times decide historical trust.**  Two claimed times never change the
historical-trust outcome of runs without a trusted time exactly when they are equal, or both are
present, denote the same instant and cannot be told apart by any history of trust-list snapshots. -/
theorem claimed_time_noninterference_iff (t t' : String) : ClaimedTimeIrrelevant t t' ↔
      t = t' ∨ (t ≠ "" ∧ t' ≠ "" ∧ parseIso8601Time t = parseIso8601Time t' ∧
        SameSnapshotReference t t') := by
  constructor
  · intro h
    by_cases ht : t = ""
    · left
      rw [ht] at h ⊢
      exact h.ne_empty.symm
    by_cases ht' : t' = ""
    · left
      rw [ht'] at h ⊢
      exact h.symm.ne_empty
    exact .inr ⟨ht, ht', eq_of_getD_eq (h.chain ht ht'), h.sameSnapshotReference ht ht'⟩
  · rintro (rfl | ⟨ht, ht', hparse, hsnap⟩) Cert Resp Crl E context signer embedded hun hun'
    · rfl
    · rw [historicalOutcome_of_untrusted hun, historicalOutcome_of_untrusted hun']
      have h1 : fallbackTime (context.claiming t) = t := if_neg ht
      have h2 : fallbackTime (context.claiming t') = t' := if_neg ht'
      rw [h1, h2]
      exact outcomeAt_congr hparse hsnap

/-- One signature under one policy and the same trust lists, claimed to be made in January 2024 or
in June: neither time is proved, and each selects its own trust list. -/
theorem claimed_time_selects_trust_list :
    ∃ (E : ValidationEnv Der Der Der) (context : ValidationContext) (signer : Der),
      (validate E (context.claiming "2024-01-10T00:00:00Z") signer
        []).signingTimeResolution.trustedTime = false ∧
      (validate E (context.claiming "2024-06-10T00:00:00Z") signer
        []).signingTimeResolution.trustedTime = false ∧
      (historicalOutcome E (context.claiming "2024-01-10T00:00:00Z") signer []).snapshot
        = .history "TL-UA-EC-2024-01.xml" ∧
      (historicalOutcome E (context.claiming "2024-06-10T00:00:00Z") signer []).snapshot
        = .history "TL-UA-EC-2024-05.xml" := by
  refine ⟨probeEnv contradictingResponses.certs
    [{ filename := "TL-UA-EC-2024-01.xml" }, { filename := "TL-UA-EC-2024-05.xml" }],
    { profile := .ukraineLegal, level := .standard }, [7], ?_, ?_, ?_, ?_⟩
  · exact untrusted_of_no_cms rfl
  · exact untrusted_of_no_cms rfl
  · decide
  · decide

end Tamga.Validation
