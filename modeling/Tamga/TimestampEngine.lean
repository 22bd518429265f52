/-
The verdict on a timestamp token (`TimestampEngine::Validate`).

The token is checked cryptographically, then its time, the path, the extended key usage,
the issuer and the revocation of the TSA certificate.  Each stage returns at once when it
refuses; a refusal for want of revocation evidence can still be acceptable to a soft
policy.

* `timestampValidate_verdict` — the three ways in which the engine ends;
* `timestampValidate_sound` — what a valid and what a softly accepted token has passed.
-/
import Tamga.ValidationEngine

namespace Tamga.Validation

open Policy IsoTime

/-- What `ExtractTimestampToken` returns. -/
structure TokenExtraction where
  success : Bool := false
  failureCode : String := ""
  message : String := ""
  tokenDer : Der := []

/-- What `ValidateTimestampToken` returns. -/
structure TokenValidation where
  valid : Bool := false
  failureCode : String := ""
  message : String := ""
  genTime : String := ""
  tsaCertificateDer : Der := []
  embeddedCertificatesDer : List Der := []

structure TimestampOracle (Cert Resp Crl : Type) where
  revocation : RevocationOracle Cert Resp Crl
  getSignatureValue : Der → Except String Bytes
  extractTimestampToken : Der → TokenExtraction
  /-- `ValidateTimestampToken` on a token, the data it is for and the candidates for the
  certificate of the TSA. -/
  validateTimestampToken : Der → Bytes → List Der → TokenValidation
  /-- Whether the issuer name of the first certificate is the subject name of the second. -/
  issuerNameMatches : Cert → Cert → Bool
  /-- `HasTimestampingEku` on a certificate that can be decoded. -/
  hasTimestampingEku : Cert → Bool
  /-- `ResolveTsaOcspUrl` for the TSA certificate, its issuer and the work directory. -/
  resolveTsaOcspUrl : Der → Der → String → String
  /-- `std::filesystem::path::parent_path`. -/
  parentPath : String → String
  loadCrlsFromWorkDir : String → List Der
  /-- The cached lists after those of a certificate have been downloaded. -/
  downloadedCrls : String → Der → List Der

def appendUnique (output values : List Der) : List Der :=
  values.foldl (fun out value => if value ≠ [] ∧ value ∉ out then out ++ [value] else out) output

/-- The pool from which the certificate of the TSA may come. -/
def certificateCandidates (input : TimestampEngineInput) : List Der :=
  [input.intermediateStoreCertificatesDer, input.tsaTrustAnchorsDer, input.currentTrustAnchorsDer,
    input.historicalTsaTrustAnchorsDer, input.historicalTrustAnchorsDer,
    input.customTrustAnchorsDer, input.pinnedTrustAnchorsDer].foldl appendUnique
    input.additionalTsaCandidateCertificatesDer

section Stages

variable {Cert Resp Crl : Type} (T : TimestampOracle Cert Resp Crl) (input : TimestampEngineInput)

def findVerifiedTsaIssuer (tsaDer : Der) (candidates : List Der) : Der :=
  findVerifiedIssuerImpl T.revocation.certs T.issuerNameMatches tsaDer candidates

/-- The token that is judged, or the result where there is none. -/
def tokenStage : Except TimestampEngineResult TokenValidation :=
  if input.explicitTimestampTokenDer ≠ [] then
    if input.explicitTimestampImprintSource = [] then
      .error { status := .unsupported
               reasonCode := "TIMESTAMP_IMPRINT_SOURCE_MISSING"
               because := ["Помилка: explicit timestamp imprint source порожній."] }
    else .ok (T.validateTimestampToken input.explicitTimestampTokenDer
      input.explicitTimestampImprintSource (certificateCandidates input))
  else if input.cmsDer = [] then
    .error { status := .unsupported
             reasonCode := "TIMESTAMP_FORMAT_INVALID"
             because := ["Помилка: CMS порожній."] }
  else match T.getSignatureValue input.cmsDer with
  | .error e =>
    .error { status := .unsupported
             reasonCode := "TIMESTAMP_SIGNATURE_VALUE_MISSING"
             because := ["Не вдалося вилучити значення підпису: " ++ e] }
  | .ok signatureValue =>
    let extracted := T.extractTimestampToken input.cmsDer
    if extracted.success = false then
      .error { status :=
                 if extracted.failureCode = "TIMESTAMP_MISSING" then .missing else .invalidSignature
               reasonCode := extracted.failureCode
               because := ["Не вдалося вилучити мітку часу: " ++ extracted.message] }
    else .ok (T.validateTimestampToken extracted.tokenDer signatureValue
      (certificateCandidates input))

def cryptoFailureStatus (failureCode : String) : TimestampStatus :=
  if failureCode = "TIMESTAMP_IMPRINT_MISMATCH" then .invalidImprint
  else if failureCode = "TIMESTAMP_IMPRINT_UNSUPPORTED" ∨ failureCode = "TIMESTAMP_UNSUPPORTED" then
    .unsupported
  else if failureCode = "TSA_CERTIFICATE_MISSING" then .untrustedTsa
  else .invalidSignature

/-- The end of a stage that refuses the token. -/
def TimestampEngineResult.refused (result : TimestampEngineResult) (status : TimestampStatus)
    (reasonCode because : String) : TimestampEngineResult :=
  { result with
    status := status
    reasonCode := reasonCode
    because := result.because ++ [because] }

def softPolicy : Bool :=
  !input.policy.revocationHardFail && !input.policy.requireTrustedSigningTime

/-- The list of the trust list in which the TSA certificate itself stands, and whether it
is a historical one. -/
def directMatch (tsaDer : Der) : Option (String × Bool) :=
  if input.policy.trustAnchorPolicy = .customTrustStore ∨
      input.policy.trustAnchorPolicy = .pinnedAnchors ∨ tsaDer = [] then none
  else if tsaDer ∈ input.tsaTrustAnchorsDer then some ("current-tl", false)
  else if input.policy.allowHistoricalTrust ∧ tsaDer ∈ input.historicalTsaTrustAnchorsDer then
    some ("historical-tl", true)
  else none

def tsaPathInput (v : TokenValidation) (validationTime : String) : PathBuilderInput where
  signerCertificateDer := v.tsaCertificateDer
  embeddedCertificatesDer :=
    appendUnique v.embeddedCertificatesDer input.additionalTsaCandidateCertificatesDer
  intermediateStoreCertificatesDer := input.intermediateStoreCertificatesDer
  currentTrustAnchorsDer := input.tsaTrustAnchorsDer ++ input.currentTrustAnchorsDer
  historicalTrustAnchorsDer :=
    input.historicalTsaTrustAnchorsDer ++ input.historicalTrustAnchorsDer
  customTrustAnchorsDer := input.customTrustAnchorsDer
  pinnedTrustAnchorsDer := input.pinnedTrustAnchorsDer
  policy := input.policy
  validationTime := validationTime

variable (v : TokenValidation) (result : TimestampEngineResult)

/-- What the revocation engine is asked about the TSA certificate, without the network. -/
def tsaRevocationInput (workDir : String) : RevocationEngineInput where
  certificateDer := v.tsaCertificateDer
  issuerCertificateDer := result.tsaIssuerCertificateDer
  role := .tsa
  validationTime := result.validationTime
  networkAllowed := false
  revocationHardFail := input.policy.revocationHardFail
  crlsDer :=
    if workDir = "" then input.embeddedCrlsDer
    else appendUnique input.embeddedCrlsDer (T.loadCrlsFromWorkDir workDir)
  embeddedOcspResponsesDer := input.embeddedOcspResponsesDer
  ocspUrl := T.resolveTsaOcspUrl v.tsaCertificateDer result.tsaIssuerCertificateDer workDir

/-- The revocation of the TSA certificate; the network is asked where the evidence at hand
leaves the question open. -/
def tsaRevocation : RevocationEngineResult :=
  let workDir := if input.plan.trustStorePath = "" then "" else T.parentPath input.plan.trustStorePath
  let request := tsaRevocationInput T input v result workDir
  let first := revocationValidate T.revocation request
  if first.overallStatus = .indeterminate ∧ input.plan.networkAllowed then
    revocationValidate T.revocation { request with
      networkAllowed := true
      crlsDer :=
        if workDir = "" then request.crlsDer
        else appendUnique request.crlsDer (T.downloadedCrls workDir v.tsaCertificateDer) }
  else first

def unconfirmedReason : RevocationStatus → String
  | .stale => "TSA_REVOCATION_STALE"
  | .invalid => "TSA_REVOCATION_INVALID"
  | .responderUnavailable => "TSA_RESPONDER_UNAVAILABLE"
  | _ => "TSA_REVOCATION_UNKNOWN"

def judgeRevocation : TimestampEngineResult :=
  let revocation := tsaRevocation T input v result
  let result := { result with
    revocationStatus := revocation.revocationStatus
    ocspAttempted := revocation.ocspAttempted
    crlAttempted := revocation.crlAttempted
    revocationChecked := revocation.ocspAttempted || revocation.crlAttempted
    because := result.because ++ revocation.because
    warnings := result.warnings ++ revocation.warnings
    limitations := result.limitations ++ revocation.limitations
    evidenceIds := result.evidenceIds ++ revocation.evidenceIds }
  if revocation.overallStatus = .invalid then
    result.refused .untrustedTsa
      (if revocation.revocationStatus = .revoked then "TSA_REVOKED" else "TSA_REVOCATION_INVALID")
      "Сертифікат TSA був відкликаний."
  else if revocation.overallStatus ≠ .valid then
    { result.refused .untrustedTsa (unconfirmedReason revocation.revocationStatus)
        "Статус відкликання TSA не підтверджено; м'яка policy не робить час довіреним." with
      policyAcceptable := softPolicy input }
  else
    { result.refused .valid "TIMESTAMP_VALID" "Мітка часу RFC3161 є валідною." with
      valid := true
      policyAcceptable := true }

variable (selection : PathSelection) (direct : Option (String × Bool))

def issuerCandidates : List Der :=
  let fromPath := if selection.selectedResult.signerIssuerCertificateDer = [] then []
    else [selection.selectedResult.signerIssuerCertificateDer]
  appendUnique (appendUnique fromPath v.embeddedCertificatesDer) (certificateCandidates input)

/-- The issuer of the TSA certificate, without which there is no revocation check. -/
def judgeIssuer
    (result : TimestampEngineResult) : TimestampEngineResult :=
  let issuer := findVerifiedTsaIssuer T v.tsaCertificateDer (issuerCandidates input v selection)
  let result := { result with tsaIssuerCertificateDer := issuer }
  if issuer = [] then
    { result.refused .untrustedTsa "TSA_ISSUER_MISSING"
        "Не знайдено криптографічно підтвердженого видавця TSA для перевірки відкликання." with
      policyAcceptable := softPolicy input }
  else judgeRevocation T input v result

def judgeEku (result : TimestampEngineResult) : TimestampEngineResult :=
  let hasEku := ((decodeCertificateDer T.revocation.certs v.tsaCertificateDer).map
    T.hasTimestampingEku).getD false
  if hasEku = false then
    result.refused .untrustedTsa "TSA_EKU_INVALID"
      "Сертифікат TSA не містить розширення EKU для Timestamping (1.3.6.1.5.5.7.3.8)."
  else judgeIssuer T input v selection { result with ekuValid := true }

def matchedDirectly (result : TimestampEngineResult) :
    TimestampEngineResult :=
  match direct with
  | none => result
  | some (source, historical) => { result with
      trustSource := source
      historicalTrustUsed := historical
      because := result.because ++
        ["TSA сертифікат збігається з endpoint-сертифікатом у списку довіри (TL direct-match)."] }

/-- The trust in the TSA certificate that its path gives. -/
def trustedBy (selected : PathValidationResult)
    (result : TimestampEngineResult) : TimestampEngineResult :=
  let (source, historical) :=
    direct.getD (selected.trustAnchorSource, selected.usesHistoricalTrust)
  { result with
    trustValid := true
    trustSource := source
    historicalTrustUsed := historical
    warnings :=
      if historical then result.warnings ++ ["TSA_HISTORICAL_TRUST_USED"] else result.warnings }

/-- The path of the TSA certificate, unless it stands in the trust list itself. -/
def judgePath : TimestampEngineResult :=
  let direct := directMatch input v.tsaCertificateDer
  let result := matchedDirectly direct result
  let request := tsaPathInput input v result.validationTime
  if pathBuild request = [] ∧ direct.isNone then
    result.refused .untrustedTsa "TSA_UNTRUSTED"
      "Не вдалося побудувати ланцюжок для сертифіката TSA (немає кандидатів)."
  else
    let selection := pathSelect (pathResults T.revocation.certs request) input.policy
    if direct.isNone ∧ selection.selectedResult.status = .expired then
      result.refused .tsaExpired "TSA_CHAIN_TIME_INVALID"
        "Сертифікат TSA або один із сертифікатів ланцюжка протерміновано на момент мітки часу."
    else if direct.isNone ∧
        (selection.selectedIndex.isNone ∨ selection.selectedResult.trusted = false) then
      result.refused .untrustedTsa "TSA_UNTRUSTED"
        ("Сертифікат TSA не є довіреним: " ++ selection.selectedResult.message)
    else judgeEku T input v selection (trustedBy direct selection.selectedResult result)

/-- The time of the token, and whether the TSA certificate is valid then. -/
def judgeTime : TimestampEngineResult :=
  match normalizeTimestampTime v.genTime with
  | none => result.refused .invalidSignature "TIMESTAMP_TIME_INVALID"
      "genTime мітки не є коректним UTC GeneralizedTime; поточний час не підставляється."
  | some time =>
    let result := { result with genTimeValid := true, validationTime := time }
    let validAt := ((decodeCertificateDer T.revocation.certs v.tsaCertificateDer).map fun c =>
      isValidAt T.revocation.certs c time).getD false
    if validAt = false then
      result.refused .tsaExpired "TSA_CERTIFICATE_TIME_INVALID"
        "Сертифікат TSA не є чинним на момент мітки часу."
    else judgePath T input v { result with certificateTimeValid := true }

def judgeToken (v : TokenValidation) : TimestampEngineResult :=
  let result : TimestampEngineResult := { genTime := v.genTime }
  if v.valid = false then
    result.refused (cryptoFailureStatus v.failureCode) v.failureCode
      ("Криптографічна перевірка мітки часу завершилася помилкою: " ++ v.message)
  else judgeTime T input v
    { result with cryptoValid := true, tsaCertificateDer := v.tsaCertificateDer }

/-- `TimestampEngine::Validate`. -/
def timestampValidate : TimestampEngineResult :=
  match tokenStage T input with
  | .error result => result
  | .ok v => judgeToken T input v

/-! ### What the verdict rests on -/

variable {T input v result} {time : String} {tsa : Cert}

/-- The ways in which the certificate of the TSA is trusted under the policy. -/
inductive TrustedTsa (T : TimestampOracle Cert Resp Crl) (input : TimestampEngineInput)
    (v : TokenValidation) (time : String) : Prop
  | listed (hown : input.policy.trustAnchorPolicy ≠ .customTrustStore ∧
        input.policy.trustAnchorPolicy ≠ .pinnedAnchors)
      (hmem : v.tsaCertificateDer ∈ input.tsaTrustAnchorsDer)
  | historical (hown : input.policy.trustAnchorPolicy ≠ .customTrustStore ∧
        input.policy.trustAnchorPolicy ≠ .pinnedAnchors)
      (hallowed : input.policy.allowHistoricalTrust = true)
      (hmem : v.tsaCertificateDer ∈ input.historicalTsaTrustAnchorsDer)
  | path (c : PathCandidate) (hc : c ∈ pathBuild (tsaPathInput input v time))
      (hallowed : c.usesHistoricalTrust = true → input.policy.allowHistoricalTrust = true)
      (htrusted : (pathValidate T.revocation.certs c).trusted = true)

variable (T input v time tsa) in
/-- What the stages before the search for the issuer have found. -/
structure TokenAdmitted : Prop where
  token : tokenStage T input = .ok v
  crypto : v.valid = true
  genTime : normalizeTimestampTime v.genTime = some time
  certificate : decodeCertificateDer T.revocation.certs v.tsaCertificateDer = some tsa
  validThen : isValidAt T.revocation.certs tsa time = true
  trusted : TrustedTsa T input v time
  eku : T.hasTimestampingEku tsa = true

variable (T tsa) in
/-- The certificate is that of the issuer: by its name, and its key verifies the TSA's. -/
def VerifiedTsaIssuer (issuerDer : Der) : Prop :=
  ∃ issuer, decodeCertificateDer T.revocation.certs issuerDer = some issuer ∧
    T.issuerNameMatches tsa issuer = true ∧ T.revocation.certs.verifyByIssuer tsa issuer = true

variable (T input v time) in
def tsaOverallStatus (issuerDer : Der) : OverallStatus :=
  (tsaRevocation T input v
    { validationTime := time, tsaIssuerCertificateDer := issuerDer }).overallStatus

/-- The three ways in which the engine ends. -/
inductive TimestampVerdict (T : TimestampOracle Cert Resp Crl) (input : TimestampEngineInput)
    (result : TimestampEngineResult) : Prop
  | refused (hvalid : result.valid = false) (hacceptable : result.policyAcceptable = false)
  | unconfirmed {v : TokenValidation} {time : String} {tsa : Cert}
      (hadmitted : TokenAdmitted T input v time tsa)
      (hmissing : result.tsaIssuerCertificateDer = [] ∨
        VerifiedTsaIssuer T tsa result.tsaIssuerCertificateDer ∧
          tsaOverallStatus T input v time result.tsaIssuerCertificateDer ≠ .valid ∧
          tsaOverallStatus T input v time result.tsaIssuerCertificateDer ≠ .invalid)
      (hvalid : result.valid = false) (hacceptable : result.policyAcceptable = softPolicy input)
  | confirmed {v : TokenValidation} {time : String} {tsa : Cert}
      (hadmitted : TokenAdmitted T input v time tsa)
      (hissuer : VerifiedTsaIssuer T tsa result.tsaIssuerCertificateDer)
      (hrevocation : tsaOverallStatus T input v time result.tsaIssuerCertificateDer = .valid)
      (hvalid : result.valid = true)

/-- A result in the middle of the stages. -/
structure Pending (result : TimestampEngineResult) : Prop where
  valid : result.valid = false
  acceptable : result.policyAcceptable = false

theorem Pending.refused (h : Pending result) (status : TimestampStatus) (code because : String) :
    TimestampVerdict T input (result.refused status code because) := .refused h.1 h.2

theorem judgeRevocation_verdict (h : Pending result) (hadmitted : TokenAdmitted T input v time tsa)
    (htime : result.validationTime = time)
    (hissuer : VerifiedTsaIssuer T tsa result.tsaIssuerCertificateDer) :
    TimestampVerdict T input (judgeRevocation T input v result) := by
  have hstatus : (tsaRevocation T input v result).overallStatus =
      tsaOverallStatus T input v time result.tsaIssuerCertificateDer := by
    rw [← htime]
    rfl
  rw [judgeRevocation]
  split
  · exact .refused h.valid h.acceptable
  next hinvalid =>
  rw [hstatus] at hinvalid
  split
  · next hunknown =>
    rw [hstatus] at hunknown
    exact .unconfirmed hadmitted (Or.inr ⟨hissuer, hunknown, hinvalid⟩) h.valid rfl
  · next hvalid =>
    rw [hstatus, not_not] at hvalid
    exact .confirmed hadmitted hissuer hvalid rfl

theorem findVerifiedTsaIssuer_verified {candidates : List Der}
    (htsa : decodeCertificateDer T.revocation.certs v.tsaCertificateDer = some tsa)
    (h : findVerifiedTsaIssuer T v.tsaCertificateDer candidates ≠ []) :
    VerifiedTsaIssuer T tsa (findVerifiedTsaIssuer T v.tsaCertificateDer candidates) := by
  obtain ⟨-, tsa', issuer, htsa', hissuer⟩ := findVerifiedIssuerImpl_spec h
  obtain rfl := Option.some.inj (htsa.symm.trans htsa')
  exact ⟨issuer, hissuer⟩

theorem judgeIssuer_verdict {selection : PathSelection} (h : Pending result)
    (hadmitted : TokenAdmitted T input v time tsa) (htime : result.validationTime = time) :
    TimestampVerdict T input (judgeIssuer T input v selection result) := by
  rw [judgeIssuer]
  split
  · next hnone => exact .unconfirmed hadmitted (Or.inl hnone) h.valid rfl
  · next hsome =>
    exact judgeRevocation_verdict ⟨h.valid, h.acceptable⟩ hadmitted htime
      (findVerifiedTsaIssuer_verified hadmitted.certificate hsome)

theorem judgeEku_verdict {selection : PathSelection} (h : Pending result)
    (hadmitted : T.hasTimestampingEku tsa = true → TokenAdmitted T input v time tsa)
    (htsa : decodeCertificateDer T.revocation.certs v.tsaCertificateDer = some tsa)
    (htime : result.validationTime = time) :
    TimestampVerdict T input (judgeEku T input v selection result) := by
  rw [judgeEku, htsa]
  split
  · exact h.refused _ _ _
  · next heku =>
    exact judgeIssuer_verdict ⟨h.valid, h.acceptable⟩ (hadmitted (Bool.of_not_eq_false heku)) htime

theorem matchedDirectly_pending (h : Pending result) :
    Pending (matchedDirectly direct result) ∧
      (matchedDirectly direct result).validationTime = result.validationTime := by
  cases direct
  · exact ⟨h, rfl⟩
  · exact ⟨⟨h.valid, h.acceptable⟩, rfl⟩

theorem directMatch_trusted {direct : String × Bool}
    (h : directMatch input v.tsaCertificateDer = some direct) : TrustedTsa T input v time := by
  rw [directMatch] at h
  split at h
  · cases h
  · next hown =>
    simp only [not_or] at hown
    split at h
    · next hmem => exact .listed ⟨hown.1, hown.2.1⟩ hmem
    · split at h
      · next hhistorical => exact .historical ⟨hown.1, hown.2.1⟩ hhistorical.1 hhistorical.2
      · cases h

theorem judgePath_verdict (h : Pending result)
    (hadmitted : TrustedTsa T input v time → T.hasTimestampingEku tsa = true →
      TokenAdmitted T input v time tsa)
    (htsa : decodeCertificateDer T.revocation.certs v.tsaCertificateDer = some tsa)
    (htime : result.validationTime = time) :
    TimestampVerdict T input (judgePath T input v result) := by
  obtain ⟨hpending, htime'⟩ := matchedDirectly_pending (directMatch input v.tsaCertificateDer) h
  rw [htime] at htime'
  rw [judgePath]
  dsimp only
  rw [htime']
  split
  · exact hpending.refused _ _ _
  split
  · exact hpending.refused _ _ _
  split
  · exact hpending.refused _ _ _
  next htrust =>
  refine judgeEku_verdict ⟨hpending.valid, hpending.acceptable⟩ (hadmitted ?_) htsa htime'
  cases hdirect : directMatch input v.tsaCertificateDer with
  | some direct => exact directMatch_trusted hdirect
  | none =>
    -- without a direct match the selected path is trusted
    simp only [hdirect, Option.isNone_none, true_and, not_or, Bool.not_eq_false] at htrust
    obtain ⟨hindex, htrusted⟩ := htrust
    rw [Option.isNone_iff_eq_none] at hindex
    obtain ⟨i, hi⟩ := Option.ne_none_iff_exists'.mp hindex
    obtain ⟨c, hc, hselected, -, -, hallowed⟩ :=
      selectedPath_sound T.revocation.certs (tsaPathInput input v time) hi
    exact .path c hc hallowed (hselected ▸ htrusted)

theorem judgeTime_verdict (h : Pending result) (htoken : tokenStage T input = .ok v)
    (hcrypto : v.valid = true) : TimestampVerdict T input (judgeTime T input v result) := by
  rw [judgeTime]
  split
  · exact h.refused _ _ _
  next time htime =>
  dsimp only
  cases htsa : decodeCertificateDer T.revocation.certs v.tsaCertificateDer with
  | none => exact .refused h.valid h.acceptable
  | some tsa =>
    split
    · exact .refused h.valid h.acceptable
    · next hvalidAt =>
      refine judgePath_verdict ⟨h.valid, h.acceptable⟩ (fun htrusted heku => ?_) htsa rfl
      exact ⟨htoken, hcrypto, htime, htsa, Bool.of_not_eq_false hvalidAt, htrusted, heku⟩

theorem tokenStage_error (h : tokenStage T input = .error result) : Pending result := by
  rw [tokenStage] at h
  split at h
  · split at h <;> cases h
    exact ⟨rfl, rfl⟩
  split at h
  · cases h
    exact ⟨rfl, rfl⟩
  · split at h
    · cases h
      exact ⟨rfl, rfl⟩
    · dsimp only at h
      split at h <;> cases h
      exact ⟨rfl, rfl⟩

variable (T input) in
theorem timestampValidate_verdict : TimestampVerdict T input (timestampValidate T input) := by
  rw [timestampValidate]
  split
  · next herror => exact .refused (tokenStage_error herror).valid (tokenStage_error herror).acceptable
  · next v htoken =>
    rw [judgeToken]
    split
    · exact .refused rfl rfl
    · next hcrypto => exact judgeTime_verdict ⟨rfl, rfl⟩ htoken (Bool.of_not_eq_false hcrypto)

/-- **What a verdict rests on.**  A valid token was verified, has a readable time at which the TSA
certificate is valid, and that certificate has the key usage, is trusted under the policy, and has a
verified issuer and a positive revocation verdict.  A token that is only acceptable lacks one of the
last two, under a policy that fails softly. -/
theorem timestampValidate_sound (T : TimestampOracle Cert Resp Crl) (input : TimestampEngineInput) :
    ((timestampValidate T input).valid = true → ∃ v time tsa, TokenAdmitted T input v time tsa ∧
      VerifiedTsaIssuer T tsa (timestampValidate T input).tsaIssuerCertificateDer ∧
      tsaOverallStatus T input v time (timestampValidate T input).tsaIssuerCertificateDer =
        .valid) ∧
    ((timestampValidate T input).valid = false →
      (timestampValidate T input).policyAcceptable = true →
      input.policy.revocationHardFail = false ∧ input.policy.requireTrustedSigningTime = false ∧
      ∃ v time tsa, TokenAdmitted T input v time tsa ∧
        ((timestampValidate T input).tsaIssuerCertificateDer = [] ∨
          VerifiedTsaIssuer T tsa (timestampValidate T input).tsaIssuerCertificateDer ∧
          tsaOverallStatus T input v time (timestampValidate T input).tsaIssuerCertificateDer ∉
            [.valid, .invalid])) := by
  cases timestampValidate_verdict T input with
  | refused hvalid hacceptable =>
    rw [hvalid, hacceptable]
    exact ⟨nofun, fun _ => nofun⟩
  | unconfirmed hadmitted hmissing hvalid hacceptable =>
    rw [hvalid, hacceptable]
    refine ⟨nofun, fun _ hsoft => ?_⟩
    obtain ⟨hhard, hrequired⟩ := Bool.and_eq_true_iff.mp hsoft
    refine ⟨Bool.not_eq_true' _ ▸ hhard, Bool.not_eq_true' _ ▸ hrequired, _, _, _, hadmitted, ?_⟩
    simpa using hmissing
  | confirmed hadmitted hissuer hrevocation hvalid =>
    rw [hvalid]
    exact ⟨fun _ => ⟨_, _, _, hadmitted, hissuer, hrevocation⟩, nofun⟩

variable (T input) in
theorem timestampValidate_acceptable (hvalid : (timestampValidate T input).valid = false)
    (hacceptable : (timestampValidate T input).policyAcceptable = true) :
    softPolicy input = true := by
  cases timestampValidate_verdict T input with
  | refused _ hnot => rw [hnot] at hacceptable; cases hacceptable
  | unconfirmed _ _ _ hsoft => rw [← hsoft, hacceptable]
  | confirmed _ _ _ hconfirmed => rw [hvalid] at hconfirmed; cases hconfirmed

end Stages

end Tamga.Validation
