/-
The verdict of the engine and the verdicts that are read off its projection.

`ValidationEngine::Validate` gives its own verdict; the session projects its report into a
`VerifyReport`, from which the policy decision and the summary are computed anew.  The
timestamp engine is the one of `TimestampEngine.lean`.

* `checks_agree_iff` — when the summary and the policy check of one report agree, and
  `malformed_but_valid` a report where they do not;
* `policyDecision_sound` — a positive policy decision is a `Valid` verdict of the engine;
* `summaryCheck_invalid_iff` — what the summary of a `Valid` verdict is invalid for;
* `verdicts_agree_iff` — when the two reports agree.
-/
import Tamga.TimestampEngine
import Tamga.VerifyReport

namespace Tamga.Session

open Policy Validation

/-- The projection of an engine report, as a verification that ran to its end publishes it. -/
def publishedReport (present : Bool) (ve : ValidationReport) : VerifyReport :=
  { projectVerifyReport present ve with hasResult := true, executionSucceeded := true }

structure VerdictsAgree (present : Bool) (ve : ValidationReport) : Prop where
  decision : (computeVerifyPolicyDecision (publishedReport present ve)).valid = true →
    ve.decision.overallStatus = .valid
  summary : ve.decision.overallStatus = .valid →
    (summaryCheck (publishedReport present ve)).status ≠ "invalid"

/-- The token was checked and refused: it is damaged, or a rule for the TSA is violated. -/
def tokenBroken (timestamp : TimestampEngineResult) : Bool :=
  timestamp.reasonCode != "TSA_CERTIFICATE_MISSING" &&
    (isRefusedTsa timestamp.reasonCode || timestamp.status == .invalidImprint ||
      timestamp.status == .invalidSignature || timestamp.status == .unsupported)

/-! ### The two checks of one report -/

section Checks

variable (r : VerifyReport)

/-- A report with a result whose summary is invalid has no positive policy decision: the
policy check is neither `valid` nor `warning`. -/
def ChecksAgree : Prop :=
  r.hasResult = true → (summaryCheck r).status = "invalid" →
    (policyCheck r).status ≠ "valid" ∧ (policyCheck r).status ≠ "warning" ∧
      (computeVerifyPolicyDecision r).valid = false

/-- Nothing among the fields for trust, revocation and timestamps speaks against the
signature. -/
structure NothingAgainst : Prop where
  executed : r.hasResult = true ∧ r.executionSucceeded = true
  signature : r.signatureValid = true
  trust : r.trustChecked = true ∧ r.trustValid = true ∧ TrustStatusAccepted r.trustStatus
  revocation : r.revocationChecked = true ∧
    (r.revocationStatus = "valid" ∨ r.revocationStatus = "good")
  timestamps : TimestampsAccepted r

theorem policyDecision_valid_iff_nothingAgainst :
    (computeVerifyPolicyDecision r).valid = true ↔ NothingAgainst r := by
  rw [policyDecision_valid_iff]
  simp only [policyBaseValid, revocationConfirmed, Bool.and_eq_true, Bool.or_eq_true, beq_iff_eq]
  constructor
  · rintro ⟨⟨⟨⟨⟨⟨⟨hresult, hexec⟩, hsig⟩, hchecked⟩, htrust⟩, hrevocation⟩, hstatus⟩, haccepted, htimes⟩
    exact ⟨⟨hresult, hexec⟩, hsig, ⟨hchecked, htrust, haccepted⟩, ⟨hrevocation, hstatus⟩, htimes⟩
  · rintro ⟨⟨hresult, hexec⟩, hsig, ⟨hchecked, htrust, haccepted⟩, ⟨hrevocation, hstatus⟩, htimes⟩
    exact ⟨⟨⟨⟨⟨⟨⟨hresult, hexec⟩, hsig⟩, hchecked⟩, htrust⟩, hrevocation⟩, hstatus⟩, haccepted, htimes⟩

theorem policyCheck_positive_iff :
    (policyCheck r).status = "valid" ∨ (policyCheck r).status = "warning" ↔
      (computeVerifyPolicyDecision r).valid = true := by
  rw [policyCheck]
  by_cases hvalid : (computeVerifyPolicyDecision r).valid = true
  · rw [if_pos hvalid]
    refine iff_of_true ?_ hvalid
    by_cases hwarning : hasPolicyWarning r = true
    · rw [if_pos hwarning]
      exact .inr rfl
    · rw [if_neg hwarning]
      exact .inl rfl
  · rw [if_neg hvalid]
    refine iff_of_false ?_ hvalid
    cases r.hasResult <;> decide

/-- The summary of a report with a positive decision is invalid for the container only. -/
theorem summaryCheck_invalid_of_decision {r : VerifyReport}
    (h : (computeVerifyPolicyDecision r).valid = true) :
    (summaryCheck r).status = "invalid" ↔
      r.containerMalformed = true ∨ r.containerCoverageComplete = false := by
  obtain ⟨⟨hresult, hexec⟩, hsig, -, -, -⟩ := (policyDecision_valid_iff_nothingAgainst r).mp h
  rw [summaryCheck, if_neg (by simp [hresult]), if_neg (by simp [hexec])]
  by_cases hmalformed : r.containerMalformed = true
  · rw [if_pos hmalformed]
    exact iff_of_true rfl (.inl hmalformed)
  · rw [if_neg hmalformed, if_neg (by simp [hsig])]
    by_cases hcovered : r.containerCoverageComplete = false
    · rw [if_pos hcovered]
      exact iff_of_true rfl (.inr hcovered)
    · rw [if_neg hcovered, if_pos h]
      refine iff_of_false ?_ (not_or.mpr ⟨hmalformed, hcovered⟩)
      cases hasPolicyWarning r <;> decide

/-- **The checks of one report.**  They agree unless the container is malformed or not fully
covered and nothing else speaks against the signature. -/
theorem checks_agree_iff : ChecksAgree r ↔
      (r.containerMalformed = true ∨ r.containerCoverageComplete = false → ¬ NothingAgainst r) := by
  rw [← policyDecision_valid_iff_nothingAgainst]
  constructor
  · intro h hcontainer hvalid
    have hresult := ((policyDecision_valid_iff_nothingAgainst r).mp hvalid).executed.1
    have hinvalid := (summaryCheck_invalid_of_decision hvalid).mpr hcontainer
    rw [(h hresult hinvalid).2.2] at hvalid
    cases hvalid
  · intro h _ hinvalid
    have hnot : ¬ (computeVerifyPolicyDecision r).valid = true := fun hvalid =>
      h ((summaryCheck_invalid_of_decision hvalid).mp hinvalid) hvalid
    have hneither := not_or.mp fun hpositive => hnot ((policyCheck_positive_iff r).mp hpositive)
    exact ⟨hneither.1, hneither.2, Bool.not_eq_true _ ▸ hnot⟩

/-- A report of a container that could not be read, with trusted signer and revocation. -/
def malformedReport : VerifyReport where
  hasResult := true
  executionSucceeded := true
  signatureValid := true
  containerMalformed := true
  trustChecked := true
  trustValid := true
  trustStatus := "trusted"
  revocationChecked := true
  revocationStatus := "valid"

/-- **A malformed container with a valid policy decision.** -/
theorem malformed_but_valid : summaryCheck malformedReport = ⟨"invalid", "CONTAINER_MALFORMED"⟩ ∧
      policyCheck malformedReport = ⟨"valid", "POLICY_VALID"⟩ ∧ ¬ ChecksAgree malformedReport := by
  refine ⟨by decide, by decide, fun h => ?_⟩
  exact (h rfl (by decide)).1 (by decide)

end Checks

/-! ### The fields of the projection -/

section Fields

variable (present : Bool) (ve : ValidationReport)

/-- The trust status after the revocation has been looked at. -/
def projectedTrustStatus : String :=
  if ve.signerRevocation.overallStatus ≠ .valid ∧ ve.signerRevocation.revocationStatus = .invalid
  then "revocation-check-invalid"
  else if ve.signerRevocation.overallStatus ≠ .valid ∧
      ve.signerRevocation.revocationStatus = .revoked then "certificate-revoked"
  else ve.decision.trustStatus

variable (r : VerifyReport)

theorem projectErrorCode_eq : ∃ code, projectErrorCode ve r = { r with errorCode := code } := by
  rw [projectErrorCode]
  repeat' split
  all_goals exact ⟨_, rfl⟩

theorem projectRevocation_eq : ∃ trustValid trustStatus code message,
    projectRevocation ve r = { r with
      trustValid := trustValid
      trustStatus := trustStatus
      errorCode := code
      message := message } := by
  rw [projectRevocation]
  repeat' split
  all_goals exact ⟨_, _, _, _, rfl⟩

theorem projectRevocation_trustStatus :
    (projectRevocation ve (projectTrust present ve)).trustStatus = projectedTrustStatus ve := by
  rw [projectRevocation, projectedTrustStatus]
  repeat' split
  all_goals rfl

theorem applyTimestampDetailsVerdict_eq : ∃ checked valid tsp status,
    applyTimestampDetailsVerdict r = { r with
      timestampChecked := checked
      timestampValid := valid
      tspChecked := tsp
      timestampStatus := status } := by
  rw [applyTimestampDetailsVerdict]
  split <;> exact ⟨_, _, _, _, rfl⟩

theorem projectTimestamp_eq : ∃ checked valid tsp status, projectTimestamp ve r = { r with
      timestampDetails := r.timestampDetails ++
        if ve.timestampAttempted then [projectTimestampResult ve.timestamp] else []
      timestampChecked := checked
      timestampValid := valid
      tspChecked := tsp
      timestampStatus := status } := by
  rw [projectTimestamp]
  split
  · obtain ⟨checked, valid, tsp, status, h⟩ := applyTimestampDetailsVerdict_eq { r with
      timestampDetails := r.timestampDetails ++ [projectTimestampResult ve.timestamp]
      timestampChecked := true
      timestampValid := ve.timestamp.valid
      tspChecked := true
      timestampStatus := timestampStatusString ve.timestamp.status }
    exact ⟨checked, valid, tsp, status, h⟩
  · refine ⟨r.timestampChecked, r.timestampValid, r.tspChecked, "timestamp-not-validated", ?_⟩
    rw [List.append_nil]

theorem timestampStatusString_invalid (status : TimestampStatus) :
    timestampStatusString status = "timestamp-invalid" ↔
      (status == .invalidImprint || status == .invalidSignature || status == .unsupported)
        = true := by
  cases status <;> decide

theorem projectTimestampResult_invalid (timestamp : TimestampEngineResult) :
    (projectTimestampResult timestamp).status = "timestamp-invalid" ↔
      tokenBroken timestamp = true := by
  simp only [projectTimestampResult, tokenBroken]
  split
  next h => simp [h]
  next h =>
    split
    next hrefused => simp [h, hrefused]
    next hrefused => simp [h, hrefused, timestampStatusString_invalid]

theorem projectTimestamp_invalid {r : VerifyReport} (h : r.timestampDetails = []) :
    (projectTimestamp ve r).timestampStatus = "timestamp-invalid" ↔
      ve.timestampAttempted = true ∧ tokenBroken ve.timestamp = true := by
  rw [projectTimestamp]
  split
  next hattempted =>
    rw [applyTimestampDetailsVerdict_status, h, hattempted, ← projectTimestampResult_invalid]
    simp
  next hnot => simp [hnot]

/-- What the decision and the summary read of the published report. -/
structure Published : Prop where
  hasResult : r.hasResult = true
  executionSucceeded : r.executionSucceeded = true
  containerMalformed : r.containerMalformed = false
  containerCoverageComplete : r.containerCoverageComplete = true
  signatureValid : r.signatureValid = ve.decision.signatureValid
  revocationStatus :
    r.revocationStatus = canonicalRevocationStatusString ve.signerRevocation.revocationStatus
  trustStatus : r.trustStatus = projectedTrustStatus ve
  good : r.good ↔ acceptsSigner ve = true
  details : r.timestampDetails =
    if ve.timestampAttempted then [projectTimestampResult ve.timestamp] else []
  timestampInvalid : r.timestampStatus = "timestamp-invalid" ↔
    ve.timestampAttempted = true ∧ tokenBroken ve.timestamp = true

theorem publishedReport_published : Published ve (publishedReport present ve) := by
  have hgood := projectVerifyReport_good ve present
  have htrust := projectRevocation_trustStatus present ve
  obtain ⟨trustValid, trustStatus, code, message, hrevocation⟩ :=
    projectRevocation_eq ve (projectTrust present ve)
  have htimestamp := @projectTimestamp_invalid ve (projectRevocation ve (projectTrust present ve))
    (by rw [hrevocation]; rfl)
  obtain ⟨checked, valid, tsp, status, hproject⟩ :=
    projectTimestamp_eq ve (projectRevocation ve (projectTrust present ve))
  obtain ⟨code', herror⟩ := projectErrorCode_eq ve
    (projectTimestamp ve (projectRevocation ve (projectTrust present ve)))
  rw [hproject] at htimestamp
  rw [projectVerifyReport, herror, hproject] at hgood
  rw [hrevocation] at hgood htrust
  have hreport : projectVerifyReport present ve = _ := herror
  rw [hproject, hrevocation] at hreport
  rw [publishedReport, hreport]
  exact ⟨rfl, rfl, rfl, rfl, rfl, rfl, htrust, hgood, rfl, htimestamp⟩

end Fields

/-! ### The summary of a valid verdict -/

theorem refusedCheck_invalid_iff (r : VerifyReport) : (refusedCheck r).status = "invalid" ↔
      r.revocationStatus = "revoked" ∨ r.trustStatus = "certificate-revoked" ∨
      r.trustStatus = "certificate-time-invalid" ∨
      r.trustStatus = "certificate-chain-time-invalid" ∨
      r.trustStatus = "revocation-check-invalid" ∨ r.trustStatus = "ocsp-response-invalid" ∨
      r.trustStatus = "timestamp-invalid" ∨ r.timestampStatus = "timestamp-invalid" := by
  rw [refusedCheck]
  split
  next h => rcases h with h | h <;> simp [h]
  next h₁ =>
  split
  next h => rcases h with h | h <;> simp [h]
  next h₂ =>
  split
  next h => rcases h with h | h <;> simp [h]
  next h₃ =>
  split
  next h => rcases h with h | h <;> simp [h]
  next h₄ =>
    refine iff_of_false (by simp) ?_
    simp only [not_or] at h₁ h₂ h₃ h₄
    simp [h₁, h₂, h₃, h₄]

/-- Nothing of the evidence speaks against the signature. -/
structure Unopposed (d : DecisionInput) : Prop where
  notRevoked : d.signerRevocation.revocationStatus ≠ .revoked
  usable : d.signerRevocation.revocationStatus ≠ .invalid
  timestamp : d.timestampAttempted = true → tokenBroken d.timestamp = false

theorem synthesizeDecision_signatureValid (d : DecisionInput) :
    (synthesizeDecision d).signatureValid = d.signatureCryptoValid := by
  unfold synthesizeDecision
  repeat' split
  all_goals rfl

theorem trustValid_of_synthesizeDecision {d : DecisionInput}
    (h : (synthesizeDecision d).trustValid = true) : d.trustValid = true := by
  unfold synthesizeDecision at h
  repeat' split at h
  all_goals first | exact h | cases h

theorem synthesizeDecision_trustStatus {d : DecisionInput}
    (h : (synthesizeDecision d).overallStatus = .valid) :
    (synthesizeDecision d).trustStatus = "trusted-anchor-validated" := by
  obtain ⟨hlevel, hsignature, hrevoked, htrust, hopen, hrefused⟩ :=
    (synthesizeDecision_valid_iff d).mp h
  simp [synthesizeDecision, hlevel, hsignature, hrevoked, htrust, hopen, hrefused,
    DecisionInput.conclude, DecisionInput.trustDecision]

theorem canonicalRevocationStatusString_revoked (status : RevocationStatus) :
    canonicalRevocationStatusString status = "revoked" ↔ status = .revoked := by
  cases status <;> decide

/-- The pipeline with the timestamp engine of the source in it. -/
def withTimestampEngine {Cert Resp Crl : Type} (E : ValidationEnv Cert Resp Crl)
    (T : TimestampOracle Cert Resp Crl) : ValidationEnv Cert Resp Crl :=
  { E with timestampEngine := timestampValidate T }

section Engine

variable {Cert Resp Crl : Type} {E : ValidationEnv Cert Resp Crl}
  {resolved : ResolvedValidationPolicy} {context : ValidationContext} {signer : Der}
  {embedded : List Der} {present : Bool}

theorem revocationStage_overall (selection : PathSelection) (time : String) :
    ∃ instant revocationTime,
      (revocationStage E resolved context signer selection time).overallStatus =
        (evidenceVerdict instant
          (revocationStage E resolved context signer selection time).revocationStatus
          revocationTime).getD .indeterminate := by
  rw [revocationStage]
  split
  · exact ⟨_, _, revocationValidate_overall_eq _⟩
  · exact ⟨0, 0, rfl⟩

theorem decisionInput_revocation : ∃ instant revocationTime,
    (decisionInput E resolved context signer embedded).signerRevocation.overallStatus =
      (evidenceVerdict instant
        (decisionInput E resolved context signer embedded).signerRevocation.revocationStatus
        revocationTime).getD .indeterminate :=
  revocationStage_overall _ _

theorem validateWith_signatureValid :
    (validateWith E resolved context signer embedded).decision.signatureValid
      = context.signatureCryptoValid := by
  have h := synthesizeDecision_signatureValid (decisionInput E resolved context signer embedded)
  unfold validateWith
  split
  · exact h
  · exact h

theorem trustValid_of_validateWith
    (h : (validateWith E resolved context signer embedded).decision.trustValid = true) :
    (decisionInput E resolved context signer embedded).trustValid = true := by
  unfold validateWith at h
  split at h
  · exact trustValid_of_synthesizeDecision h
  · exact trustValid_of_synthesizeDecision h

theorem validateWith_trustStatus
    (h : (validateWith E resolved context signer embedded).decision.overallStatus = .valid) :
    (validateWith E resolved context signer embedded).decision.trustStatus
      = "trusted-anchor-validated" := by
  have hstatus := synthesizeDecision_trustStatus (validateWith_overall.symm.trans h)
  unfold validateWith
  split
  · exact hstatus
  · exact hstatus

theorem projectedTrustStatus_unusable
    (h : (decisionInput E resolved context signer embedded).signerRevocation.revocationStatus
      = .invalid) :
    projectedTrustStatus (validateWith E resolved context signer embedded)
      = "revocation-check-invalid" := by
  obtain ⟨instant, time, hoverall⟩ := @decisionInput_revocation _ _ _ E resolved context signer
    embedded
  rw [h] at hoverall
  have hne : (decisionInput E resolved context signer embedded).signerRevocation.overallStatus
      ≠ .valid := by
    rw [hoverall]
    exact OverallStatus.noConfusion
  exact if_pos ⟨hne, h⟩

theorem projectedTrustStatus_of_unopposed
    (h : (validateWith E resolved context signer embedded).decision.overallStatus = .valid)
    (hunopposed : Unopposed (decisionInput E resolved context signer embedded)) :
    projectedTrustStatus (validateWith E resolved context signer embedded)
      = "trusted-anchor-validated" := by
  rw [projectedTrustStatus, if_neg fun hrefused => hunopposed.usable hrefused.2,
    if_neg fun hrefused => hunopposed.notRevoked hrefused.2]
  exact validateWith_trustStatus h

/-- **The summary of a valid verdict** is invalid exactly when its certificate was revoked, even
after the moment of the signature, the revocation could not be read, or the token is broken. -/
theorem summaryCheck_invalid_iff
    (h : (validateWith E resolved context signer embedded).decision.overallStatus = .valid) :
    (summaryCheck (publishedReport present
        (validateWith E resolved context signer embedded))).status = "invalid" ↔
      ¬Unopposed (decisionInput E resolved context signer embedded) := by
  have hp := publishedReport_published present (validateWith E resolved context signer embedded)
  set r := publishedReport present (validateWith E resolved context signer embedded) with hr
  have hsignature : r.signatureValid = true := by
    rw [hp.signatureValid, validateWith_signatureValid]
    exact ((synthesizeDecision_valid_iff _).mp (validateWith_overall.symm.trans h)).2.1
  have hsummary : summaryCheck r = if (computeVerifyPolicyDecision r).valid then
      if hasPolicyWarning r then ⟨"warning", "SIGNATURE_VALID_WITH_WARNINGS"⟩
      else ⟨"valid", "SIGNATURE_VALID"⟩
    else refusedCheck r := by
    simp [summaryCheck, hp.hasResult, hp.executionSucceeded, hp.containerMalformed, hsignature,
      hp.containerCoverageComplete]
  by_cases hdecision : (computeVerifyPolicyDecision r).valid = true
  · -- a positive decision rests on a good status and timestamps that are not refused
    rw [hsummary, if_pos hdecision]
    refine iff_of_false (by split <;> simp) (not_not.mpr ?_)
    obtain ⟨hbase, -, htimestamps⟩ := (policyDecision_valid_iff r).mp hdecision
    have haccepts := hp.good.mp ((policyBaseValid_iff r).mp hbase).2
    have hgood : (decisionInput E resolved context signer
        embedded).signerRevocation.revocationStatus = .good :=
      beq_iff_eq.mp (Bool.and_eq_true_iff.mp haccepts).2
    refine ⟨by rw [hgood]; decide, by rw [hgood]; decide, fun hattempted => ?_⟩
    by_contra hbroken
    exact htimestamps.status (hp.timestampInvalid.mpr ⟨hattempted, Bool.of_not_eq_false hbroken⟩)
  · rw [hsummary, if_neg hdecision, refusedCheck_invalid_iff, hp.trustStatus, hp.revocationStatus,
      hp.timestampInvalid]
    constructor
    · rintro hinvalid hunopposed
      rw [projectedTrustStatus_of_unopposed h hunopposed] at hinvalid
      simp only [String.reduceEq, false_or] at hinvalid
      rcases hinvalid with hrevoked | ⟨hattempted, hbroken⟩
      · exact hunopposed.notRevoked ((canonicalRevocationStatusString_revoked _).mp hrevoked)
      · exact Bool.false_ne_true ((hunopposed.timestamp hattempted).symm.trans hbroken)
    · intro hopposed
      by_contra hnone
      simp only [not_or] at hnone
      obtain ⟨hrevoked, -, -, -, hunusable, -, -, htoken⟩ := hnone
      refine hopposed ⟨fun hstatus => ?_, fun hstatus => ?_, fun hattempted => ?_⟩
      · exact hrevoked ((canonicalRevocationStatusString_revoked _).mpr hstatus)
      · exact hunusable (projectedTrustStatus_unusable hstatus)
      · by_contra hbroken
        exact htoken ⟨hattempted, Bool.of_not_eq_false hbroken⟩

theorem timestampRefused_of_acceptable {T : TimestampOracle Cert Resp Crl}
    (h : timestampAttempted (withTimestampEngine E T) resolved context embedded = true →
      (timestampStage (withTimestampEngine E T) resolved context embedded).valid = true ∨
      (timestampStage (withTimestampEngine E T) resolved context embedded).policyAcceptable
        = true) :
    (decisionInput (withTimestampEngine E T) resolved context signer embedded).timestampRefused
      = false := by
  by_contra hrefused
  obtain ⟨hboth, hrequired⟩ := Bool.and_eq_true_iff.mp (Bool.of_not_eq_false hrefused)
  obtain ⟨hattempted, hinvalid⟩ := Bool.and_eq_true_iff.mp hboth
  have hnot : (timestampStage (withTimestampEngine E T) resolved context embedded).valid = false :=
    Bool.not_eq_true' _ ▸ hinvalid
  have hcms : context.cmsDer ≠ [] := of_decide_eq_true (Bool.and_eq_true_iff.mp hattempted).1
  have hacceptable := (h hattempted).resolve_left (by rw [hnot]; exact Bool.false_ne_true)
  rw [timestampStage, if_neg hcms] at hnot hacceptable
  have hsoft := timestampValidate_acceptable T _ hnot hacceptable
  have hnone : resolved.policy.requireTrustedSigningTime = false :=
    Bool.not_eq_true' _ ▸ (Bool.and_eq_true_iff.mp hsoft).2
  exact Bool.false_ne_true (hnone.symm.trans hrequired)

/-- **A positive policy decision is a valid verdict**, with the timestamp engine of the
source: a token that it does not call valid is acceptable only where no trusted time is
required. -/
theorem policyDecision_sound (T : TimestampOracle Cert Resp Crl) (hlevel : context.level ≠ .basic)
    (h : (computeVerifyPolicyDecision (publishedReport present
      (validateWith (withTimestampEngine E T) resolved context signer embedded))).valid = true) :
    (validateWith (withTimestampEngine E T) resolved context signer embedded).decision.overallStatus
      = .valid := by
  have hp := publishedReport_published present
    (validateWith (withTimestampEngine E T) resolved context signer embedded)
  obtain ⟨hbase, -, htimestamps⟩ := (policyDecision_valid_iff _).mp h
  obtain ⟨⟨-, -, hsignature⟩, hgood⟩ := (policyBaseValid_iff _).mp hbase
  rw [hp.signatureValid, validateWith_signatureValid] at hsignature
  obtain ⟨htrust, hstatus⟩ := Bool.and_eq_true_iff.mp (hp.good.mp hgood)
  have htrustValid := trustValid_of_validateWith (Bool.and_eq_true_iff.mp htrust).1
  have hrevocation : (decisionInput (withTimestampEngine E T) resolved context signer
      embedded).signerRevocation.revocationStatus = .good := beq_iff_eq.mp hstatus
  obtain ⟨instant, time, hoverall⟩ := @decisionInput_revocation _ _ _ (withTimestampEngine E T)
    resolved context signer embedded
  rw [hrevocation] at hoverall
  have hdetails := htimestamps.details
  rw [hp.details] at hdetails
  have htoken := @timestampRefused_of_acceptable _ _ _ E resolved context signer embedded T
    fun hattempted => by
      rw [if_pos (show (validateWith (withTimestampEngine E T) resolved context signer
        embedded).timestampAttempted = true from hattempted)] at hdetails
      exact hdetails _ List.mem_cons_self
  rw [validateWith_overall, synthesizeDecision_valid_iff]
  refine ⟨hlevel, hsignature, ?_, htrustValid, ?_, htoken⟩
  · rw [DecisionInput.signerRevoked, hrevocation]
    rfl
  · rw [DecisionInput.revocationOpen, hoverall]
    rfl

/-- **Two reports, one verdict.**  Above the basic level, a positive policy decision on the
projection is always a `Valid` verdict of the engine; and the summary of a `Valid` verdict is never
invalid exactly if, whenever every gate of the engine passes, the signer is never reported as
revoked, the revocation evidence can be read, and no token is broken. -/
theorem verdicts_agree_iff (E : ValidationEnv Cert Resp Crl) (T : TimestampOracle Cert Resp Crl)
    (context : ValidationContext) (signer : Der) (embedded : List Der) (present : Bool) :
    (context.level ≠ .basic →
      VerdictsAgree present (validate (withTimestampEngine E T) context signer embedded)) ↔
    (OtherGatesPass (withTimestampEngine E T) (resolvePolicy context) context signer embedded →
      (decisionInput (withTimestampEngine E T) (resolvePolicy context) context signer
        embedded).timestampRefused = false →
      Unopposed (decisionInput (withTimestampEngine E T) (resolvePolicy context) context signer
        embedded)) := by
  constructor
  · intro hagree hgates htoken
    have hvalid := validateWith_valid_iff.mpr ⟨hgates, htoken⟩
    by_contra hopposed
    exact (hagree hgates.level).summary hvalid ((summaryCheck_invalid_iff hvalid).mpr hopposed)
  · intro hunopposed hlevel
    refine ⟨policyDecision_sound T hlevel, fun hvalid hinvalid => ?_⟩
    obtain ⟨hgates, htoken⟩ := validateWith_valid_iff.mp hvalid
    exact (summaryCheck_invalid_iff hvalid).mp hinvalid (hunopposed hgates htoken)

end Engine

/-! ### Revoked after the signature -/

def noTokens : TimestampOracle Der Der Der where
  revocation := contradictingResponses
  getSignatureValue := fun _ => .ok []
  extractTimestampToken := fun _ => { failureCode := "TIMESTAMP_MISSING" }
  validateTimestampToken := fun _ _ _ => {}
  issuerNameMatches := fun _ _ => true
  hasTimestampingEku := fun _ => false
  resolveTsaOcspUrl := fun _ _ _ => ""
  parentPath := id
  loadCrlsFromWorkDir := fun _ => []
  downloadedCrls := fun _ _ => []

/-- A signature judged at ten seconds past the epoch; the response says that the certificate
was revoked forty seconds later. -/
def revokedLaterContext : ValidationContext :=
  { legalContext [] with
    verificationTime := "1970-01-01T00:00:10Z"
    embeddedRevocationOcspDer := [[2]] }

/-- The engine calls the signature valid, and the summary calls it revoked. -/
theorem revoked_later_refused :
    let ve := validate (withTimestampEngine (grantingEnv "") noTokens) revokedLaterContext [7] []
    revokedLaterContext.level ≠ .basic ∧ ve.decision.overallStatus = .valid ∧
      summaryCheck (publishedReport true ve) = ⟨"invalid", "CERTIFICATE_REVOKED"⟩ := by
  refine ⟨by decide, by decide, by decide⟩

end Tamga.Session
