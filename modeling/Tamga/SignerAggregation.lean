/-
Aggregation over the signers of a document (`ApplyPerSignerTrustAggregation`,
`AggregatePerSignerTimestamps`).

The boolean fields of the report become conjunctions over all signers; the texts,
the flag of historical trust and the error code are those of one representative: the
first signer that is not trusted, else the first without a confirmed revocation
status, else the first.

* `representative_eq_find` — the representative is the first of the worst signers,
  and which signers are worst does not depend on their order;
* `aggregated_good` — a positive decision speaks for every signer;
* `conclusions_eq_of_reading` — all that is concluded depends on the representative
  through its `reading` only, and `reading_eq_of_conclusions` shows that nothing
  of the reading is lost;
* `aggregation_order_iff` — when the order of the signers does not matter, and no signer that is
  revoked or accepted through historical trust goes unmentioned.
-/
import Tamga.FirstDecision
import Tamga.VerifyReport

namespace Tamga.Session

open FirstDecision List

/-! ### Trust -/

def representative (signers : List SignatureEntry) : Option SignatureEntry :=
  (signers.find? fun e => !e.trustValid).or
    ((signers.find? fun e => !revocationConfirmed e.revocationStatus).or signers.head?)

/-- The report with the conjunctions over `signers` and the texts of `rep`. -/
def aggregateOver (signers : List SignatureEntry) (r : VerifyReport) (rep : SignatureEntry) :
    VerifyReport :=
  { r with
    trustChecked := signers.all (·.trustChecked)
    trustValid := signers.all (·.trustValid)
    chainChecked := signers.all (·.chainChecked)
    chainValid := signers.all (·.chainValid)
    certificateTimeValid := signers.all (·.certificateTimeValid)
    revocationChecked := signers.all (·.revocationChecked)
    ocspChecked := signers.all (·.ocspChecked)
    validationTimeSource := rep.validationTimeSource
    trustStatus := rep.trustStatus
    trustMode := rep.trustMode
    trustReason := rep.trustReason
    historicalTrustUsed := rep.historicalTrustUsed
    historicalAnchorSubject := rep.historicalAnchorSubject
    historicalAnchorSerial := rep.historicalAnchorSerial
    revocationStatus := rep.revocationStatus
    errorCode := rep.errorCode
    message := if rep.message = "" then r.message else rep.message }

section Fields

variable (signers : List SignatureEntry) (r : VerifyReport) (e : SignatureEntry)

theorem aggregateOver_trustStatus : (aggregateOver signers r e).trustStatus = e.trustStatus := rfl

theorem aggregateOver_revocationStatus :
    (aggregateOver signers r e).revocationStatus = e.revocationStatus := rfl

theorem aggregateOver_timestampStatus :
    (aggregateOver signers r e).timestampStatus = r.timestampStatus := rfl

end Fields

variable (r : VerifyReport)

def applyPerSignerTrustAggregation : VerifyReport :=
  match representative r.signatures with
  | none => r
  | some rep => aggregateOver r.signatures r rep

def aggregatePerSignerTimestamps : VerifyReport :=
  let r := applyTimestampDetailsVerdict
    { r with timestampDetails := r.signatures.flatMap SignatureEntry.timestampDetails }
  if r.timestampStatus = "timestamp-invalid" then applyTimestampFailureToTrust r else r

theorem aggregatePerSignerTimestamps_signatureValid :
    (aggregatePerSignerTimestamps r).signatureValid = r.signatureValid := by
  have hdetails : ∀ r : VerifyReport,
      (applyTimestampDetailsVerdict r).signatureValid = r.signatureValid :=
    fun r => congrArg ReportCore.signatureValid (applyTimestampDetailsVerdict_core r)
  simp only [aggregatePerSignerTimestamps]
  split
  · rw [applyTimestampFailureToTrust_signatureValid, hdetails]
  · rw [hdetails]

theorem aggregation_keeps : (applyPerSignerTrustAggregation r).signatures = r.signatures ∧
      (applyPerSignerTrustAggregation r).timestampStatus = r.timestampStatus ∧
      (applyPerSignerTrustAggregation r).signatureValid = r.signatureValid := by
  rw [applyPerSignerTrustAggregation]
  split <;> exact ⟨rfl, rfl, rfl⟩

theorem aggregatePerSignerTimestamps_timestamps :
    (aggregatePerSignerTimestamps r).timestampDetails =
        r.signatures.flatMap SignatureEntry.timestampDetails ∧
      (r.signatures.flatMap SignatureEntry.timestampDetails = [] →
        (aggregatePerSignerTimestamps r).timestampStatus = r.timestampStatus) := by
  have hkeeps : ∀ r : VerifyReport,
      (applyTimestampFailureToTrust r).timestampDetails = r.timestampDetails ∧
        (applyTimestampFailureToTrust r).timestampStatus = r.timestampStatus := by
    intro r
    rw [applyTimestampFailureToTrust]
    split <;> exact ⟨rfl, rfl⟩
  have hnone : r.signatures.flatMap SignatureEntry.timestampDetails = [] →
      (applyTimestampDetailsVerdict { r with
        timestampDetails := r.signatures.flatMap SignatureEntry.timestampDetails }).timestampStatus =
        r.timestampStatus := by
    intro h
    rw [applyTimestampDetailsVerdict, if_pos h]
  simp only [aggregatePerSignerTimestamps]
  split
  · rw [(hkeeps _).1, (hkeeps _).2, applyTimestampDetailsVerdict_details]
    exact ⟨rfl, hnone⟩
  · rw [applyTimestampDetailsVerdict_details]
    exact ⟨rfl, hnone⟩

theorem policyBaseValid_of_timestamps {r : VerifyReport}
    (h : policyBaseValid (aggregatePerSignerTimestamps r) = true) : policyBaseValid r = true := by
  have hcore : (applyTimestampDetailsVerdict
      { r with timestampDetails := r.signatures.flatMap SignatureEntry.timestampDetails }).core =
        r.core := applyTimestampDetailsVerdict_core _
  simp only [aggregatePerSignerTimestamps] at h
  rw [← policyBaseValid_of_core hcore]
  split at h
  · rw [applyTimestampFailureToTrust] at h
    split at h
    · exact h
    · simp [policyBaseValid] at h
  · exact h

/-! ### The worst signers -/

/-- The signers among which the representative is chosen. -/
def isWorst (signers : List SignatureEntry) (e : SignatureEntry) : Bool :=
  if signers.all (·.trustValid) = false then !e.trustValid
  else if signers.all (fun e => revocationConfirmed e.revocationStatus) = false then
    !revocationConfirmed e.revocationStatus
  else true

theorem find?_not_or {α : Type} {p : α → Bool} {l : List α} (x : Option α) :
    (l.find? fun a => !p a).or x = if l.all p = false then l.find? fun a => !p a else x := by
  cases hfind : l.find? fun a => !p a with
  | none =>
    have hall : l.all p = true := all_eq_true.mpr fun a ha => by
      simpa using List.find?_eq_none.mp hfind a ha
    rw [hall, if_neg (by decide), Option.none_or]
  | some a =>
    have hnot : l.all p = false := all_eq_false.mpr
      ⟨a, mem_of_find?_eq_some hfind, by simpa using List.find?_some hfind⟩
    rw [if_pos hnot, Option.some_or]

theorem representative_eq_find (signers : List SignatureEntry) :
    representative signers = signers.find? (isWorst signers) := by
  rw [representative, find?_not_or, find?_not_or, funext fun e => isWorst.eq_1 signers e]
  split
  · rfl
  · split
    · rfl
    · cases signers <;> rfl

variable {signers signers' : List SignatureEntry}

theorem representative_isSome (h : signers ≠ []) :
    ∃ rep ∈ signers, representative signers = some rep ∧ isWorst signers rep = true := by
  have hsome : (representative signers).isSome = true := by
    rw [representative]
    cases signers with
    | nil => exact absurd rfl h
    | cons a rest => simp
  obtain ⟨rep, hrep⟩ := Option.isSome_iff_exists.mp hsome
  have hfind := hrep
  rw [representative_eq_find] at hfind
  exact ⟨rep, mem_of_find?_eq_some hfind, hrep, List.find?_some hfind⟩

theorem isWorst_perm (h : signers'.Perm signers) : isWorst signers' = isWorst signers := by
  funext e
  rw [isWorst, isWorst, h.all_eq, h.all_eq]

theorem aggregateOver_perm (h : signers'.Perm signers) (r : VerifyReport) (rep : SignatureEntry) :
    aggregateOver signers' r rep = aggregateOver signers r rep := by
  simp only [aggregateOver, h.all_eq]

theorem confirmed_of_worst {e : SignatureEntry} (htrust : signers.all (·.trustValid) = true)
    (hmem : e ∈ signers) (hworst : isWorst signers e = true) :
    revocationConfirmed e.revocationStatus =
      signers.all fun e => revocationConfirmed e.revocationStatus := by
  rw [isWorst, if_neg (by rw [htrust]; decide)] at hworst
  cases hrev : signers.all (fun e => revocationConfirmed e.revocationStatus) with
  | false =>
    rw [if_pos hrev] at hworst
    simpa using hworst
  | true => exact all_eq_true.mp hrev e hmem

def SignatureEntry.good (e : SignatureEntry) : Prop :=
  e.trustChecked = true ∧ e.trustValid = true ∧ e.revocationChecked = true ∧
    revocationConfirmed e.revocationStatus = true

/-- **A positive decision on an aggregated report** speaks for every signer. -/
theorem aggregated_good {r : VerifyReport} {rep : SignatureEntry}
    (hrep : representative signers = some rep)
    (h : policyBaseValid (aggregateOver signers r rep) = true) : ∀ e ∈ signers, e.good := by
  simp only [policyBaseValid, aggregateOver, Bool.and_eq_true] at h
  obtain ⟨⟨⟨⟨-, hchecked⟩, hvalid⟩, hrevocation⟩, hconfirmed⟩ := h
  rw [representative_eq_find] at hrep
  have hall : signers.all (fun e => revocationConfirmed e.revocationStatus) = true := by
    rw [← confirmed_of_worst hvalid (mem_of_find?_eq_some hrep) (List.find?_some hrep)]
    exact hconfirmed
  intro e he
  exact ⟨all_eq_true.mp hchecked e he, all_eq_true.mp hvalid e he,
    all_eq_true.mp hrevocation e he, all_eq_true.mp hall e he⟩

/-- Signers that are all good give a report that can carry a positive decision, with
the status of one of them. -/
theorem aggregated_base {r : VerifyReport}
    (hsigned : r.hasResult = true ∧ r.executionSucceeded = true ∧ r.signatureValid = true)
    (hne : r.signatures ≠ []) (hgood : ∀ e ∈ r.signatures, e.good) :
    policyBaseValid (applyPerSignerTrustAggregation r) = true ∧
      ∃ e ∈ r.signatures, (applyPerSignerTrustAggregation r).trustStatus = e.trustStatus := by
  obtain ⟨rep, hmem, hrep, -⟩ := representative_isSome hne
  rw [applyPerSignerTrustAggregation, hrep]
  refine ⟨(policyBaseValid_iff _).mpr ⟨hsigned, ?_, ?_, ?_, (hgood rep hmem).2.2.2⟩, rep, hmem, rfl⟩
  · exact all_eq_true.mpr fun e he => (hgood e he).1
  · exact all_eq_true.mpr fun e he => (hgood e he).2.1
  · exact all_eq_true.mpr fun e he => (hgood e he).2.2.1

/-! ### What is read off the representative -/

/-- What `ComputeVerifySummary` reads off the representative: the texts that come
before the timestamps of the report, or the summary that these leave. -/
inductive SummaryReading where
  | unavailable
  | service
  | notFullyValidated
  | settled (timestampInvalid : Bool) (code : String)
  deriving DecidableEq, Repr

/-- What `SummaryCheck` reads off the representative when the decision is not
positive. -/
inductive CheckReading where
  | revoked
  | expired
  | revocationInvalid
  | timestampInvalid
  | other
  deriving DecidableEq, Repr

/-- What the published warnings read off the representative. -/
structure WarningReading where
  historical : Bool
  notFullyValidated : Bool
  service : Bool
  /-- All signers are checked for revocation, and the representative has no answer. -/
  unknown : Bool
  deriving DecidableEq, Repr

/-- What the conclusions read off the representative. -/
structure Reading where
  summary : SummaryReading
  check : CheckReading
  warnings : WarningReading
  deriving DecidableEq, Repr

section Readings

variable (signers : List SignatureEntry) (e : SignatureEntry)

/-- Every signer was checked for trust and revocation, and is trusted. -/
def allChecked : Bool :=
  signers.all (·.trustChecked) && signers.all (·.trustValid) && signers.all (·.revocationChecked)

/-- The summary that is left when no timestamp intervenes. -/
def settledCode : String :=
  if allChecked signers ∧ e.revocationStatus = "unknown" then "integrity-but-revocation-unknown"
  else if signers.all (·.trustChecked) = false then "integrity-only"
  else if signers.all (·.trustValid) = false then untrustedSummary e.trustStatus
  else if signers.all (·.revocationChecked) ∧ revocationConfirmed e.revocationStatus then
    "integrity-trust-and-revocation"
  else "integrity-and-trust"

def summaryReading : SummaryReading :=
  if allChecked signers ∧ e.revocationStatus = "temporarily-unavailable" then .unavailable
  else if serviceUnavailable e.trustStatus then .service
  else if e.trustStatus = "timestamp-not-fully-validated" then .notFullyValidated
  else .settled (e.trustStatus == "timestamp-invalid") (settledCode signers e)

def checkReading : CheckReading :=
  if e.revocationStatus = "revoked" ∨ e.trustStatus = "certificate-revoked" then .revoked
  else if e.trustStatus = "certificate-time-invalid" ∨
      e.trustStatus = "certificate-chain-time-invalid" then .expired
  else if e.trustStatus = "revocation-check-invalid" ∨ e.trustStatus = "ocsp-response-invalid" then
    .revocationInvalid
  else if e.trustStatus = "timestamp-invalid" then .timestampInvalid
  else .other

def warningReading : WarningReading where
  historical := e.historicalTrustUsed
  notFullyValidated := e.trustStatus == "timestamp-not-fully-validated"
  service := serviceUnavailable e.trustStatus
  unknown := signers.all (·.revocationChecked) && revocationOpen e.revocationStatus

def reading : Reading where
  summary := summaryReading signers e
  check := checkReading e
  warnings := warningReading signers e

end Readings

/-- What is concluded from a report: the decision, the summary, the checks with their status and
their code, and the warnings that are published. -/
structure Conclusions where
  decision : VerifyPolicyDecision
  summaryCode : String
  summary : VerifyCheck
  policy : VerifyCheck
  warnings : List String
  deriving DecidableEq, Repr

def conclusions : Conclusions where
  decision := computeVerifyPolicyDecision r
  summaryCode := computeVerifySummary r
  summary := summaryCheck r
  policy := policyCheck r
  warnings := policyWarnings r

def summaryFrom : SummaryReading → String
  | .unavailable => "integrity-but-revocation-unknown"
  | .service => "integrity-but-online-service-unavailable"
  | .notFullyValidated => "integrity-but-timestamp-not-fully-validated"
  | .settled timestampInvalid code =>
    if r.timestampStatus = "timestamp-partial" then "integrity-but-timestamp-not-fully-validated"
    else if r.timestampChecked ∧ r.timestampValid = false ∧
        (timestampInvalid = true ∨ r.timestampStatus = "timestamp-invalid") then
      "integrity-but-timestamp-invalid"
    else if code = "integrity-trust-and-revocation" ∧ r.timestampChecked ∧ r.timestampValid then
      "integrity-trust-revocation-and-timestamp"
    else code

def refusalFrom : CheckReading → VerifyCheck
  | .revoked => ⟨"invalid", "CERTIFICATE_REVOKED"⟩
  | .expired => ⟨"invalid", "CERTIFICATE_INVALID_AT_VALIDATION_TIME"⟩
  | .revocationInvalid => ⟨"invalid", "REVOCATION_INVALID"⟩
  | .timestampInvalid => ⟨"invalid", "TIMESTAMP_INVALID"⟩
  | .other =>
    if r.timestampStatus = "timestamp-invalid" then ⟨"invalid", "TIMESTAMP_INVALID"⟩
    else ⟨"warning", "SIGNATURE_INTEGRITY_ONLY"⟩

def warningsFrom (w : WarningReading) : List String :=
  (if w.historical then ["HISTORICAL_TRUST_USED"] else []) ++
  (if w.notFullyValidated ∨ r.timestampStatus = "timestamp-partial" then
    ["TIMESTAMP_NOT_FULLY_VALIDATED"] else []) ++
  (if w.service then ["ONLINE_SERVICE_UNAVAILABLE"] else []) ++
  (if w.unknown then ["REVOCATION_STATUS_UNKNOWN"] else [])

variable {r} {e e' : SignatureEntry}

theorem policyWarnings_eq :
    policyWarnings (aggregateOver signers r e) = warningsFrom r (warningReading signers e) := by
  simp only [policyWarnings, warningsFrom, warningReading, aggregateOver, beq_iff_eq,
    Bool.and_eq_true]
  congr!

/-- There is a warning if one is published, and the first one is published first. -/
theorem policyWarning_of_published (r : VerifyReport) :
    hasPolicyWarning r = !(policyWarnings r).isEmpty ∧
      firstPolicyWarningCode r = (policyWarnings r).headD "REVOCATION_STATUS_UNKNOWN" := by
  simp only [hasPolicyWarning, firstPolicyWarningCode, policyWarnings]
  cases r.historicalTrustUsed <;> cases serviceUnavailable r.trustStatus <;>
    cases r.revocationChecked <;> cases revocationOpen r.revocationStatus <;>
    by_cases h₁ : r.trustStatus = "timestamp-not-fully-validated" <;>
    by_cases h₂ : r.timestampStatus = "timestamp-partial" <;> simp [h₁, h₂]

theorem untrustedSummary_ne (status : String) :
    untrustedSummary status ≠ "integrity-trust-and-revocation" := by
  rw [untrustedSummary]
  repeat' split
  all_goals decide

/-- The settled summary is the one that a valid timestamp upgrades exactly when all
signers are checked and the revocation status is confirmed. -/
theorem settledCode_eq_iff : settledCode signers e = "integrity-trust-and-revocation" ↔
    allChecked signers = true ∧ revocationConfirmed e.revocationStatus = true := by
  rw [settledCode, allChecked]
  cases signers.all (·.trustChecked) with
  | false => simp
  | true =>
    cases signers.all (·.trustValid) with
    | false => simpa using untrustedSummary_ne e.trustStatus
    | true =>
      cases signers.all (·.revocationChecked) with
      | false => simp
      | true =>
        by_cases h : e.revocationStatus = "unknown"
        · simp [h, revocationConfirmed]
        · by_cases hc : revocationConfirmed e.revocationStatus = true <;> simp [h, hc]

theorem intactSummary_eq :
    intactSummary (aggregateOver signers r e) = summaryFrom r (summaryReading signers e) := by
  have hall : ∀ p : Prop, (signers.all (·.trustChecked) = true ∧ signers.all (·.trustValid) = true ∧
      signers.all (·.revocationChecked) = true ∧ p) ↔ allChecked signers = true ∧ p := by
    intro p
    simp [allChecked, and_assoc]
  rw [intactSummary, summaryReading]
  simp only [aggregateOver, hall]
  rw [apply_ite (summaryFrom r)]
  refine ite_congr rfl (fun _ => rfl) fun h₁ => ?_
  rw [apply_ite (summaryFrom r)]
  refine ite_congr rfl (fun _ => rfl) fun h₂ => ?_
  by_cases h₃ : e.trustStatus = "timestamp-not-fully-validated"
  · rw [if_pos (Or.inl h₃), if_pos h₃]
    rfl
  rw [if_neg h₃, summaryFrom]
  by_cases h₄ : r.timestampStatus = "timestamp-partial"
  · rw [if_pos (Or.inr h₄), if_pos h₄]
  rw [if_neg (not_or.mpr ⟨h₃, h₄⟩), if_neg h₄]
  simp only [beq_iff_eq]
  refine ite_congr rfl (fun _ => rfl) fun _ => ?_
  -- from here on only the settled code is left, upgraded by a valid timestamp
  by_cases h₆ : settledCode signers e = "integrity-trust-and-revocation" ∧
      r.timestampChecked = true ∧ r.timestampValid = true
  · rw [if_pos h₆]
    obtain ⟨hcode, hchecked, hvalid⟩ := h₆
    obtain ⟨hac, hconf⟩ := settledCode_eq_iff.mp hcode
    have hne : e.revocationStatus ≠ "unknown" := by
      intro h
      rw [h] at hconf
      exact absurd hconf (by decide)
    have hknown : ¬ (allChecked signers = true ∧ e.revocationStatus = "unknown") :=
      fun h => hne h.2
    rw [if_neg hknown, if_pos ⟨hac, hconf, hchecked, hvalid⟩]
  rw [if_neg h₆, settledCode]
  by_cases h₇ : allChecked signers = true ∧ e.revocationStatus = "unknown"
  · rw [if_pos h₇, if_pos h₇]
  have h₈ : ¬ (allChecked signers = true ∧ revocationConfirmed e.revocationStatus = true ∧
      r.timestampChecked = true ∧ r.timestampValid = true) := by
    rintro ⟨hac, hconf, hchecked, hvalid⟩
    exact h₆ ⟨settledCode_eq_iff.mpr ⟨hac, hconf⟩, hchecked, hvalid⟩
  rw [if_neg h₇, if_neg h₇, if_neg h₈]
  rfl

theorem refusedCheck_eq :
    refusedCheck (aggregateOver signers r e) = refusalFrom r (checkReading e) := by
  rw [refusedCheck, checkReading, aggregateOver_trustStatus, aggregateOver_revocationStatus,
    aggregateOver_timestampStatus]
  -- the certificate is revoked, it or its chain is not valid at the time, or the check failed
  iterate 3
    rw [apply_ite (refusalFrom r)]
    refine ite_congr rfl (fun _ => rfl) fun _ => ?_
  by_cases h₄ : e.trustStatus = "timestamp-invalid"
  · rw [if_pos (Or.inl h₄), if_pos h₄]
    rfl
  rw [if_neg h₄, refusalFrom]
  simp only [h₄, false_or]

/-- If all signers are trusted, both have a confirmed revocation status or neither has. -/
def Alike (signers : List SignatureEntry) (e e' : SignatureEntry) : Prop :=
  signers.all (·.trustValid) = true →
    revocationConfirmed e.revocationStatus = revocationConfirmed e'.revocationStatus

theorem policyBaseValid_eq (halike : Alike signers e e') :
    policyBaseValid (aggregateOver signers r e) = policyBaseValid (aggregateOver signers r e') := by
  simp only [policyBaseValid, aggregateOver]
  cases htrust : signers.all (·.trustValid) with
  | false => simp
  | true => rw [halike htrust]

/-- The trust status, as far as the decision looks at it. -/
def statusFlags (status : String) : Bool × Bool × Bool :=
  (status == "timestamp-invalid", status == "timestamp-not-fully-validated",
    serviceUnavailable status)

/-- Where the revocation status is confirmed, the reading shows it. -/
def SummaryReading.flags : SummaryReading → Bool × Bool × Bool
  | .service => (false, false, true)
  | .notFullyValidated => (false, true, false)
  | .settled timestampInvalid _ => (timestampInvalid, false, false)
  | .unavailable => (false, false, false)

theorem statusFlags_eq (hc : revocationConfirmed e.revocationStatus = true) :
    statusFlags e.trustStatus = (summaryReading signers e).flags := by
  have hno : ¬ (allChecked signers = true ∧ e.revocationStatus = "temporarily-unavailable") := by
    rintro ⟨-, hstatus⟩
    rw [hstatus] at hc
    exact absurd hc (by decide)
  rw [summaryReading, if_neg hno, statusFlags]
  by_cases hs : serviceUnavailable e.trustStatus = true
  · rw [if_pos hs, hs]
    have hne : ∀ status, serviceUnavailable status = false → (e.trustStatus == status) = false := by
      rintro status hnot
      exact beq_eq_false_iff_ne.mpr fun heq => by rw [heq, hnot] at hs; cases hs
    rw [hne _ (by decide), hne _ (by decide)]
    rfl
  · rw [if_neg hs, Bool.eq_false_iff.mpr hs]
    by_cases hn : e.trustStatus = "timestamp-not-fully-validated"
    · rw [if_pos hn, hn]
      rfl
    · rw [if_neg hn, beq_eq_false_iff_ne.mpr hn]
      rfl

theorem status_iff_of_reading (hc : revocationConfirmed e.revocationStatus = true)
    (hc' : revocationConfirmed e'.revocationStatus = true)
    (h : summaryReading signers e = summaryReading signers e') :
    (e.trustStatus = "timestamp-invalid" ↔ e'.trustStatus = "timestamp-invalid") ∧
    (e.trustStatus = "timestamp-not-fully-validated" ↔
      e'.trustStatus = "timestamp-not-fully-validated") ∧
    serviceUnavailable e.trustStatus = serviceUnavailable e'.trustStatus := by
  have hflags : statusFlags e.trustStatus = statusFlags e'.trustStatus := by
    rw [@statusFlags_eq signers e hc, h, statusFlags_eq hc']
  rw [statusFlags, statusFlags, Prod.mk.injEq, Prod.mk.injEq] at hflags
  obtain ⟨ht, hn, hs⟩ := hflags
  rw [Bool.eq_iff_iff, beq_iff_eq, beq_iff_eq] at ht hn
  exact ⟨ht, hn, hs⟩

theorem summary_eq_of_reading (h : summaryReading signers e = summaryReading signers e')
    (r : VerifyReport) :
    computeVerifySummary (aggregateOver signers r e) =
      computeVerifySummary (aggregateOver signers r e') := by
  have hintact : intactSummary (aggregateOver signers r e) =
      intactSummary (aggregateOver signers r e') := by
    rw [intactSummary_eq, intactSummary_eq, h]
  rw [computeVerifySummary, computeVerifySummary, hintact]
  rfl

theorem decision_eq_of_reading (halike : Alike signers e e')
    (h : summaryReading signers e = summaryReading signers e') (r : VerifyReport) :
    computeVerifyPolicyDecision (aggregateOver signers r e) =
      computeVerifyPolicyDecision (aggregateOver signers r e') := by
  have hbase := @policyBaseValid_eq r _ _ _ halike
  have hsummary := summary_eq_of_reading h r
  rw [computeVerifyPolicyDecision, computeVerifyPolicyDecision, ← hbase, ← hsummary]
  generalize computeVerifySummary (aggregateOver signers r e) = code
  cases hb : policyBaseValid (aggregateOver signers r e) with
  | false => rw [if_pos (Or.inl rfl), if_pos (Or.inl rfl)]
  | true =>
    have hb' := hbase ▸ hb
    simp only [policyBaseValid, aggregateOver, Bool.and_eq_true] at hb hb'
    obtain ⟨ht, hn, hs⟩ := status_iff_of_reading hb.2 hb'.2 h
    simp only [aggregateOver, ht, hn, hs]
    rfl

theorem conclusions_eq_of_reading (halike : Alike signers e e')
    (h : reading signers e = reading signers e') (r : VerifyReport) :
    conclusions (aggregateOver signers r e) = conclusions (aggregateOver signers r e') := by
  have hs : summaryReading signers e = summaryReading signers e' := congrArg Reading.summary h
  have hc : checkReading e = checkReading e' := congrArg Reading.check h
  have hw : policyWarnings (aggregateOver signers r e) =
      policyWarnings (aggregateOver signers r e') := by
    rw [policyWarnings_eq, policyWarnings_eq]
    exact congrArg (fun x : Reading => warningsFrom r x.warnings) h
  have hdecision := decision_eq_of_reading halike hs r
  have hrefused : refusedCheck (aggregateOver signers r e) =
      refusedCheck (aggregateOver signers r e') := by
    rw [refusedCheck_eq, refusedCheck_eq, hc]
  have hwarn : hasPolicyWarning (aggregateOver signers r e) =
      hasPolicyWarning (aggregateOver signers r e') := by
    rw [(policyWarning_of_published _).1, hw, (policyWarning_of_published _).1]
  have hfirst : firstPolicyWarningCode (aggregateOver signers r e) =
      firstPolicyWarningCode (aggregateOver signers r e') := by
    rw [(policyWarning_of_published _).2, hw, (policyWarning_of_published _).2]
  have hcheck : summaryCheck (aggregateOver signers r e) =
      summaryCheck (aggregateOver signers r e') := by
    rw [summaryCheck, summaryCheck, hdecision, hrefused, hwarn]
    rfl
  have hpolicy : policyCheck (aggregateOver signers r e) =
      policyCheck (aggregateOver signers r e') := by
    rw [policyCheck, policyCheck, hdecision, hwarn, hfirst]
    rfl
  rw [conclusions, conclusions, hdecision, summary_eq_of_reading hs r, hcheck, hpolicy, hw]

/-! ### Nothing of the reading is lost -/

/-- A report that leaves everything but the timestamps to the representative. -/
def probe (timestampChecked : Bool) (timestampStatus : String) (details : List TimestampEntry) :
    VerifyReport where
  hasResult := true
  executionSucceeded := true
  signatureValid := true
  timestampChecked := timestampChecked
  timestampStatus := timestampStatus
  timestampDetails := details

theorem settledCode_ne : settledCode signers e ≠ "integrity-but-online-service-unavailable" ∧
    settledCode signers e ≠ "integrity-but-timestamp-not-fully-validated" ∧
    settledCode signers e ≠ "integrity-but-timestamp-invalid" := by
  rw [settledCode, untrustedSummary]
  repeat' split
  all_goals decide

/-- The code of a settled reading is none of those that come before it. -/
def SummaryReading.Plain : SummaryReading → Prop
  | .settled _ code => code ≠ "integrity-but-online-service-unavailable" ∧
      code ≠ "integrity-but-timestamp-not-fully-validated" ∧
      code ≠ "integrity-but-timestamp-invalid"
  | _ => True

theorem summaryReading_plain : (summaryReading signers e).Plain := by
  rw [summaryReading]
  repeat' split
  · trivial
  · trivial
  · trivial
  · exact settledCode_ne

/-- Three reports tell the readings of the summary apart: one without timestamps, one
with a partial timestamp, and one with a timestamp that is not valid. -/
theorem summaryFrom_injective {x y : SummaryReading} (hx : x.Plain) (hy : y.Plain)
    (h : ∀ checked status, summaryFrom (probe checked status []) x =
      summaryFrom (probe checked status []) y) : x = y := by
  have hplain := h false "timestamp-not-validated"
  have hpartial := h false "timestamp-partial"
  have hinvalid := h true "timestamp-not-validated"
  simp only [probe] at hplain hpartial hinvalid
  cases x with
  | unavailable => cases y <;> simp_all [summaryFrom]
  | service | notFullyValidated => cases y <;> simp_all [summaryFrom, SummaryReading.Plain]
  | settled b code =>
    cases y with
    | unavailable => simp_all [summaryFrom]
    | service | notFullyValidated => simp_all [summaryFrom, SummaryReading.Plain]
    | settled b' code' =>
      cases b <;> cases b' <;> simp_all [summaryFrom, SummaryReading.Plain]

theorem probe_summaryCode (checked : Bool) (status : String) (details : List TimestampEntry) :
    (conclusions (aggregateOver signers (probe checked status details) e)).summaryCode =
      summaryFrom (probe checked status details) (summaryReading signers e) :=
  intactSummary_eq

def refusedTimestamp : TimestampEntry := {}

theorem probe_refused : (conclusions (aggregateOver signers
        (probe false "timestamp-not-validated" [refusedTimestamp]) e)).summary =
      refusalFrom (probe false "timestamp-not-validated" [refusedTimestamp]) (checkReading e) := by
  have hvalid : ¬ (computeVerifyPolicyDecision (aggregateOver signers
      (probe false "timestamp-not-validated" [refusedTimestamp]) e)).valid = true := by
    rw [policyDecision_valid_iff]
    rintro ⟨-, -, htime⟩
    rcases htime.details refusedTimestamp mem_cons_self with h | h <;> cases h
  rw [← @refusedCheck_eq _ signers]
  exact if_neg hvalid

theorem refusalFrom_injective {x y : CheckReading}
    (h : refusalFrom (probe false "timestamp-not-validated" [refusedTimestamp]) x =
      refusalFrom (probe false "timestamp-not-validated" [refusedTimestamp]) y) : x = y := by
  revert h
  cases x <;> cases y <;> decide

theorem warningsFrom_injective {x y : WarningReading}
    (h : warningsFrom (probe false "timestamp-not-validated" []) x =
      warningsFrom (probe false "timestamp-not-validated" []) y) : x = y := by
  obtain ⟨a, b, c, d⟩ := x
  obtain ⟨a', b', c', d'⟩ := y
  revert a b c d a' b' c' d'
  decide

theorem reading_eq_of_conclusions
    (h : ∀ r, conclusions (aggregateOver signers r e) = conclusions (aggregateOver signers r e')) :
    reading signers e = reading signers e' := by
  have hsummary : summaryReading signers e = summaryReading signers e' := by
    refine summaryFrom_injective summaryReading_plain summaryReading_plain fun checked status => ?_
    rw [← probe_summaryCode, ← probe_summaryCode, h]
  have hcheck : checkReading e = checkReading e' := by
    refine refusalFrom_injective ?_
    rw [← @probe_refused signers, ← @probe_refused signers, h]
  have hwarnings : warningReading signers e = warningReading signers e' := by
    refine warningsFrom_injective ?_
    rw [← policyWarnings_eq, ← policyWarnings_eq]
    exact congrArg Conclusions.warnings (h _)
  rw [reading, reading, hsummary, hcheck, hwarnings]

/-! ### The order of the signers -/

theorem conclusions_signatures (signers l : List SignatureEntry) (r : VerifyReport)
    (e : SignatureEntry) :
    conclusions (aggregateOver signers { r with signatures := l } e) =
      conclusions (aggregateOver signers r e) := rfl

theorem conclusions_perm (h : signers'.Perm signers) (r : VerifyReport) {rep : SignatureEntry}
    (hrep : representative signers' = some rep) :
    conclusions (applyPerSignerTrustAggregation { r with signatures := signers' }) =
      conclusions (aggregateOver signers r rep) := by
  have hagg : applyPerSignerTrustAggregation { r with signatures := signers' } =
      aggregateOver signers' { r with signatures := signers' } rep := by
    rw [applyPerSignerTrustAggregation]
    simp only [hrep]
  rw [hagg, aggregateOver_perm h, conclusions_signatures]

/-- The reading of a signer, if it is one of the worst. -/
def worstReading (signers : List SignatureEntry) (e : SignatureEntry) : Option Reading :=
  (Option.guard (isWorst signers) e).map (reading signers)

theorem reading_representative (h : signers'.Perm signers) :
    signers'.findSome? (worstReading signers) =
      (representative signers').map (reading signers) := by
  rw [representative_eq_find, isWorst_perm h, List.find?_eq_findSome?_guard, map_findSome?]
  rfl

/-- Two orders of the signers give the same conclusions in every report exactly when
their representatives have the same reading. -/
theorem same_reading_iff (hp : signers'.Perm signers) : (∀ r : VerifyReport,
      conclusions (applyPerSignerTrustAggregation { r with signatures := signers' }) =
        conclusions (applyPerSignerTrustAggregation { r with signatures := signers })) ↔
      signers'.findSome? (worstReading signers) =
        signers.findSome? (worstReading signers) := by
  by_cases hne : signers = []
  · subst hne
    rw [hp.eq_nil]
    exact iff_of_true (fun _ => rfl) rfl
  have hne' : signers' ≠ [] := by
    rintro rfl
    exact hne hp.nil_eq.symm
  obtain ⟨rep, hmem, hrep, hworst⟩ := representative_isSome hne
  obtain ⟨rep', hmem', hrep', hworst'⟩ := representative_isSome hne'
  rw [hp.mem_iff] at hmem'
  rw [isWorst_perm hp] at hworst'
  have halike : Alike signers rep' rep := by
    intro htrust
    rw [confirmed_of_worst htrust hmem hworst, confirmed_of_worst htrust hmem' hworst']
  rw [reading_representative hp, reading_representative (List.Perm.refl _), hrep, hrep',
    Option.map_some, Option.map_some, Option.some.injEq]
  simp only [conclusions_perm hp _ hrep', conclusions_perm (List.Perm.refl _) _ hrep]
  exact ⟨reading_eq_of_conclusions, fun h r => conclusions_eq_of_reading halike h r⟩

theorem order_free_iff (signers : List SignatureEntry) :
    (∀ (r : VerifyReport) (signers' : List SignatureEntry), signers'.Perm signers →
      conclusions (applyPerSignerTrustAggregation { r with signatures := signers' }) =
        conclusions (applyPerSignerTrustAggregation { r with signatures := signers })) ↔
      ∀ e ∈ signers, isWorst signers e = true → ∀ e' ∈ signers, isWorst signers e' = true →
        reading signers e = reading signers e' := by
  have hagree : Agree (worstReading signers) signers ↔
      ∀ e ∈ signers, isWorst signers e = true → ∀ e' ∈ signers, isWorst signers e' = true →
        reading signers e = reading signers e' := by
    simp only [Agree, worstReading, Option.map_eq_some_iff, Option.guard_eq_some_iff]
    constructor
    · intro h e he hw e' he' hw'
      exact h e he e' he' _ _ ⟨e, ⟨rfl, hw⟩, rfl⟩ ⟨e', ⟨rfl, hw'⟩, rfl⟩
    · rintro h e he e' he' x y ⟨_, ⟨rfl, hw⟩, rfl⟩ ⟨_, ⟨rfl, hw'⟩, rfl⟩
      exact h e he hw e' he' hw'
  rw [← hagree, ← findSome_perm_iff]
  refine ⟨fun h signers' hp => (same_reading_iff hp).mp fun r => h r signers' hp,
    fun h r signers' hp => (same_reading_iff hp).mpr (h signers' hp) r⟩

/-! ### Signers that have to be mentioned -/

/-- The signature holds and covers its container, so that the summary is about the signers. -/
structure Intact (r : VerifyReport) : Prop where
  executed : r.hasResult = true ∧ r.executionSucceeded = true
  container : r.containerMalformed = false ∧ r.containerCoverageComplete = true
  signature : r.signatureValid = true

/-- A revoked signer is what the summary is about, and historical trust is among the warnings. -/
structure Surfaces (signers : List SignatureEntry) (c : Conclusions) : Prop where
  revoked : (∃ e ∈ signers, e.revocationStatus = "revoked") →
    c.summary = ⟨"invalid", "CERTIFICATE_REVOKED"⟩
  historical : (∃ e ∈ signers, e.trustValid = true ∧ e.historicalTrustUsed = true) →
    "HISTORICAL_TRUST_USED" ∈ c.warnings

theorem mem_warningsFrom {w : WarningReading} :
    "HISTORICAL_TRUST_USED" ∈ warningsFrom r w ↔ w.historical = true := by
  by_cases h : w.notFullyValidated = true ∨ r.timestampStatus = "timestamp-partial" <;>
    cases hw : w.historical <;> cases hs : w.service <;> cases hu : w.unknown <;>
    simp [warningsFrom, h, hw, hs, hu]

/-- With a revoked signer no decision is positive, so the summary gives a reason. -/
theorem summary_of_revoked {rep : SignatureEntry} (hr : Intact r)
    (hrep : representative signers = some rep)
    (hrevoked : ∃ e ∈ signers, e.revocationStatus = "revoked") :
    (conclusions (aggregateOver signers r rep)).summary = refusalFrom r (checkReading rep) := by
  have hvalid : (computeVerifyPolicyDecision (aggregateOver signers r rep)).valid = false := by
    rw [Bool.eq_false_iff, Ne, policyDecision_valid_iff]
    rintro ⟨hbase, -⟩
    obtain ⟨e, he, hstatus⟩ := hrevoked
    have hgood := (aggregated_good hrep hbase e he).2.2.2
    rw [hstatus] at hgood
    cases hgood
  obtain ⟨⟨hresult, hexecuted⟩, ⟨hmalformed, hcoverage⟩, hsignature⟩ := hr
  rw [← @refusedCheck_eq r signers]
  show summaryCheck _ = _
  rw [summaryCheck, hvalid]
  simp [aggregateOver, hresult, hexecuted, hmalformed, hcoverage, hsignature]

/-- The worst signers look alike; all are revoked if a signer is, and all have historical trust if a
trusted signer has. -/
structure Unanimous (signers : List SignatureEntry) : Prop where
  same : ∀ e ∈ signers, isWorst signers e = true → ∀ e' ∈ signers, isWorst signers e' = true →
    reading signers e = reading signers e'
  revoked : (∃ e ∈ signers, e.revocationStatus = "revoked") →
    ∀ e ∈ signers, isWorst signers e = true → checkReading e = .revoked
  historical : (∃ e ∈ signers, e.trustValid = true ∧ e.historicalTrustUsed = true) →
    ∀ e ∈ signers, isWorst signers e = true → e.historicalTrustUsed = true

/-- **The order of the signers** does not matter for what is concluded, whatever the rest of the
report is, and a signer that is revoked or accepted through historical trust surfaces wherever it
stands, exactly when the worst signers are unanimous. -/
theorem aggregation_order_iff (signers : List SignatureEntry) :
    (∀ (r : VerifyReport) (signers' : List SignatureEntry), signers'.Perm signers →
      conclusions (applyPerSignerTrustAggregation { r with signatures := signers' }) =
        conclusions (applyPerSignerTrustAggregation { r with signatures := signers }) ∧
      (Intact r → Surfaces signers
        (conclusions (applyPerSignerTrustAggregation { r with signatures := signers' })))) ↔
      Unanimous signers := by
  by_cases hne : signers = []
  · subst hne
    have hnone : ∀ {P : SignatureEntry → Prop}, ¬ ∃ e ∈ ([] : List SignatureEntry), P e := by simp
    refine iff_of_true (fun r signers' hp => ?_) ⟨fun e he => absurd he not_mem_nil,
      fun h => absurd h hnone, fun h => absurd h hnone⟩
    rw [hp.eq_nil]
    exact ⟨rfl, fun _ => ⟨fun h => absurd h hnone, fun h => absurd h hnone⟩⟩
  obtain ⟨rep, hmem, hrep, hworst⟩ := representative_isSome hne
  have hown : ∀ r : VerifyReport,
      conclusions (applyPerSignerTrustAggregation { r with signatures := signers }) =
        conclusions (aggregateOver signers r rep) := fun r => conclusions_perm (List.Perm.refl _) r hrep
  constructor
  · intro h
    have hsame := (order_free_iff signers).mp fun r signers' hp => (h r signers' hp).1
    set plain := probe false "timestamp-not-validated" [] with hplain
    have hprobe : Intact plain := ⟨⟨rfl, rfl⟩, ⟨rfl, rfl⟩, rfl⟩
    have hsurfaces := (h plain signers (List.Perm.refl _)).2 hprobe
    rw [hown plain] at hsurfaces
    refine ⟨hsame, fun hrevoked e he hw => ?_, fun hhistorical e he hw => ?_⟩
    · have hsummary := hsurfaces.revoked hrevoked
      rw [summary_of_revoked hprobe hrep hrevoked] at hsummary
      rw [show checkReading e = checkReading rep from
        congrArg Reading.check (hsame e he hw rep hmem hworst)]
      revert hsummary
      cases checkReading rep <;> decide
    · have hwarning := hsurfaces.historical hhistorical
      rw [conclusions, policyWarnings_eq, mem_warningsFrom] at hwarning
      rw [← show rep.historicalTrustUsed = e.historicalTrustUsed from
        congrArg (fun x : Reading => x.warnings.historical) (hsame rep hmem hworst e he hw)]
      exact hwarning
  · intro h r signers' hp
    have hsame := (order_free_iff signers).mpr h.same r signers' hp
    refine ⟨hsame, fun hr => ?_⟩
    rw [hsame, hown]
    refine ⟨fun hrevoked => ?_, fun hhistorical => ?_⟩
    · rw [summary_of_revoked hr hrep hrevoked, h.revoked hrevoked rep hmem hworst]
      rfl
    · rw [conclusions, policyWarnings_eq, mem_warningsFrom]
      exact h.historical hhistorical rep hmem hworst

def trustedSigner (historical : Bool) : SignatureEntry where
  trustChecked := true
  trustValid := true
  trustStatus := "trusted-anchor-validated"
  historicalTrustUsed := historical
  revocationChecked := true
  revocationStatus := "valid"

/-- A signer without a chain to an anchor, and one whose certificate is revoked. -/
def untrustedSigner (trustStatus revocationStatus : String) : SignatureEntry where
  trustChecked := true
  trustStatus := trustStatus
  revocationChecked := true
  revocationStatus := revocationStatus

/-- A report on these signers, without timestamps. -/
def reportOn (signers : List SignatureEntry) : VerifyReport :=
  { probe false "timestamp-not-validated" [] with signatures := signers }

/-- A signer accepted through historical trust only shows if it stands first, and not at all
beside one whose chain is incomplete; a revoked signer is not mentioned behind that one. -/
theorem order_of_signers_matters :
    (conclusions (applyPerSignerTrustAggregation
      (reportOn [trustedSigner false, trustedSigner true]))).warnings = [] ∧
    (conclusions (applyPerSignerTrustAggregation
      (reportOn [trustedSigner true, trustedSigner false]))).warnings = ["HISTORICAL_TRUST_USED"] ∧
    (conclusions (applyPerSignerTrustAggregation (reportOn
      [untrustedSigner "certificate-chain-incomplete" "valid", trustedSigner true]))).warnings = [] ∧
    (conclusions (applyPerSignerTrustAggregation (reportOn
      [untrustedSigner "certificate-chain-incomplete" "valid",
        untrustedSigner "certificate-revoked" "revoked"]))).summary =
          ⟨"warning", "SIGNATURE_INTEGRITY_ONLY"⟩ ∧
    (conclusions (applyPerSignerTrustAggregation (reportOn
      [untrustedSigner "certificate-revoked" "revoked",
        untrustedSigner "certificate-chain-incomplete" "valid"]))).summary =
          ⟨"invalid", "CERTIFICATE_REVOKED"⟩ := by
  decide

end Tamga.Session
