/-
The policy of a validation and the moment at which a signature is judged
(`PolicyResolver`, `SigningTimeResolver`, `NormalizeTimestampTime`).

The moment is taken from a trusted timestamp if there is one, else from the
time the signer claims, else from the time of the verification.

* `resolveSigningTime_of_timestamp` — the first trusted timestamp is the moment;
* `resolveSigningTime_of_untrusted` — without one the claimed time is, and the
  verification time where none is claimed.
-/
import Tamga.IsoTime
import Tamga.ValidationTypes

namespace Tamga.Validation

open Policy IsoTime

/-! ### The policy -/

def isStandardOrHigher (level : ValidationLevel) : Bool :=
  level == .standard || level == .extended || level == .forensic

def isExtendedOrHigher (level : ValidationLevel) : Bool :=
  level == .extended || level == .forensic

def resolveWorkDirPaths (workDir : String) (plan : ValidationPlan) : ValidationPlan :=
  if workDir = "" then plan
  else { plan with
    trustStorePath := workDir ++ "/trust-store"
    historicalTrustStorePath := workDir ++ "/historical-trust-store" }

/-- `PolicyResolver::Resolve`.  The branch for an unknown profile or level has
no counterpart: the enumerations have no other values. -/
def resolvePolicy (context : ValidationContext) : ResolvedValidationPolicy :=
  let plan := { resolveWorkDirPaths context.workDir {} with networkAllowed := !context.offline }
  match context.profile with
  | .strict =>
    { plan := plan
      policy :=
        { trustAnchorPolicy := .currentTLOnly
          revocationHardFail := isStandardOrHigher context.level } }
  | .compatibility =>
    { plan := plan
      policy :=
        { trustAnchorPolicy := .explicitLegacyAnchorBundle
          allowHistoricalTrust := true
          revocationHardFail := isExtendedOrHigher context.level } }
  | .ukraineLegal =>
    { plan := plan
      policy :=
        { trustAnchorPolicy := .historicalAtSigningTime
          allowHistoricalTrust := true
          revocationHardFail := isStandardOrHigher context.level
          requireTrustedSigningTime := isExtendedOrHigher context.level
          requireServiceLevelTrust := isExtendedOrHigher context.level } }
  | .offline =>
    { plan := { plan with networkAllowed := false }
      policy :=
        { trustAnchorPolicy := .customTrustStore
          revocationHardFail := isStandardOrHigher context.level } }
  | .forensic =>
    { plan := plan
      policy :=
        { trustAnchorPolicy := .forensicAllPossible
          revocationHardFail := isStandardOrHigher context.level
          forensicDiagnostics := true } }

/-! ### The time of a timestamp token -/

def numberAt (raw : List Char) (offset count : Nat) : Int :=
  ((raw.drop offset).take count).foldl (fun value c => value * 10 + (digitValue c : Int)) 0

def daysInMonth (year month : Int) : Int :=
  [31, if isLeap year then 29 else 28, 31, 30, 31, 30, 31, 31, 30, 31, 30, 31].getD
    (month - 1).toNat 0

/-- `NormalizeTimestampTime`: a UTC `GeneralizedTime` with an optional fraction
as ISO 8601 text. -/
def normalizeTimestampTime (text : String) : Option String :=
  let raw := text.toList
  if raw.length < 15 ∨ raw.length > 64 ∨ raw.getLast? ≠ some 'Z' then none
  else if !(raw.take 14).all isDigit then none
  else if raw.length ≠ 15 ∧ (raw.length < 17 ∨ raw[14]? ≠ some '.' ∨
      !((raw.drop 15).dropLast).all isDigit) then none
  else
    let year := numberAt raw 0 4
    let month := numberAt raw 4 2
    let day := numberAt raw 6 2
    let hour := numberAt raw 8 2
    let minute := numberAt raw 10 2
    let second := numberAt raw 12 2
    if year < 1970 ∨ month < 1 ∨ month > 12 ∨ hour > 23 ∨ minute > 59 ∨ second > 59 then none
    else if day < 1 ∨ day > daysInMonth year month then none
    else
      let part (offset count : Nat) := (raw.drop offset).take count
      let normalized := String.ofList (part 0 4 ++ ['-'] ++ part 4 2 ++ ['-'] ++ part 6 2 ++
        ['T'] ++ part 8 2 ++ [':'] ++ part 10 2 ++ [':'] ++ part 12 2 ++ ['Z'])
      if (parseIso8601Time normalized).isNone then none else some normalized

theorem normalizeTimestampTime_ne_empty {text time : String}
    (h : normalizeTimestampTime text = some time) : time ≠ "" := by
  rintro rfl
  simp only [normalizeTimestampTime, Option.ite_none_left_eq_some, Option.some.injEq] at h
  obtain ⟨-, -, -, -, -, -, hempty⟩ := h
  simpa using congrArg String.length hempty

example : normalizeTimestampTime "20240301020304.5Z" = some "2024-03-01T02:03:04Z" := by decide

/-! ### The signing time -/

def withEvidenceId (code evidenceId : String) : String :=
  if evidenceId = "" then code else code ++ ":" ++ evidenceId

def applyTrustedTimeRequirement (resolution : SigningTimeResolution) (policy : ValidationPolicy) :
    SigningTimeResolution :=
  if policy.requireTrustedSigningTime && !resolution.trustedTime then
    { resolution with
      limitations := resolution.limitations ++ ["trusted-signing-time-required"] }
  else resolution

def collectSkippedRfc3161Diagnostics :
    List SigningTimeCandidate → SigningTimeResolution → SigningTimeResolution
  | [], resolution => resolution
  | candidate :: rest, resolution =>
    if candidate.source ≠ .rfc3161Timestamp then collectSkippedRfc3161Diagnostics rest resolution
    else
      collectSkippedRfc3161Diagnostics rest
        { resolution with
          warnings := resolution.warnings ++
            (if candidate.cryptographicallyValid then [] else
              [withEvidenceId "rfc3161-timestamp-not-cryptographically-valid"
                candidate.evidenceId]) ++
            candidate.warnings
          limitations := resolution.limitations ++
            (if candidate.trusted then [] else
              [withEvidenceId "rfc3161-timestamp-not-trusted" candidate.evidenceId]) ++
            (if candidate.time = "" then
              [withEvidenceId "rfc3161-timestamp-time-unavailable" candidate.evidenceId] else []) }

def isTrustedTimestamp (candidate : SigningTimeCandidate) : Bool :=
  candidate.source == .rfc3161Timestamp && candidate.cryptographicallyValid &&
    candidate.trusted && candidate.time != ""

def isClaimedTime (candidate : SigningTimeCandidate) : Bool :=
  candidate.source == .claimedSigningTime && candidate.time != ""

/-- `SigningTimeResolver::Resolve`. -/
def resolveSigningTime (candidates : List SigningTimeCandidate) (context : ValidationContext)
    (policy : ValidationPolicy) : SigningTimeResolution :=
  match candidates.find? isTrustedTimestamp with
  | some timestamp =>
    { signatureEvaluationTime := timestamp.time
      source := .rfc3161Timestamp
      confidence := .trusted
      evidenceId := timestamp.evidenceId
      warnings := timestamp.warnings
      trustedTime := true }
  | none =>
    let resolution := collectSkippedRfc3161Diagnostics candidates {}
    match candidates.find? isClaimedTime with
    | some claimed =>
      applyTrustedTimeRequirement
        { resolution with
          signatureEvaluationTime := claimed.time
          source := .claimedSigningTime
          confidence := .claimed
          evidenceId := claimed.evidenceId
          trustedTime := false
          warnings := resolution.warnings ++ claimed.warnings ++
            (if claimed.cryptographicallyValid then [] else
              ["claimed-signing-time-not-cryptographically-proven"]) } policy
    | none =>
      if context.verificationTime ≠ "" then
        applyTrustedTimeRequirement
          { resolution with
            signatureEvaluationTime := context.verificationTime
            source := .verificationTimeFallback
            confidence := .fallback
            trustedTime := false
            warnings := resolution.warnings ++ ["verification-time-fallback-used"]
            limitations := resolution.limitations ++
              ["signing-time-derived-from-verification-time"] } policy
      else
        applyTrustedTimeRequirement
          { resolution with
            limitations := resolution.limitations ++ ["signing-time-unavailable"] } policy

@[simp]
theorem applyTrustedTimeRequirement_trustedTime (r : SigningTimeResolution)
    (policy : ValidationPolicy) : (applyTrustedTimeRequirement r policy).trustedTime
      = r.trustedTime := by
  unfold applyTrustedTimeRequirement
  split <;> rfl

@[simp]
theorem applyTrustedTimeRequirement_time (r : SigningTimeResolution) (policy : ValidationPolicy) :
    (applyTrustedTimeRequirement r policy).signatureEvaluationTime
      = r.signatureEvaluationTime := by
  unfold applyTrustedTimeRequirement
  split <;> rfl

theorem collectSkippedRfc3161Diagnostics_time :
    ∀ (candidates : List SigningTimeCandidate) (r : SigningTimeResolution),
      (collectSkippedRfc3161Diagnostics candidates r).trustedTime = r.trustedTime ∧
      (collectSkippedRfc3161Diagnostics candidates r).signatureEvaluationTime
        = r.signatureEvaluationTime := by
  intro candidates
  induction candidates with
  | nil => intro r; exact ⟨rfl, rfl⟩
  | cons c rest ih =>
    intro r
    rw [collectSkippedRfc3161Diagnostics]
    split
    · exact ih r
    obtain ⟨h1, h2⟩ := ih { r with
      warnings := r.warnings ++
        (if c.cryptographicallyValid then [] else
          [withEvidenceId "rfc3161-timestamp-not-cryptographically-valid" c.evidenceId]) ++
        c.warnings
      limitations := r.limitations ++
        (if c.trusted then [] else
          [withEvidenceId "rfc3161-timestamp-not-trusted" c.evidenceId]) ++
        (if c.time = "" then
          [withEvidenceId "rfc3161-timestamp-time-unavailable" c.evidenceId] else []) }
    exact ⟨h1, h2⟩

theorem resolveSigningTime_of_untrusted {candidates : List SigningTimeCandidate}
    {context : ValidationContext} {policy : ValidationPolicy}
    (h : candidates.find? isTrustedTimestamp = none) :
    (resolveSigningTime candidates context policy).trustedTime = false ∧
    (resolveSigningTime candidates context policy).signatureEvaluationTime
      = ((candidates.find? isClaimedTime).map (·.time)).getD context.verificationTime := by
  obtain ⟨htrust, htime⟩ := collectSkippedRfc3161Diagnostics_time candidates {}
  simp only [resolveSigningTime, h]
  cases hclaimed : candidates.find? isClaimedTime with
  | some claimed => simp
  | none =>
    by_cases hver : context.verificationTime = ""
    · simp [hver, htrust, htime]
    · simp [hver]

theorem resolveSigningTime_of_timestamp {candidates : List SigningTimeCandidate}
    {context : ValidationContext} {policy : ValidationPolicy} {timestamp : SigningTimeCandidate}
    (h : candidates.find? isTrustedTimestamp = some timestamp) :
    (resolveSigningTime candidates context policy).trustedTime = true ∧
    (resolveSigningTime candidates context policy).signatureEvaluationTime = timestamp.time := by
  simp only [resolveSigningTime, h]
  exact ⟨trivial, trivial⟩

end Tamga.Validation
