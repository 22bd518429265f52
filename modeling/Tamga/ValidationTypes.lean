/-
The types the validation engine and its stages share (`ValidationTypes.h`).
-/
import Tamga.PolicyTypes

namespace Tamga.Validation

open Policy

/-- Whose rules apply. -/
inductive ValidationProfile where
  | strict
  | compatibility
  | ukraineLegal
  | offline
  | forensic
  deriving DecidableEq, Repr

/-- How much is asked of a signature. -/
inductive ValidationLevel where
  | basic
  | standard
  | extended
  | forensic
  deriving DecidableEq, Repr

/-- Which trust lists count. -/
inductive TrustAnchorPolicy where
  | currentTLOnly
  | historicalAtSigningTime
  | explicitLegacyAnchorBundle
  | pinnedAnchors
  | customTrustStore
  | forensicAllPossible
  deriving DecidableEq, Repr

/-- The verdict of the engine. -/
inductive OverallStatus where
  | valid
  | integrityOnly
  | indeterminate
  | invalid
  deriving DecidableEq, Repr

/-- Where a signing time comes from. -/
inductive SigningTimeSource where
  | unavailable
  | rfc3161Timestamp
  | claimedSigningTime
  | verificationTimeFallback
  deriving DecidableEq, Repr

/-- How far a signing time is proved. -/
inductive SigningTimeConfidence where
  | trusted
  | claimed
  | fallback
  | unavailable
  deriving DecidableEq, Repr

/-- What the caller passes to the engine. -/
structure ValidationContext where
  profile : ValidationProfile := .strict
  level : ValidationLevel := .basic
  verificationTime : String := ""
  offline : Bool := true
  workDir : String := ""
  cmsDer : Der := []
  claimedSigningTime : String := ""
  embeddedRevocationOcspDer : List Der := []
  embeddedRevocationCrlDer : List Der := []
  ocspUrl : String := ""
  signatureCryptoValid : Bool := false

/-- The rules of a profile at a level. -/
structure ValidationPolicy where
  trustAnchorPolicy : TrustAnchorPolicy := .currentTLOnly
  revocationHardFail : Bool := false
  requireTrustedSigningTime : Bool := false
  requireServiceLevelTrust : Bool := false
  allowHistoricalTrust : Bool := false
  forensicDiagnostics : Bool := false
  deriving DecidableEq, Repr

/-- The sources that may be asked. -/
structure ValidationPlan where
  networkAllowed : Bool := false
  trustStorePath : String := ""
  historicalTrustStorePath : String := ""
  selectedTrustSnapshotId : String := ""
  timeoutMs : Int := 10000
  deriving DecidableEq, Repr

/-- The rules with the sources. -/
structure ResolvedValidationPolicy where
  policy : ValidationPolicy := {}
  plan : ValidationPlan := {}
  deriving DecidableEq, Repr

/-- A verdict with its reasons. -/
structure ValidationDecision where
  overallStatus : OverallStatus := .indeterminate
  signatureValid : Bool := false
  trustValid : Bool := false
  qualifiedValid : Bool := false
  ltvValid : Bool := false
  trustedSigningTime : String := ""
  signatureEvaluationTime : String := ""
  levelReached : ValidationLevel := .basic
  summary : String := "not-executed"
  trustStatus : String := ""
  trustReason : String := ""
  because : List String := []
  warnings : List String := []
  limitations : List String := []

/-- A signing time that is offered. -/
structure SigningTimeCandidate where
  source : SigningTimeSource := .unavailable
  time : String := ""
  evidenceId : String := ""
  cryptographicallyValid : Bool := false
  trusted : Bool := false
  warnings : List String := []

/-- The time that is used, and how it was found. -/
structure SigningTimeResolution where
  signatureEvaluationTime : String := ""
  source : SigningTimeSource := .unavailable
  confidence : SigningTimeConfidence := .unavailable
  evidenceId : String := ""
  warnings : List String := []
  limitations : List String := []
  trustedTime : Bool := false

/-- A trusted signer that is not revoked, with a valid timestamp. -/
def isLongTermValidationValid (trustValid : Bool) (signerRevocationStatus : RevocationStatus)
    (timestampAttempted timestampValid : Bool) : Bool :=
  trustValid && signerRevocationStatus == .good && timestampAttempted && timestampValid

end Tamga.Validation
