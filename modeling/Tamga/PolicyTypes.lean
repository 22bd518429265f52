/-
The verdict types shared by the policy validators and the validation engine.
-/
import Tamga.Basic

namespace Tamga.Policy

/-- What became of a certificate chain. -/
inductive ChainStatus where
  | notChecked
  | trusted
  | untrusted
  | incomplete
  | expired
  | invalidSignature
  | signerMissing
  deriving DecidableEq, Repr

/-- What is known about a revocation. -/
inductive RevocationStatus where
  | notChecked
  | good
  | revoked
  | unknown
  | stale
  | invalid
  | responderUnavailable
  deriving DecidableEq, Repr

/-- What became of a timestamp. -/
inductive TimestampStatus where
  | notChecked
  | missing
  | valid
  | invalidImprint
  | invalidSignature
  | untrustedTsa
  | tsaExpired
  | unsupported
  deriving DecidableEq, Repr

end Tamga.Policy
