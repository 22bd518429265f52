/-
On whose account is a policy decision positive?

The decision is computed from the trust fields of the report, and each format fills
them by its own route.  What a route asks the validation engine about a signer is a
question here, and the engines are arbitrary.  A decision that rests on the answers
to some questions speaks for every signer exactly if every signer poses one of them.

* `spoken_for_iff` — the argument, for any decision that rests on given questions;
* `decisionValid_of_clean` — valid timestamps leave the decision to the trust fields;
* `cms_speaks_iff` — the decision on a CMS rests on its first signer.
-/
import Tamga.CmsVerification
import Tamga.SignerAggregation

namespace Tamga.Session

open Policy Validation List

/-! ### Questions to the engine -/

structure EngineQuery where
  context : ValidationContext
  certificate : Der
  embedded : List Der

/-- The engine calls the signer trusted with a good revocation status.  Of a signer
without a certificate nothing can be asked. -/
def Engines.accepts (E : Engines) : Option EngineQuery → Prop
  | none => False
  | some q => acceptsSigner (E.validate q.context q.certificate q.embedded) = true

/-- Whatever the engines say, a positive decision means that they accept every
signer. -/
def SpeaksForAll (decision : Engines → Prop) (signers : List (Option EngineQuery)) : Prop :=
  ∀ E, decision E → ∀ q ∈ signers, E.accepts q

def decisionValid (r : VerifyReport) : Prop := (computeVerifyPolicyDecision r).valid = true

/-! ### Engines that accept given questions only -/

def validToken : TimestampEngineResult where
  valid := true
  policyAcceptable := true
  cryptoValid := true
  status := .valid

def trustedReport : ValidationReport where
  decision :=
    { overallStatus := .valid
      signatureValid := true
      trustValid := true
      trustStatus := "trusted" }
  signerRevocation :=
    { overallStatus := .valid
      revocationStatus := .good
      ocspAttempted := true }
  timestamp := validToken
  timestampAttempted := true

def untrustedReport : ValidationReport where
  timestamp := validToken
  timestampAttempted := true

open Classical in
/-- The signers of the given questions are trusted, and nobody else; all timestamps
are valid. -/
noncomputable def trustOnly (asked : List (Option EngineQuery)) : Engines where
  validate context certificate embedded :=
    if some ⟨context, certificate, embedded⟩ ∈ asked then trustedReport else untrustedReport
  timestamp _ := validToken

section TrustOnly

variable {asked : List (Option EngineQuery)}

theorem trustOnly_accepts {q : EngineQuery} (h : some q ∈ asked) :
    (trustOnly asked).accepts (some q) := by
  have htrusted : (trustOnly asked).validate q.context q.certificate q.embedded = trustedReport :=
    if_pos h
  rw [Engines.accepts, htrusted]
  rfl

theorem trustOnly_cases (context : ValidationContext) (certificate : Der) (embedded : List Der) :
    (trustOnly asked).validate context certificate embedded = trustedReport ∨
      (trustOnly asked).validate context certificate embedded = untrustedReport := by
  rw [trustOnly]
  dsimp only
  split
  · exact Or.inl rfl
  · exact Or.inr rfl

theorem mem_of_trustOnly_accepts {q : Option EngineQuery} (h : (trustOnly asked).accepts q) :
    q ∈ asked := by
  cases q with
  | none => exact h.elim
  | some q =>
    by_contra hnot
    have huntrusted : (trustOnly asked).validate q.context q.certificate q.embedded =
        untrustedReport := if_neg hnot
    rw [Engines.accepts, huntrusted] at h
    cases h

end TrustOnly

/-- **A decision that rests on the answers to some questions** speaks for every signer
exactly if all of them pose one of these, where it can be positive at all. -/
theorem spoken_for_iff {decision : Engines → Prop} {signers asked : List (Option EngineQuery)}
    {admissible : Prop} (hsound : ∀ E, decision E → admissible ∧ ∀ q ∈ asked, E.accepts q)
    (hreach : admissible → decision (trustOnly asked)) :
    SpeaksForAll decision signers ↔ (admissible → ∀ q ∈ signers, q ∈ asked) := by
  constructor
  · intro h hadm q hq
    exact mem_of_trustOnly_accepts (h _ (hreach hadm) q hq)
  · intro h E hdecision q hq
    obtain ⟨hadm, haccepts⟩ := hsound E hdecision
    exact haccepts q (h hadm q hq)

/-! ### Timestamps that stand against nothing -/

/-- All timestamps in the report are valid. -/
structure CleanTimestamps (r : VerifyReport) : Prop where
  details : ∀ d ∈ r.timestampDetails, d.valid = true ∧ d.status = "timestamp-valid"
  status : r.timestampStatus ≠ "timestamp-invalid"

variable {r : VerifyReport}

theorem CleanTimestamps.accepted (h : CleanTimestamps r) : TimestampsAccepted r :=
  ⟨h.status, fun d hd => Or.inl (h.details d hd).1⟩

/-- Valid timestamps decide the status; without any it stays as it is. -/
theorem CleanTimestamps.details_verdict
    (hdetails : ∀ d ∈ r.timestampDetails, d.valid = true ∧ d.status = "timestamp-valid")
    (hstatus : r.timestampDetails = [] → r.timestampStatus ≠ "timestamp-invalid") :
    CleanTimestamps (applyTimestampDetailsVerdict r) := by
  refine ⟨by rw [applyTimestampDetailsVerdict_details]; exact hdetails, ?_⟩
  rw [Ne, applyTimestampDetailsVerdict_status]
  rintro (⟨d, hd, hinvalid⟩ | ⟨hnil, hinvalid⟩)
  · rw [(hdetails d hd).2] at hinvalid
    exact absurd hinvalid (by decide)
  · exact hstatus hnil hinvalid

theorem CleanTimestamps.format_verdict (h : CleanTimestamps r) (full : Bool) :
    CleanTimestamps (applyFormatTimestampVerdict r true full) := by
  refine ⟨by rw [applyFormatTimestampVerdict_details]; exact h.details, ?_⟩
  rw [applyFormatTimestampVerdict, if_neg (by decide)]
  split
  · exact (CleanTimestamps.details_verdict h.details fun _ => h.status).status
  · split
    · simp
    · simp

/-- A trusted signer is called so. -/
def PlainTrust (core : ReportCore) : Prop := core.trustValid = true → core.trustStatus = "trusted"

theorem decisionValid_of_clean (hbase : policyBaseValid r = true) (hplain : PlainTrust r.core)
    (hclean : CleanTimestamps r) : decisionValid r := by
  have hgood := ((policyBaseValid_iff r).mp hbase).2
  have hstatus : r.trustStatus = "trusted" := hplain hgood.2.1
  refine (policyDecision_valid_iff r).mpr ⟨hbase, ?_, hclean.accepted⟩
  rw [hstatus]
  exact ⟨by decide, by decide, by decide⟩

theorem decisionValid_base (h : decisionValid r) : policyBaseValid r = true :=
  ((policyDecision_valid_iff r).mp h).1

theorem decisionValid_timestamps (h : decisionValid r) : TimestampsAccepted r :=
  ((policyDecision_valid_iff r).mp h).2.2

theorem not_decisionValid (h : r.signatureValid = false) : ¬ decisionValid r := by
  intro hdecision
  have hsigned := ((policyBaseValid_iff r).mp (decisionValid_base hdecision)).1.2.2
  rw [h] at hsigned
  cases hsigned

theorem aggregatePerSignerTimestamps_clean
    (hsignatures : ∀ e ∈ r.signatures, ∀ d ∈ e.timestampDetails,
      d.valid = true ∧ d.status = "timestamp-valid")
    (hstatus : r.signatures.flatMap SignatureEntry.timestampDetails = [] →
      r.timestampStatus ≠ "timestamp-invalid") :
    CleanTimestamps (aggregatePerSignerTimestamps r) ∧
      (aggregatePerSignerTimestamps r).core = r.core := by
  have hclean : CleanTimestamps (applyTimestampDetailsVerdict
      { r with timestampDetails := r.signatures.flatMap SignatureEntry.timestampDetails }) := by
    refine CleanTimestamps.details_verdict (fun d hd => ?_) hstatus
    obtain ⟨e, he, hd⟩ := mem_flatMap.mp hd
    exact hsignatures e he d hd
  simp only [aggregatePerSignerTimestamps]
  rw [if_neg hclean.status]
  exact ⟨hclean, applyTimestampDetailsVerdict_core _⟩

def validEntry : TimestampEntry := projectTimestampResult validToken

section TrustOnly

variable {asked : List (Option EngineQuery)}

variable (present : Bool) (context : ValidationContext) (certificate : Der) (embedded : List Der)
    (r : VerifyReport)

theorem projected_trusted :
    (projectVerifyReport present trustedReport).timestampDetails = [validEntry] ∧
      (projectVerifyReport present trustedReport).timestampStatus = "timestamp-valid" := by
  cases present <;> decide

theorem projected_untrusted :
    (projectVerifyReport present untrustedReport).timestampDetails = [validEntry] ∧
      (projectVerifyReport present untrustedReport).timestampStatus = "timestamp-valid" := by
  cases present <;> decide

theorem applied_timestamps : (applyValidationEngineReport present
        ((trustOnly asked).validate context certificate embedded) r).timestampDetails =
        [validEntry] ∧
      (applyValidationEngineReport present
        ((trustOnly asked).validate context certificate embedded) r).timestampStatus =
        "timestamp-valid" := by
  rcases @trustOnly_cases asked context certificate embedded with h | h
  · rw [h]
    exact projected_trusted present
  · rw [h]
    exact projected_untrusted present

theorem CleanTimestamps.of_entry {r : VerifyReport} (hdetails : r.timestampDetails = [validEntry])
    (hstatus : r.timestampStatus = "timestamp-valid") : CleanTimestamps r := by
  refine ⟨fun d hd => ?_, by rw [hstatus]; decide⟩
  rw [hdetails, mem_singleton] at hd
  subst hd
  exact ⟨rfl, rfl⟩

theorem applied_clean : CleanTimestamps (applyValidationEngineReport present
      ((trustOnly asked).validate context certificate embedded) r) :=
  .of_entry (applied_timestamps present context certificate embedded r).1
    (applied_timestamps present context certificate embedded r).2

theorem applied_plain : PlainTrust (applyValidationEngineReport present
      ((trustOnly asked).validate context certificate embedded) r).core := by
  rcases @trustOnly_cases asked context certificate embedded with h | h
  · rw [h]
    exact fun _ => rfl
  · rw [h]
    intro htrust
    cases htrust

end TrustOnly

/-! ### The signer of another format -/

section Format

variable {env : VerifyEnv} {E : Engines} {s : FormatSigner} {asked : List (Option EngineQuery)}

/-- The question of `RunFormatTrustValidationOn`. -/
def formatQuery (env : VerifyEnv) (s : FormatSigner) : Option EngineQuery :=
  if s.certificateDer = [] then none
  else some ⟨formatContext env s, s.certificateDer, s.evidence.certificates⟩

theorem formatQuery_of_certificate (h : s.certificateDer ≠ []) :
    formatQuery env s = some ⟨formatContext env s, s.certificateDer, s.evidence.certificates⟩ :=
  if_neg h

theorem accepts_formatQuery : E.accepts (formatQuery env s) ↔ s.certificateDer ≠ [] ∧
    acceptsSigner (E.validate (formatContext env s) s.certificateDer s.evidence.certificates) =
      true := by
  rw [formatQuery]
  by_cases h : s.certificateDer = []
  · rw [if_pos h]
    exact iff_of_false id fun hg => hg.1 h
  · rw [if_neg h]
    exact (and_iff_right h).symm

theorem format_timestamps (h : s.certificateDer ≠ []) :
    (runFormatTrustValidationOn env (trustOnly asked) s {}).timestampDetails = [validEntry] ∧
      (runFormatTrustValidationOn env (trustOnly asked) s {}).timestampStatus =
        "timestamp-valid" := by
  rw [runFormatTrustValidationOn, if_neg h]
  exact applied_timestamps _ _ _ _ _

theorem format_plain : PlainTrust (runFormatTrustValidationOn env (trustOnly asked) s {}).core := by
  rw [runFormatTrustValidationOn]
  split
  · intro h
    cases h
  · exact applied_plain _ _ _ _ _

end Format

/-! ### CMS -/

section Cms

variable (env : VerifyEnv)

def cmsQuery (signature : Bytes) (embedded : List Der) (certificateDer : Der) : EngineQuery where
  context := cmsContext env signature
  certificate := certificateDer
  embedded := env.enrichWithAiaIssuers certificateDer embedded

def cmsSigners (signature : Bytes) : List (Option EngineQuery) :=
  match env.cms.decode signature with
  | .error _ => [none]
  | .ok contents => contents.signerCertificatesDer.map
      (Option.map (cmsQuery env signature contents.embeddedCertificatesDer))

def CmsAdmissible (data signature : Bytes) : Prop :=
  env.initialized = true ∧
    ∃ v, verifyCms env.cms data signature = .ok v ∧ v.isValid = true

variable {env} {data signature : Bytes} {v : CmsVerdict}

theorem cmsSigners_take (h : verifyCms env.cms data signature = .ok v) (hvalid : v.isValid = true) :
    (cmsSigners env signature).take 1 =
      [some (cmsQuery env signature v.embeddedCertificatesDer v.signerCertificateDer)] := by
  obtain ⟨contents, hdecode, hembedded, hhead⟩ := verifyCms_contents h hvalid
  rw [cmsSigners, hdecode, ← hembedded]
  dsimp only
  obtain ⟨rest, hcertificates⟩ := List.head?_eq_some_iff.mp hhead
  rw [hcertificates]
  rfl

variable {asked : List (Option EngineQuery)}

theorem dataReport_clean : CleanTimestamps (dataReport env (trustOnly asked) signature v) := by
  rw [dataReport]
  split
  · have hclean := @applied_clean asked (v.signerCertificateDer ≠ []) (cmsContext env signature)
      v.signerCertificateDer (env.enrichWithAiaIssuers v.signerCertificateDer
        v.embeddedCertificatesDer) (integrityReport v)
    dsimp only
    split
    · exact ⟨hclean.details, hclean.status⟩
    · exact hclean
  · refine ⟨fun d hd => absurd hd (not_mem_nil), ?_⟩
    show "timestamp-not-validated" ≠ _
    decide

theorem verifyData_clean :
    CleanTimestamps (verifyData env (trustOnly asked) data signature).report := by
  have hset : ∀ code message,
      CleanTimestamps (setVerifyReport "VerifyData" false false code message) := by
    refine fun code message => ⟨fun d hd => absurd hd (not_mem_nil), ?_⟩
    show "timestamp-not-validated" ≠ _
    decide
  rw [verifyData]
  split
  · exact hset _ _
  · split
    · exact hset _ _
    · exact dataReport_clean

theorem verifyData_plain :
    PlainTrust (verifyData env (trustOnly asked) data signature).report.core := by
  rw [verifyData]
  split
  · intro h
    cases h
  split
  · intro h
    cases h
  · rw [dataReport]
    split
    · dsimp only
      split <;> exact applied_plain _ _ _ _ (integrityReport _)
    · intro h
      cases h

theorem verifyData_base {E : Engines} :
    policyBaseValid (verifyData env E data signature).report = true ↔
      CmsAdmissible env data signature ∧ ∀ q ∈ (cmsSigners env signature).take 1, E.accepts q := by
  rw [verifyData, CmsAdmissible]
  by_cases hinit : env.initialized = false
  · rw [if_pos hinit, hinit]
    simp [policyBaseValid, setVerifyReport]
  rw [if_neg hinit, Bool.of_not_eq_false hinit]
  cases hcms : verifyCms env.cms data signature with
  | error e => simp [policyBaseValid, setVerifyReport]
  | ok v =>
    rw [dataReport_base]
    constructor
    · rintro ⟨hvalid, haccepts⟩
      refine ⟨⟨rfl, v, rfl, hvalid⟩, ?_⟩
      rw [cmsSigners_take hcms hvalid]
      intro q hq
      rw [mem_singleton] at hq
      rw [hq]
      exact haccepts
    · rintro ⟨⟨-, v', hv', hvalid⟩, haccepts⟩
      obtain rfl := Except.ok.inj hv'
      rw [cmsSigners_take hcms hvalid] at haccepts
      exact ⟨hvalid, haccepts _ (mem_singleton_self _)⟩

theorem cms_speaks_iff (env : VerifyEnv) (data signature : Bytes) :
    SpeaksForAll (fun E => decisionValid (verifyData env E data signature).report)
        (cmsSigners env signature) ↔
      (CmsAdmissible env data signature →
        ∀ q ∈ cmsSigners env signature, q ∈ (cmsSigners env signature).take 1) := by
  refine spoken_for_iff (fun E h => verifyData_base.mp (decisionValid_base h)) ?_
  intro hadm
  have ⟨_, v, hcms, hvalid⟩ := hadm
  refine decisionValid_of_clean (verifyData_base.mpr ⟨hadm, fun q hq => ?_⟩) verifyData_plain
    verifyData_clean
  rw [cmsSigners_take hcms hvalid] at hq ⊢
  obtain rfl := mem_singleton.mp hq
  exact trustOnly_accepts hq

end Cms

end Tamga.Session
