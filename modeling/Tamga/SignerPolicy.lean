/-
Does a positive policy decision speak for every signer?

Each format fills the trust fields of the report by its own route: a CMS by its first
signer, a PDF by its first signature, a container with CAdES signatures by the last
call of `VerifyData`, and XML and containers with XAdES signatures by aggregation.

* `pdf_speaks_iff` — the decision on a PDF rests on its first signature;
* `xml_speaks` — the decision on an XML document rests on all its signers;
* `all_signers_policy_iff` — all formats together, and
  `revoked_second_signer_accepted` a CMS with a revoked signer that is accepted.
-/
import Tamga.ContainerPolicy
import Tamga.PdfSession

namespace Tamga.Session

open Util Zip Asic Pades Policy Validation List

/-! ### PDF -/

section Pdf

variable (env : VerifyEnv) (result : PadesVerificationResult)

/-- The question about a certificate of a main signature, as `VerifyPdf` puts it. -/
def pdfQuery (evidence : PadesSignatureEvidence) (certificateDer : Der) : Option EngineQuery :=
  formatQuery env { pdfSigner result evidence with certificateDer := certificateDer }

/-- The signers of a main signature: the one it is reported with, and all that its CMS
names. -/
def pdfSignatureSigners (evidence : PadesSignatureEvidence) : List (Option EngineQuery) :=
  pdfQuery env result evidence evidence.signerCertificateDer ::
    match env.cms.decode evidence.cmsDer with
    | .error _ => []
    | .ok contents => contents.signerCertificatesDer.map
        fun certificate => certificate.bind (pdfQuery env result evidence)

def pdfResultSigners : List (Option EngineQuery) :=
  result.mainSignatures.flatMap (pdfSignatureSigners env result)

/-- The engine can be asked about the document timestamp, and its range is valid. -/
structure DocumentTimestampUsable (i : Nat) (token : Bytes) : Prop where
  token : token ≠ []
  imprint : result.documentTimestampImprintSources.getD i [] ≠ []
  revision : result.documentTimestampRevisionEnds.getD i 0 ≠ 0

/-- What stands against a positive decision, apart from the engines, is absent. -/
structure PdfResultAdmissible : Prop where
  valid : result.signatureValid = true
  first : ∀ first ∈ result.mainSignatures.head?, first.signerCertificateDer ≠ []
  signatures : ∀ evidence ∈ result.mainSignatures, evidence.signatureTimestampPresent = true →
    evidence.signerCertificateDer ≠ []
  profile : result.detectedProfile ≠ .b → result.timestampsValid = true
  documents : ∀ p ∈ result.documentTimestampTokensDer.zipIdx,
    DocumentTimestampUsable result p.2 p.1

variable {env result} {E : Engines}

theorem CleanTimestamps.restored {r : VerifyReport} (h : CleanTimestamps r)
    (hprofile : result.detectedProfile ≠ .b → result.timestampsValid = true) :
    CleanTimestamps (restoreFormat result (applyPadesTimestampVerdict env E result r)) := by
  obtain ⟨hdetails, hstatus⟩ := @timestamps_restored env E result r
  refine ⟨by rw [hdetails]; exact h.details, ?_⟩
  rw [hstatus]
  by_cases hb : result.detectedProfile = .b
  · rw [if_pos hb]
    exact h.status
  · have hclean : CleanTimestamps { r with timestampChecked := true, tspChecked := true } :=
      ⟨h.details, h.status⟩
    rw [if_neg hb, hprofile hb]
    exact (hclean.format_verdict _).status

theorem usable_of_accepted (hprofile : result.documentTimestampTokensDer ≠ [] →
      result.detectedProfile ≠ .b)
    (h : TimestampsAccepted (pdfReport env E result)) {p : Bytes × Nat}
    (hp : p ∈ result.documentTimestampTokensDer.zipIdx) :
    DocumentTimestampUsable result p.2 p.1 := by
  have hdetail : documentDetail env E result p.2 p.1 ∈ (pdfReport env E result).timestampDetails := by
    rw [pdfReport_details]
    exact mem_append_right _ (mem_map.mpr ⟨p, hp, rfl⟩)
  have htokens : result.documentTimestampTokensDer ≠ [] := by
    intro hnil
    rw [hnil] at hp
    cases hp
  -- without a verdict the entry is neither valid nor acceptable
  have hasked : ¬ (p.1 = [] ∨ result.documentTimestampImprintSources.getD p.2 [] = []) := by
    intro hnone
    have hbad := h.details _ hdetail
    simp only [documentDetail, documentVerdict_eq_none hnone] at hbad
    split at hbad <;> (rcases hbad with hbad | hbad <;> cases hbad)
  obtain ⟨htoken, himprint⟩ := not_or.mp hasked
  refine ⟨htoken, himprint, fun hzero => ?_⟩
  refine (timestamps_of_profile (hprofile htokens) h).2 _ hdetail ?_
  simp only [documentDetail, hzero, if_true]

/-! The engines that accept the first signer only. -/

variable {asked : List (Option EngineQuery)} {first : PadesSignatureEvidence}
  {rest : List PadesSignatureEvidence}

theorem documentDetail_clean {i : Nat} {token : Bytes} (h : DocumentTimestampUsable result i token)
    :
    (documentDetail env (trustOnly asked) result i token).valid = true ∧
      (documentDetail env (trustOnly asked) result i token).status = "timestamp-valid" := by
  have hverdict : documentVerdict env (trustOnly asked) result i token =
      some ⟨true, "", validEntry⟩ := if_neg (not_or.mpr ⟨h.token, h.imprint⟩)
  simp only [documentDetail, hverdict, if_neg h.revision]
  exact ⟨rfl, rfl⟩

theorem signer_details_clean {index : Nat} {evidence : PadesSignatureEvidence}
    (hpresent : evidence.signatureTimestampPresent = true)
    (hcertificate : evidence.signerCertificateDer ≠ []) :
    ∀ d ∈ (pdfSignerReport env (trustOnly asked) result index evidence).timestampDetails,
      d.valid = true ∧ d.status = "timestamp-valid" := by
  have hdetails : (runFormatTrustValidationOn env (trustOnly asked) (pdfSigner result evidence)
      {}).timestampDetails = [validEntry] := (format_timestamps hcertificate).1
  intro d hd
  simp only [pdfSignerReport, hpresent, if_true, hdetails] at hd
  obtain rfl := mem_singleton.mp hd
  exact ⟨rfl, rfl⟩

theorem pdfReport_clean (h : PdfResultAdmissible result)
    (hmain : result.mainSignatures = first :: rest) :
    CleanTimestamps (pdfReport env (trustOnly asked) result) := by
  refine CleanTimestamps.restored ⟨fun d hd => ?_, ?_⟩ h.profile
  · rcases mem_append.mp hd with hd | hd
    · obtain ⟨⟨index, evidence, r⟩, hr, hd⟩ := mem_flatMap.mp hd
      obtain ⟨hmem, rfl⟩ := mem_pdfSignerReports hr
      dsimp only at hd
      split at hd
      next hpresent => exact signer_details_clean hpresent (h.signatures _ hmem hpresent) d hd
      next => cases hd
    · obtain ⟨p, hp, rfl⟩ := mem_map.mp hd
      exact documentDetail_clean (h.documents p hp)
  · show (pdfSignersReport env (trustOnly asked) result).timestampStatus ≠ _
    have hcertificate : (pdfSigner result first).certificateDer ≠ [] :=
      h.first first (by rw [hmain]; rfl)
    rw [pdfSignersReport_status hmain, (format_timestamps hcertificate).2]
    decide

theorem take_pdfResultSigners (hmain : result.mainSignatures = first :: rest) :
    (pdfResultSigners env result).take 1 = [formatQuery env (pdfSigner result first)] := by
  rw [pdfResultSigners, hmain, flatMap_cons]
  rfl

theorem pdfReport_base (hmain : result.mainSignatures = first :: rest) :
    policyBaseValid (pdfReport env E result) = true ↔ result.signatureValid = true ∧
      E.accepts (formatQuery env (pdfSigner result first)) := by
  have hcore := pdfReport_core env E result hmain
  have hgood : (pdfReport env E result).good ↔
      (runFormatTrustValidationOn env E (pdfSigner result first) {}).good := by
    simp only [VerifyReport.core, ReportCore.processed, ReportCore.mk.injEq] at hcore
    obtain ⟨-, -, -, h₁, h₂, -, h₃, h₄⟩ := hcore
    rw [VerifyReport.good, VerifyReport.good, h₁, h₂, h₃, h₄]
  have hsigned : (pdfReport env E result).signatureValid = result.signatureValid :=
    congrArg ReportCore.signatureValid hcore
  have hresult : (pdfReport env E result).hasResult = true := congrArg ReportCore.hasResult hcore
  have hexecuted : (pdfReport env E result).executionSucceeded = true :=
    congrArg ReportCore.executionSucceeded hcore
  rw [policyBaseValid_iff, hgood, hsigned, runFormatTrustValidationOn_good, accepts_formatQuery]
  simp only [hresult, hexecuted, true_and]

end Pdf

variable (P : PadesEnv) (X : XadesLib) (env : VerifyEnv)

def pdfSigners (pdf : Bytes) : List (Option EngineQuery) :=
  match verifyPdf P pdf with
  | .error _ => []
  | .ok result => pdfResultSigners env result

def PdfAdmissible (pdf : Bytes) : Prop :=
  env.initialized = true ∧ ∃ result, verifyPdf P pdf = .ok result ∧ PdfResultAdmissible result

def pdfDecision (pdf : Bytes) (E : Engines) : Prop :=
  ∃ call, verifyPdfSession P env E pdf = .ok call ∧ decisionValid call.report

theorem pdf_speaks_iff (pdf : Bytes) : SpeaksForAll (pdfDecision P env pdf) (pdfSigners P env pdf) ↔
      (PdfAdmissible P env pdf →
        ∀ q ∈ pdfSigners P env pdf, q ∈ (pdfSigners P env pdf).take 1) := by
  refine spoken_for_iff ?_ ?_
  · rintro E ⟨call, hcall, hdecision⟩
    simp only [verifyPdfSession, bind_eq_ok, require_eq_ok] at hcall
    obtain ⟨-, hinit, result, hresult, hcall⟩ := hcall
    obtain rfl := Except.ok.inj hcall
    obtain ⟨⟨first, rest, hmain⟩, hprofile⟩ := verifyPdf_shape hresult
    obtain ⟨hvalid, haccepts⟩ := (pdfReport_base hmain).mp (decisionValid_base hdecision)
    have htimestamps := decisionValid_timestamps hdecision
    have hadm : PdfResultAdmissible result :=
      { valid := hvalid
        first := by
          rw [hmain]
          rintro _ ⟨⟩
          exact (accepts_formatQuery.mp haccepts).1
        signatures := fun evidence hmem hpresent =>
          certificate_of_present hmem hpresent htimestamps
        profile := fun hb => (timestamps_of_profile hb htimestamps).1
        documents := fun p hp => usable_of_accepted hprofile htimestamps hp }
    refine ⟨⟨hinit, result, hresult, hadm⟩, ?_⟩
    rw [pdfSigners, hresult]
    rw [take_pdfResultSigners hmain]
    rintro q hq
    obtain rfl := mem_singleton.mp hq
    exact haccepts
  · rintro ⟨hinit, result, hresult, hadm⟩
    obtain ⟨⟨first, rest, hmain⟩, -⟩ := verifyPdf_shape hresult
    have hcertificate : (pdfSigner result first).certificateDer ≠ [] :=
      hadm.first first (by rw [hmain]; rfl)
    refine ⟨_, verifyPdfSession_of_ok hinit hresult, ?_⟩
    rw [pdfSigners, hresult]
    rw [take_pdfResultSigners hmain, formatQuery_of_certificate hcertificate]
    refine decisionValid_of_clean ((pdfReport_base hmain).mpr ⟨hadm.valid, ?_⟩) ?_
      (pdfReport_clean hadm hmain)
    · rw [formatQuery_of_certificate hcertificate]
      exact trustOnly_accepts (mem_singleton_self _)
    · rw [pdfReport_core _ _ _ hmain]
      exact format_plain

/-! ### XML -/

def xmlSigners (signedXml : String) : List (Option EngineQuery) :=
  ((verifyAllSigners X signedXml []).toOption.getD []).map (xadesQuery env)

def xmlDecision (signedXml : String) (E : Engines) : Prop :=
  ∃ call, verifyXml X env E signedXml = .ok call ∧ decisionValid call.report

theorem xml_speaks (signedXml : String) :
    SpeaksForAll (xmlDecision X env signedXml) (xmlSigners X env signedXml) := by
  rintro E ⟨call, hcall, hdecision⟩ q hq
  simp only [verifyXml, bind_eq_ok, require_eq_ok] at hcall
  obtain ⟨-, -, signers, hsigners, hcall⟩ := hcall
  obtain rfl := Except.ok.inj hcall
  rw [xmlSigners, hsigners] at hq
  obtain ⟨s, hs, rfl⟩ := mem_map.mp hq
  exact accepts_xadesQuery.mpr (xmlReport_accepts (decisionValid_base hdecision) s hs)

/-! ### All formats -/

/-- **The policy for all signers.**  A positive decision on XML speaks for every signer.  On a CMS,
a PDF and a container it does so exactly if the input is refused anyway or all signers pose a
question on which the decision rests: that of the first signer of the CMS, of the first signature of
the PDF, of the last CAdES signature or all XAdES signatures of the container. -/
theorem all_signers_policy_iff (P : PadesEnv) (T : ContainerLib) (X : XadesLib) (env : VerifyEnv) :
    (∀ data signature,
      SpeaksForAll (fun E => decisionValid (verifyData env E data signature).report)
          (cmsSigners env signature) ↔
        (CmsAdmissible env data signature →
          ∀ q ∈ cmsSigners env signature, q ∈ (cmsSigners env signature).take 1)) ∧
    (∀ pdf,
      SpeaksForAll (pdfDecision P env pdf) (pdfSigners P env pdf) ↔
        (PdfAdmissible P env pdf →
          ∀ q ∈ pdfSigners P env pdf, q ∈ (pdfSigners P env pdf).take 1)) ∧
    (∀ container,
      SpeaksForAll (containerDecision T X env container) (containerSigners T X env container) ↔
        (ContainerAdmissible T X env container →
          ∀ q ∈ containerSigners T X env container, q ∈ containerAsked T X env container)) ∧
    ∀ signedXml, SpeaksForAll (xmlDecision X env signedXml) (xmlSigners X env signedXml) :=
  ⟨cms_speaks_iff env, pdf_speaks_iff P env, container_speaks_iff T X env, xml_speaks X env⟩

def twoSigners : VerifyEnv where
  cms :=
    { decode := fun _ => .ok ⟨[some [1], some [2]], []⟩
      verifySigner := fun _ _ _ => .ok true
      rcError := id
      extractSigningTime := fun _ => none }
  enrichWithAiaIssuers := fun _ embedded => embedded
  timestampAnchors := {}

def secondRevoked : Engines where
  validate _ certificate _ :=
    if certificate = [1] then trustedReport
    else
      { signerRevocation :=
          { overallStatus := .invalid
            revocationStatus := .revoked
            ocspAttempted := true } }
  timestamp _ := validToken

/-- The decision is positive, although the second signer is revoked. -/
theorem revoked_second_signer_accepted :
    (computeVerifyPolicyDecision (verifyData twoSigners secondRevoked [0] [7]).report).valid = true ∧
      (verifyData twoSigners secondRevoked [0] [7]).report.signatures.map (·.signatureValid) =
        [true, true] ∧
      acceptsSigner (judgeCmsSigner twoSigners secondRevoked [7] [] [1]) = true ∧
      acceptsSigner (judgeCmsSigner twoSigners secondRevoked [7] [] [2]) = false ∧
      (judgeCmsSigner twoSigners secondRevoked [7] [] [2]).signerRevocation.revocationStatus =
        .revoked := by
  decide

end Tamga.Session
