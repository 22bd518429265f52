/-
A session in offline mode.

Verification meets the network in four places: an OCSP responder for the signer and one for the
TSA, the lists that are downloaded for them, and the servers with issuer certificates
(`SessionHelpers.ipp`, `EnrichWithAiaIssuersIfNeeded`).  Here the network answers as it likes, and
the runs of one verification over two networks are compared.

* `revocationValidate_asking`, `timestampValidate_asking`, `validate_over` — the engines, where
  their plan does not allow the network;
* `verification_offline` — the verifications of an offline session.
-/
import Tamga.AiaFetch
import Tamga.PdfSession
import Tamga.TimestampEngine
import Tamga.XadesSession

namespace Tamga.Validation

open Policy

/-! ### Revocation -/

variable {Cert Resp Crl : Type} (R : RevocationOracle Cert Resp Crl)

/-- The same library and other responders. -/
def RevocationOracle.asking (post : String → Bytes → Int → HttpPostResult) :
    RevocationOracle Cert Resp Crl :=
  { R with ocsp := { R.ocsp with httpPost := post } }

variable (post : String → Bytes → Int → HttpPostResult)

theorem ocspValidate_of_response {input : OcspValidationInput} (h : input.responseDer ≠ []) :
    ocspValidate (R.asking post).certs (R.asking post).ocsp input =
      ocspValidate R.certs R.ocsp input := by
  simp only [ocspValidate, if_pos h]
  rfl

theorem tryEmbeddedOcsp_asking (input : RevocationEngineInput) : ∀ (responses : List Der) st,
    (∀ r ∈ responses, r ≠ []) →
      tryEmbeddedOcsp (R.asking post) input responses st = tryEmbeddedOcsp R input responses st
  | [], _, _ => rfl
  | r :: rest, st, h => by
    have hr : embeddedOcsp (R.asking post) input r = embeddedOcsp R input r :=
      ocspValidate_of_response R post (h r (.head _))
    have hrest := fun st => tryEmbeddedOcsp_asking input rest st fun x hx => h x (.tail _ hx)
    simp only [tryEmbeddedOcsp, hr, hrest]

/-- An empty response would be taken for none, and the responder be asked. -/
theorem ocspCandidates_ne_nil (input : RevocationEngineInput) :
    ∀ r ∈ ocspCandidates input, r ≠ [] := by
  intro r hr
  rw [ocspCandidates, List.mem_append] at hr
  rcases hr with hr | hr
  · split at hr
    · cases hr
    next hne => rwa [List.mem_singleton.mp hr]
  · simpa using (List.mem_filter.mp hr).2

theorem crlLoop_asking (input : CrlValidationInput) : ∀ (lists : List Der) st,
    crlLoop R.certs (R.asking post).ocsp R.crl input lists st =
      crlLoop R.certs R.ocsp R.crl input lists st
  | [], _ => rfl
  | crl :: rest, st => by
    have hstep : crlStep R.certs (R.asking post).ocsp R.crl input st crl =
      crlStep R.certs R.ocsp R.crl input st crl := rfl
    simp only [crlLoop, hstep, crlLoop_asking input rest]

theorem tryCrls_asking (input : RevocationEngineInput) (st : RevocationState) :
    tryCrls (R.asking post) input st = tryCrls R input st := by
  have hlists : crlValidate (R.asking post).certs (R.asking post).ocsp (R.asking post).crl
      (localCrls input) = crlValidate R.certs R.ocsp R.crl (localCrls input) := by
    rw [crlValidate, crlValidate, ← crlLoop_asking R post]
    rfl
  simp only [tryCrls, hlists]

theorem revocationValidate_asking {input : RevocationEngineInput} (h : input.networkAllowed = false) :
    revocationValidate (R.asking post) input = revocationValidate R input := by
  have hstages : revocationStages (R.asking post) input = revocationStages R input := by
    funext st
    simp only [revocationStages, tryCrls_asking, tryEmbeddedOcsp_asking R post input _ st
      (ocspCandidates_ne_nil input), tryNetwork, h, Bool.false_and, Bool.false_eq_true, if_false]
  simp only [revocationValidate, hstages]
  rfl

/-! ### Timestamps -/

variable (T : TimestampOracle Cert Resp Crl) (crls : String → Der → List Der)

def TimestampOracle.asking : TimestampOracle Cert Resp Crl :=
  { T with revocation := T.revocation.asking post, downloadedCrls := crls }

theorem timestampValidate_asking {input : TimestampEngineInput}
    (h : input.plan.networkAllowed = false) :
    timestampValidate (T.asking post crls) input = timestampValidate T input := by
  have hjudge : judgeRevocation (T.asking post crls) input = judgeRevocation T input := by
    funext v result
    have htsa : tsaRevocation (T.asking post crls) input v result =
        tsaRevocation T input v result := by
      -- there is no second round, and the first one never asks
      simp only [tsaRevocation, h, Bool.false_eq_true, and_false, if_false]
      exact revocationValidate_asking T.revocation post rfl
    simp only [judgeRevocation, htsa]
  simp only [timestampValidate, judgeToken, judgeTime, judgePath, judgeEku, judgeIssuer, hjudge]
  rfl

/-! ### The whole engine -/

/-- What the network answers during a verification. -/
structure Network where
  /-- The OCSP responders. -/
  httpPost : String → Bytes → Int → HttpPostResult
  /-- The cached lists after those of the given certificates have been downloaded. -/
  signerCrls : String → List Der → List Der
  tsaCrls : String → Der → List Der
  /-- The servers with issuer certificates. -/
  servers : Aia.Servers

variable (E : ValidationEnv Cert Resp Crl) (net net' : Network)

def ValidationEnv.over : ValidationEnv Cert Resp Crl :=
  { E with
    revocation := E.revocation.asking net.httpPost
    timestampEngine := timestampValidate (T.asking net.httpPost net.tsaCrls)
    loadCrlsFromWorkDir := fun workDir certificates =>
      if certificates = [] then E.loadCrlsFromWorkDir workDir []
      else net.signerCrls workDir certificates }

theorem resolvePolicy_offline {context : ValidationContext} (h : context.offline = true) :
    (resolvePolicy context).plan.networkAllowed = false := by
  simp only [resolvePolicy, h]
  cases context.profile <;> rfl

theorem timestampEngine_over {input : TimestampEngineInput} (h : input.plan.networkAllowed = false) :
    (E.over T net).timestampEngine input = (E.over T net').timestampEngine input :=
  (timestampValidate_asking _ T _ h).trans (timestampValidate_asking _ T _ h).symm

theorem validate_over {context : ValidationContext} (h : context.offline = true) :
    validate (E.over T net) context = validate (E.over T net') context := by
  funext signer embedded
  have hplan := resolvePolicy_offline h
  have hstamp : timestampStage (E.over T net) (resolvePolicy context) context embedded =
      timestampStage (E.over T net') (resolvePolicy context) context embedded :=
    ite_congr rfl (fun _ => rfl) fun _ => timestampEngine_over T E net net' hplan
  have hrevocation : ∀ selection time,
      revocationStage (E.over T net) (resolvePolicy context) context signer selection time =
        revocationStage (E.over T net') (resolvePolicy context) context signer selection time := by
    intro selection time
    have hinput : revocationInput (E.over T net) (resolvePolicy context) context signer selection time =
        revocationInput (E.over T net') (resolvePolicy context) context signer selection time := by
      simp only [revocationInput, crlPool, hplan, Bool.false_and, Bool.false_eq_true, if_false]
      rfl
    refine ite_congr rfl (fun _ => ?_) fun _ => rfl
    rw [hinput]
    exact (revocationValidate_asking E.revocation _ hplan).trans
      (revocationValidate_asking E.revocation _ hplan).symm
  have hdecision : decisionInput (E.over T net) (resolvePolicy context) context signer embedded =
      decisionInput (E.over T net') (resolvePolicy context) context signer embedded := by
    simp only [decisionInput, hrevocation, signingTimeStage, timestampAttempted, hstamp]
    rfl
  rw [validate, validateWith, hdecision]
  rfl

end Tamga.Validation

namespace Tamga.Session

open Policy Validation Asic Pades

/-! ### The session -/

/-- The stores below the work directory, and the libraries that read them. -/
structure IssuerStores (Cert : Type) where
  certs : CertOracle Cert
  lib : Aia.CertificateLib
  collectTrustAnchors : String → List Der
  collectIntermediateCertificates : String → List Der
  intermediateStore : String → Aia.IntermediateStore

variable {Cert Resp Crl : Type} (S : IssuerStores Cert)

def enrichWithAiaIssuersIfNeeded (servers : Aia.Servers) (workDir : String) (timeoutMs : Int)
    (networkEnabled : Bool) (signerCertificateDer : Der) (embeddedCertificatesDer : List Der) :
    List Der :=
  if networkEnabled = false ∨ workDir = "" ∨ signerCertificateDer = [] then embeddedCertificatesDer
  else
    let anchors := S.collectTrustAnchors workDir
    if anchors = [] then embeddedCertificatesDer
    else
      let intermediates := S.collectIntermediateCertificates workDir
      let probe := chainValidate S.certs
        { signerCertificateDer := signerCertificateDer
          embeddedCertificatesDer := embeddedCertificatesDer
          intermediateCertificatesDer := intermediates
          trustAnchorsDer := anchors }
      if probe.status ≠ .untrusted ∧ probe.status ≠ .incomplete then embeddedCertificatesDer
      else embeddedCertificatesDer ++ (Aia.fetchMissingIssuers S.lib
        { networkEnabled := networkEnabled
          workDir := workDir
          timeoutMs := if timeoutMs > 0 then timeoutMs else 10000
          seedCertificatesDer := signerCertificateDer :: embeddedCertificatesDer ++ intermediates }
        servers (S.intermediateStore workDir)).1.certificatesDer

variable (env : VerifyEnv) (timeoutMs : Int)

/-- What a session verifies with, over a network. -/
def VerifyEnv.over (net : Network) : VerifyEnv :=
  { env with
    enrichWithAiaIssuers := enrichWithAiaIssuersIfNeeded S net.servers env.settings.workDir timeoutMs
      (!env.settings.offlineMode && env.settings.allowAiaIssuerFetch) }

def VerifyEnv.offline : VerifyEnv :=
  { env with settings := { env.settings with offlineMode := true } }

theorem offline_over (net : Network) : env.offline.over S timeoutMs net =
    VerifyEnv.offline { env with enrichWithAiaIssuers := fun _ embedded => embedded } := by
  have hnone : enrichWithAiaIssuersIfNeeded S net.servers env.settings.workDir timeoutMs false =
      fun _ embedded => embedded := by
    funext signer embedded
    rw [enrichWithAiaIssuersIfNeeded]
    exact if_pos (Or.inl rfl)
  rw [VerifyEnv.over, ← hnone]
  rfl

variable (E : Engines)

/-- Engines to which every question is put as one of an offline session. -/
def Engines.offline (workDir : String) : Engines where
  validate context := E.validate { context with offline := true }
  timestamp input := E.timestamp { input with
    plan := (resolvePolicy
      { profile := input.profile, level := input.level, offline := true, workDir := workDir }).plan }

theorem pdfReport_offline :
    pdfReport env.offline E = pdfReport env.offline (E.offline env.settings.workDir) := by
  have hreports : pdfSignerReports env.offline E =
    pdfSignerReports env.offline (E.offline env.settings.workDir) := rfl
  have hdetails : documentDetails env.offline E =
    documentDetails env.offline (E.offline env.settings.workDir) := rfl
  have hreason : documentReason env.offline E =
    documentReason env.offline (E.offline env.settings.workDir) := rfl
  have hfull : canonicalTimestampFull env.offline E =
    canonicalTimestampFull env.offline (E.offline env.settings.workDir) := rfl
  funext result
  rw [pdfReport, pdfSignersReport, addDocumentTimestamps, applyPadesTimestampVerdict, hreports,
    hdetails, hreason, hfull]
  rfl

/-- **Offline means offline.**  In offline mode the verification of a CMS, of a PDF file, of an XML
document and of a container give the same results and the same reports over any two networks. -/
theorem verification_offline (T : TimestampOracle Cert Resp Crl) (V : ValidationEnv Cert Resp Crl)
    (P : PadesEnv) (X : XadesLib) (C : ContainerLib) (net net' : Network) :
    let session := env.offline.over S timeoutMs
    let engines := fun net => Engines.ofEnv (V.over T net)
    verifyData (session net) (engines net) = verifyData (session net') (engines net') ∧
    verifyPdfSession P (session net) (engines net) =
      verifyPdfSession P (session net') (engines net') ∧
    verifyXml X (session net) (engines net) = verifyXml X (session net') (engines net') ∧
    verifyFileAsicE C (session net) (engines net)
        (verifyFileAsicEXades X (session net) (engines net)) =
      verifyFileAsicE C (session net') (engines net')
        (verifyFileAsicEXades X (session net') (engines net')) := by
  have hengines : ∀ workDir, (Engines.ofEnv (V.over T net)).offline workDir =
      (Engines.ofEnv (V.over T net')).offline workDir := by
    intro workDir
    refine congrArg₂ Engines.mk (funext fun context => ?_) (funext fun input => ?_)
    · exact validate_over T V net net' rfl
    · exact timestampEngine_over T V net net' (resolvePolicy_offline rfl)
  dsimp only
  rw [offline_over, offline_over]
  set e : VerifyEnv := { env with enrichWithAiaIssuers := fun _ embedded => embedded }
  -- a session of that kind only puts questions of that kind
  have hdata : ∀ E, verifyData e.offline E =
    verifyData e.offline (E.offline e.settings.workDir) := fun _ => rfl
  have hxml : ∀ E, verifyXml X e.offline E =
    verifyXml X e.offline (E.offline e.settings.workDir) := fun _ => rfl
  have hxades : ∀ E, verifyFileAsicEXades X e.offline E =
    verifyFileAsicEXades X e.offline (E.offline e.settings.workDir) := fun _ => rfl
  have hasic : ∀ E route, verifyFileAsicE C e.offline E route =
    verifyFileAsicE C e.offline (E.offline e.settings.workDir) route := fun _ _ => rfl
  refine ⟨?_, ?_, ?_, ?_⟩
  · rw [hdata, hengines, ← hdata]
  · unfold verifyPdfSession
    rw [pdfReport_offline, hengines, ← pdfReport_offline]
  · rw [hxml, hengines, ← hxml]
  · rw [hasic, hxades, hengines, ← hxades, ← hasic]

end Tamga.Session
