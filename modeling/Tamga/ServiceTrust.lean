/-
Trust at the level of the service (`TrustServiceEvaluator`, step 8 of
`ValidationEngine::Validate`).

The legal profile asks at the level `Extended` and above that the certificate belong to a
granted service of the trust list.  Trust lists name the certificates of CAs and of timestamp
authorities.  The engine looks up the certificate of the signer.

* `serviceTrusted_iff` — what the evaluator answers;
* `agreesWithCache_iff` — for which trust lists the evaluator calls the same services granted as
  the policy cache, which fills the trust stores, and does not depend on their order;
* `service_trust_attained_iff` — for which trust lists a signature that meets every other
  requirement is valid, and `granted_issuer_refused` one for which it is not.
-/
import Tamga.ValidationEngine

namespace Tamga.Validation

open Policy List

section Service

variable {Cert Resp Crl : Type} (E : ValidationEnv Cert Resp Crl) (context : ValidationContext)
  (signer : Der) (embedded : List Der)

/-- The text of the trust list that a run consults. -/
def selectedTrustList : String :=
  E.readTrustListXml context.workDir (snapshotStage E (resolvePolicy context) context
    (validate E context signer embedded).signingTimeResolution.signatureEvaluationTime)

def selectedServices : List TrustListServiceRecord :=
  (E.parseTrustList (selectedTrustList E context signer embedded)).services

/-- Everything that is asked of a signature under the legal profile at `Extended` level or
above, and a granted service for the CA that issued the signer's certificate. -/
structure ServicePremises : Prop where
  profile : context.profile = .ukraineLegal
  level : isExtendedOrHigher context.level = true
  signature : context.signatureCryptoValid = true
  path : (validate E context signer embedded).pathSelection.selectedIndex.isSome = true ∧
    (validate E context signer embedded).pathSelection.selectedResult.trusted = true
  timestamp : (validate E context signer embedded).timestampAttempted = true ∧
    (validate E context signer embedded).timestamp.valid = true ∧
    (validate E context signer embedded).signingTimeResolution.trustedTime = true
  revocation : (validate E context signer embedded).signerRevocation.overallStatus = .valid
  trustList : selectedTrustList E context signer embedded ≠ "" ∧
    (E.parseTrustList (selectedTrustList E context signer embedded)).ok = true
  issuer : ∃ service ∈ selectedServices E context signer embedded,
    (validate E context signer embedded).pathSelection.selectedResult.signerIssuerCertificateDer ∈
        service.certificates ∧
      containsText service.status "/granted" = true

/-- The first service of a list that names a certificate is granted. -/
def NamedAndGranted (services : List TrustListServiceRecord) (certificate : Der) : Prop :=
  ∃ service, services.find? (fun s => s.certificates.contains certificate) = some service ∧
    containsText service.status "/granted" = true

/-- **The evaluator** answers for the certificate it is given. -/
theorem serviceTrusted_iff {parse : String → TrustListParseResult} {certificate : Der}
    {xml evidence : String} (hcert : certificate ≠ []) (hok : (parse xml).ok = true) :
    (trustServiceEvaluate parse certificate xml evidence).serviceTrusted = true ↔
      NamedAndGranted (parse xml).services certificate := by
  rw [trustServiceEvaluate, if_neg hcert]
  simp only [hok, Bool.not_true, Bool.false_eq_true, if_false, NamedAndGranted]
  cases hfind : (parse xml).services.find? fun s => s.certificates.contains certificate with
  | none => exact iff_of_false Bool.false_ne_true (by rintro ⟨_, h, _⟩; cases h)
  | some service =>
    constructor
    · exact fun h => ⟨service, rfl, h⟩
    · rintro ⟨service', h, hgranted⟩
      obtain rfl := Option.some.inj h
      exact hgranted

variable {E context signer embedded}

/-- The gates other than the one for the service let the signature pass. -/
theorem ServicePremises.valid_iff (h : ServicePremises E context signer embedded) :
    (validate E context signer embedded).decision.overallStatus = .valid ↔
      (validate E context signer embedded).trustService.serviceTrusted = true := by
  have hpolicy : (resolvePolicy context).policy.requireServiceLevelTrust = true := by
    rw [resolvePolicy]
    simp [h.profile, h.level]
  have hpath : (decisionInput E (resolvePolicy context) context signer embedded).pathTrusted = true :=
    Bool.and_eq_true_iff.mpr h.path
  have hrevocation : (decisionInput E (resolvePolicy context) context signer
      embedded).signerRevocation.overallStatus = .valid := h.revocation
  rw [validate, validateWith_valid_iff]
  constructor
  · rintro ⟨hgates, -⟩
    have hservice := (Bool.and_eq_true_iff.mp hgates.trust).2
    have hpolicy' : (decisionInput E (resolvePolicy context) context signer
        embedded).policy.requireServiceLevelTrust = true := hpolicy
    rw [DecisionInput.serviceLevelOk, hpolicy', Bool.not_true, Bool.false_or] at hservice
    exact hservice
  · intro hservice
    refine ⟨⟨?_, h.signature, ?_, ?_, ?_⟩, ?_⟩
    · intro hbasic
      have hlevel := h.level
      rw [hbasic] at hlevel
      cases hlevel
    · rw [DecisionInput.signerRevoked, hrevocation]
      exact Bool.and_false _
    · refine Bool.and_eq_true_iff.mpr ⟨hpath, Bool.or_eq_true_iff.mpr (.inr hservice)⟩
    · rw [DecisionInput.revocationOpen, hrevocation]
      rfl
    · have hvalid : (timestampStage E (resolvePolicy context) context embedded).valid = true :=
        h.timestamp.2.1
      rw [hvalid, Bool.not_true, Bool.and_false, Bool.false_and]

/-- **Service-level trust.**  A signature that meets every other requirement and whose issuer
belongs to a granted service is valid exactly if the trust list names the certificate of the
signer itself, first in a granted service. -/
theorem service_trust_attained_iff {Cert Resp Crl : Type} (E : ValidationEnv Cert Resp Crl)
    (context : ValidationContext) (signer : Der) (embedded : List Der)
    (h : ServicePremises E context signer embedded) :
    (validate E context signer embedded).decision.overallStatus = .valid ↔
      NamedAndGranted (selectedServices E context signer embedded) signer := by
  have hsigner : signer ≠ [] := by
    obtain ⟨-, -, -, -, -, start, hstart, -⟩ := decisionInput_path (Bool.and_eq_true_iff.mpr h.path)
    exact signer_ne_nil_of_path hstart
  have hstage : (validate E context signer embedded).trustService =
      trustServiceEvaluate E.parseTrustList signer (selectedTrustList E context signer embedded)
        (stableSnapshotId (E.relativePath context.workDir (snapshotStage E (resolvePolicy context)
          context (validate E context signer embedded).signingTimeResolution.signatureEvaluationTime)))
      := by
    show trustServiceStage E context signer _ = _
    exact if_pos ⟨h.trustList.1, hsigner⟩
  rw [h.valid_iff, hstage, serviceTrusted_iff hsigner h.trustList.2]
  rfl

end Service

/-! ### The evaluator and the policy cache -/

def isGrantedService (service : TrustListServiceRecord) : Bool :=
  service.status ∈ ["http://czo.gov.ua/TrstSvc/TrustedList/Svcstatus/granted",
    "http://uri.etsi.org/TrstSvc/TrustedList/Svcstatus/granted",
    "http://czo.gov.ua/TrstSvc/TrustedList/Svcstatus/recognisedatnationallevel",
    "http://uri.etsi.org/TrstSvc/TrustedList/Svcstatus/recognisedatnationallevel"]

structure CertificateMaterializationDecision where
  granted : Bool := false
  isCa : Bool := false
  keyCertSign : Bool := false
  materialize : Bool := false
  target : String := "skip"
  reason : String := "not evaluated"

/-- `ClassifyMaterializationCandidate`.  `decode` reads whether a certificate is a CA and has
`keyCertSign`. -/
def classifyMaterializationCandidate (decode : Der → Option (Bool × Bool))
    (service : TrustListServiceRecord) (certificate : Der) (isHistorical : Bool) :
    CertificateMaterializationDecision :=
  if isGrantedService service = false then { reason := "service status is not granted" }
  else match if certificate = [] then none else decode certificate with
  | none => { granted := true, reason := "certificate cannot be decoded" }
  | some (isCa, keyCertSign) =>
    let decision : CertificateMaterializationDecision :=
      { granted := true, isCa := isCa, keyCertSign := keyCertSign }
    if service.serviceType ∈ ["http://czo.gov.ua/TrstSvc/Svctype/MR-TSA/QTST",
        "http://czo.gov.ua/TrstSvc/Svctype/National-TSA/QTST"] then
      { decision with
        materialize := true
        target := if isHistorical then "historical-tsa-store" else "tsa-store"
        reason := "granted TSA endpoint certificate from trust list" }
    else if isCa = false then { decision with reason := "basicConstraints CA is false or missing" }
    else if keyCertSign = false ∧ service.serviceType ∉ ["http://czo.gov.ua/TrstSvc/Svctype/CA/QC",
        "http://czo.gov.ua/TrstSvc/Svctype/MR-CA/QC",
        "http://czo.gov.ua/TrstSvc/Svctype/NationalRootCA-QC"] then
      { decision with reason := "keyUsage keyCertSign is false or missing" }
    else
      { decision with
        materialize := true
        target := if isHistorical then "historical-trust-store" else "trust-store"
        reason := if keyCertSign then "granted CA certificate with keyCertSign"
          else "granted CA certificate from trust list (keyCertSign is 0/missing but service type " ++
            "is CA)" }

theorem classify_granted (decode : Der → Option (Bool × Bool)) (service : TrustListServiceRecord)
    (certificate : Der) (isHistorical : Bool) :
    (classifyMaterializationCandidate decode service certificate isHistorical).granted =
      isGrantedService service := by
  rw [classifyMaterializationCandidate]
  cases isGrantedService service with
  | false => rfl
  | true =>
    rw [if_neg (by decide)]
    split
    · rfl
    · dsimp only
      split_ifs <;> rfl

theorem classify_materialize {decode : Der → Option (Bool × Bool)}
    {service : TrustListServiceRecord} {certificate : Der} {isHistorical : Bool}
    (h : (classifyMaterializationCandidate decode service certificate isHistorical).materialize =
      true) : isGrantedService service = true ∧ certificate ≠ [] := by
  rw [classifyMaterializationCandidate] at h
  cases hgranted : isGrantedService service with
  | false => rw [hgranted] at h; cases h
  | true =>
    refine ⟨rfl, fun hempty => ?_⟩
    rw [hgranted, if_neg (by decide), hempty, if_pos rfl] at h
    cases h

variable (services : List TrustListServiceRecord)

/-- What the evaluator says of a certificate, for a list with the services. -/
def judgedTrusted (certificate : Der) : Bool :=
  (trustServiceEvaluate (fun _ => { ok := true, services := services }) certificate "" "").serviceTrusted

/-- The evaluator does not depend on the order of the services, calls the same services granted as
the policy cache, and the two judge no certificate differently. -/
structure AgreesWithCache : Prop where
  order : ∀ services' certificate, services'.Perm services →
    judgedTrusted services' certificate = judgedTrusted services certificate
  granted : ∀ service ∈ services, containsText service.status "/granted" = isGrantedService service
  materialized : ∀ decode isHistorical, ∀ service ∈ services, ∀ certificate ∈ service.certificates,
    (classifyMaterializationCandidate decode service certificate isHistorical).materialize = true →
      judgedTrusted services certificate = true
  trusted : ∀ decode isHistorical, ∀ service ∈ services, ∀ certificate ∈ service.certificates,
    judgedTrusted services certificate = true →
      (classifyMaterializationCandidate decode service certificate isHistorical).granted = true

/-- The conditions on the list: the statuses with `/granted` are the two granted ones, there is no
service recognised at national level, and services that share a certificate agree. -/
structure UnambiguousServices : Prop where
  granted : ∀ service ∈ services, containsText service.status "/granted" = true →
    service.status ∈ ["http://czo.gov.ua/TrstSvc/TrustedList/Svcstatus/granted",
      "http://uri.etsi.org/TrstSvc/TrustedList/Svcstatus/granted"]
  notRecognised : ∀ service ∈ services, service.status ∉
    ["http://czo.gov.ua/TrstSvc/TrustedList/Svcstatus/recognisedatnationallevel",
      "http://uri.etsi.org/TrstSvc/TrustedList/Svcstatus/recognisedatnationallevel"]
  shared : ∀ service ∈ services, ∀ service' ∈ services, ∀ certificate ∈ service.certificates,
    certificate ≠ [] → certificate ∈ service'.certificates →
      containsText service.status "/granted" = containsText service'.status "/granted"

section Agreement

variable {services} {service : TrustListServiceRecord} {certificate : Der}

theorem judgedTrusted_iff (hcert : certificate ≠ []) :
    judgedTrusted services certificate = true ↔ NamedAndGranted services certificate :=
  serviceTrusted_iff hcert rfl

theorem named_of_find {first : TrustListServiceRecord}
    (h : services.find? (fun s => s.certificates.contains certificate) = some first) :
    first ∈ services ∧ certificate ∈ first.certificates := by
  have hcontains := List.find?_some h
  exact ⟨mem_of_find?_eq_some h, contains_iff_mem.mp hcontains⟩

theorem judgedTrusted_eq (hcert : certificate ≠ []) (hservice : service ∈ services)
    (hmem : certificate ∈ service.certificates)
    (hshared : ∀ s ∈ services, certificate ∈ s.certificates →
      containsText s.status "/granted" = containsText service.status "/granted") :
    judgedTrusted services certificate = containsText service.status "/granted" := by
  rw [Bool.eq_iff_iff, judgedTrusted_iff hcert]
  have hfound : (services.find? fun s => s.certificates.contains certificate).isSome = true :=
    List.find?_isSome.mpr ⟨service, hservice, contains_iff_mem.mpr hmem⟩
  obtain ⟨first, hfirst⟩ := Option.isSome_iff_exists.mp hfound
  obtain ⟨hin, hnamed⟩ := named_of_find hfirst
  have hagree := hshared first hin hnamed
  constructor
  · rintro ⟨s, hs, hgranted⟩
    obtain rfl := Option.some.inj (hs.symm.trans hfirst)
    rw [← hagree, hgranted]
  · exact fun h => ⟨first, hfirst, hagree.trans h⟩

theorem judgedTrusted_cons (hcert : certificate ≠ []) (hmem : certificate ∈ service.certificates)
    (rest : List TrustListServiceRecord) :
    judgedTrusted (service :: rest) certificate = containsText service.status "/granted" := by
  rw [Bool.eq_iff_iff, judgedTrusted_iff hcert, NamedAndGranted]
  simp [hmem]

theorem judgedTrusted_unnamed (h : ∀ s ∈ services, certificate ∉ s.certificates) :
    judgedTrusted services certificate = false := by
  by_cases hcert : certificate = []
  · rw [hcert]
    rfl
  · rw [Bool.eq_false_iff, Ne, judgedTrusted_iff hcert]
    rintro ⟨s, hs, -⟩
    obtain ⟨hin, hnamed⟩ := named_of_find hs
    exact h s hin hnamed

theorem UnambiguousServices.isGranted (h : UnambiguousServices services)
    (hservice : service ∈ services) :
    containsText service.status "/granted" = isGrantedService service := by
  have hnot := h.notRecognised service hservice
  rw [Bool.eq_iff_iff, isGrantedService, decide_eq_true_iff]
  constructor
  · intro hgranted
    exact mem_append_left _ (h.granted service hservice hgranted)
  · intro hmem
    have hmem' : service.status ∈ ["http://czo.gov.ua/TrstSvc/TrustedList/Svcstatus/granted",
        "http://uri.etsi.org/TrstSvc/TrustedList/Svcstatus/granted"] :=
      (mem_append.mp hmem).resolve_right hnot
    simp only [mem_cons, not_mem_nil, or_false] at hmem'
    rcases hmem' with hstatus | hstatus <;> rw [hstatus] <;> decide

theorem not_granted_of_recognised {status : String} (h : status ∈
    ["http://czo.gov.ua/TrstSvc/TrustedList/Svcstatus/recognisedatnationallevel",
      "http://uri.etsi.org/TrstSvc/TrustedList/Svcstatus/recognisedatnationallevel"]) :
    ¬ containsText status "/granted" = true := by
  simp only [mem_cons, not_mem_nil, or_false] at h
  rcases h with rfl | rfl <;> decide

/-- **The evaluator and the policy cache agree on a trust list exactly if its services are
unambiguous.** -/
theorem agreesWithCache_iff (services : List TrustListServiceRecord) :
    AgreesWithCache services ↔ UnambiguousServices services := by
  constructor
  · rintro ⟨horder, hgranted, -, -⟩
    refine ⟨fun service hservice hstatus => ?_, fun service hservice hstatus => ?_, ?_⟩
    · have hmem := (hgranted service hservice).symm.trans hstatus
      rw [isGrantedService, decide_eq_true_iff] at hmem
      refine (mem_append.mp (show service.status ∈ [_, _] ++ [_, _] from hmem)).resolve_right ?_
      exact fun hrecognised => not_granted_of_recognised hrecognised hstatus
    · refine not_granted_of_recognised hstatus ((hgranted service hservice).trans ?_)
      rw [isGrantedService, decide_eq_true_iff]
      exact mem_append_right [_, _] hstatus
    · intro service hservice service' hservice' certificate hmem hcert hmem'
      have hfirst := fun {s : TrustListServiceRecord} (hs : s ∈ services)
          (hm : certificate ∈ s.certificates) =>
        (judgedTrusted_cons hcert hm (services.erase s)).symm.trans
          (horder _ certificate (perm_cons_erase hs).symm)
      rw [hfirst hservice hmem, hfirst hservice' hmem']
  · intro h
    have hshared : ∀ {service certificate}, service ∈ services → certificate ∈ service.certificates →
        certificate ≠ [] →
        judgedTrusted services certificate = containsText service.status "/granted" :=
      fun hservice hmem hcert => judgedTrusted_eq hcert hservice hmem fun s hs hms =>
        h.shared s hs _ hservice _ hms hcert hmem
    refine ⟨fun services' certificate hperm => ?_, fun service hservice => h.isGranted hservice,
      fun decode hist service hservice certificate hmem hmaterialize => ?_,
      fun decode hist service hservice certificate hmem htrusted => ?_⟩
    · by_cases hnamed : certificate ≠ [] ∧ ∃ s ∈ services, certificate ∈ s.certificates
      · obtain ⟨hcert, s, hs, hmem⟩ := hnamed
        rw [hshared hs hmem hcert]
        refine judgedTrusted_eq hcert (hperm.mem_iff.mpr hs) hmem fun s' hs' hmem' => ?_
        exact h.shared s' (hperm.mem_iff.mp hs') s hs certificate hmem' hcert hmem
      · by_cases hcert : certificate = []
        · rw [hcert]
          rfl
        · have hnone : ∀ s ∈ services, certificate ∉ s.certificates :=
            fun s hs hmem => hnamed ⟨hcert, s, hs, hmem⟩
          rw [judgedTrusted_unnamed hnone,
            judgedTrusted_unnamed fun s hs => hnone s (hperm.mem_iff.mp hs)]
    · obtain ⟨hgranted, hcert⟩ := classify_materialize hmaterialize
      rw [hshared hservice hmem hcert, h.isGranted hservice, hgranted]
    · have hcert : certificate ≠ [] := fun hempty => by rw [hempty] at htrusted; cases htrusted
      rw [classify_granted, ← h.isGranted hservice, ← hshared hservice hmem hcert, htrusted]

end Agreement

/-- A CA that is recognised at national level is materialised, and the evaluator does not trust
it; and of two services for one certificate the first decides. -/
theorem recognised_not_trusted : (classifyMaterializationCandidate (fun _ => some (true, true))
      { status := "http://czo.gov.ua/TrstSvc/TrustedList/Svcstatus/recognisedatnationallevel"
        certificates := [[7]] } [7] false).materialize = true ∧
    judgedTrusted [{ status := "http://czo.gov.ua/TrstSvc/TrustedList/Svcstatus/" ++
      "recognisedatnationallevel", certificates := [[7]] }] [7] = false ∧
    judgedTrusted [{ status := "x/granted", certificates := [[7]] }, { certificates := [[7]] }] [7] ≠
      judgedTrusted [{ certificates := [[7]] }, { status := "x/granted", certificates := [[7]] }]
        [7] := by
  decide

/-! ### A trust list that names the issuer -/

/-- The environment of `grantingEnv` with one granted service for some certificates. -/
def listingEnv (certificates : List Der) : ValidationEnv Der Der Der :=
  { grantingEnv "20240301020304Z" with
    parseTrustList := fun _ =>
      { ok := true, services := [{ status := "svcstatus/granted", certificates := certificates }] } }

theorem listingEnv_premises_both :
    ServicePremises (listingEnv [[9], [7]]) (legalContext [5]) [7] [] :=
  ⟨rfl, rfl, rfl, by decide, by decide, by decide, by decide,
    { status := "svcstatus/granted", certificates := [[9], [7]] }, by decide, by decide, by decide⟩

theorem listingEnv_premises_issuer : ServicePremises (listingEnv [[9]]) (legalContext [5]) [7] [] :=
  ⟨rfl, rfl, rfl, by decide, by decide, by decide, by decide,
    { status := "svcstatus/granted", certificates := [[9]] }, by decide, by decide, by decide⟩

/-- A list that names the signer beside the CA. -/
theorem named_signer_valid :
    (validate (listingEnv [[9], [7]]) (legalContext [5]) [7] []).decision.overallStatus = .valid :=
  (service_trust_attained_iff (listingEnv [[9], [7]]) (legalContext [5]) [7] []
    listingEnv_premises_both).mpr
    ⟨{ status := "svcstatus/granted", certificates := [[9], [7]] }, by decide, by decide⟩

/-- **A granted issuer is not enough.**  The list names the CA of the signer, and the verdict is
`Indeterminate`. -/
theorem granted_issuer_refused : ServicePremises (listingEnv [[9]]) (legalContext [5]) [7] [] ∧
      (validate (listingEnv [[9]]) (legalContext [5]) [7] []).decision.overallStatus =
        .indeterminate :=
  ⟨listingEnv_premises_issuer, by decide⟩

end Tamga.Validation
