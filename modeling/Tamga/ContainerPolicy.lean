/-
On whose account is the decision on an ASiC-E container positive?

A container with XAdES signatures is judged by all of them; CAdES signatures beside
them are not looked at.  A container with CAdES signatures only is judged by the last
call of `VerifyData`, and so by the first signer of the last signature.

* `content_sound`, `content_reach` — CAdES signatures;
* `asicXades_sound`, `asicXades_reach` — XAdES signatures;
* `container_speaks_iff` — when the decision speaks for every signer.
-/
import Tamga.SignerQuestions
import Tamga.XadesSession

namespace Tamga.Session

open Util Zip Asic Policy Validation List

/-! ### Containers with CAdES signatures -/

section Cades

variable (T : ContainerLib) (env : VerifyEnv) (content : AsicEContent)

def contentSigners : List (Option EngineQuery) :=
  content.signatures.flatMap fun s => cmsSigners env s.signatureData

/-- The signer about whom the last call of `VerifyData` asks. -/
def contentAsked : List (Option EngineQuery) :=
  ((content.signatures.getLast?.map fun s => cmsSigners env s.signatureData).getD []).take 1

theorem cmsVerified_iff {E : Engines} {data signature : Bytes} :
    cmsVerified env E data signature = true ↔ CmsAdmissible env data signature := by
  rw [cmsVerified, verifyData, CmsAdmissible]
  cases env.initialized with
  | false => simp
  | true =>
    cases verifyCms env.cms data signature <;> simp

/-- Apart from the engines nothing stands against a positive decision: no signature leaves a
structural error, the last one is valid, and so is a timestamp over a container that is verified and
covered as a whole. -/
structure ContentAdmissible : Prop where
  faultless : ∀ s ∈ content.signatures, ¬ Faulty T env silentEngines content s
  last : ∃ data signature, lastCall T content = some (data, signature) ∧
    CmsAdmissible env data signature
  timestamp : (∀ s ∈ content.signatures, Verifies T env silentEngines content s) →
    (∀ f ∈ content.files, ∃ s ∈ content.signatures, ∃ parts,
      VerifiesOver T env silentEngines content s parts ∧
        f.name ∈ parts.files.map AsicFileEntry.name) →
    content.timestampData ≠ [] →
    T.tokenValid content.timestampData
      ((content.signatures.head?.map Asic.SignatureEntry.signatureData).getD []) = true

variable {T env content} {E E' : Engines}

theorem cmsVerified_engines {data signature : Bytes} :
    cmsVerified env E data signature = cmsVerified env E' data signature := by
  rw [Bool.eq_iff_iff, cmsVerified_iff, cmsVerified_iff]

variable {s : Asic.SignatureEntry}

theorem VerifiesOver.engines {parts : SignedParts}
    (h : VerifiesOver T env E content s parts) : VerifiesOver T env E' content s parts :=
  ⟨h.resolved, cmsVerified_engines.trans h.signed, h.digests⟩

theorem Verifies.engines (h : Verifies T env E content s) : Verifies T env E' content s := by
  obtain ⟨parts, hparts⟩ := h
  exact ⟨parts, hparts.engines⟩

theorem Faulty.engines (h : Faulty T env E content s) : Faulty T env E' content s := by
  rcases h with ⟨e, he⟩ | ⟨parts, e, hparts, hsigned, hdigests⟩
  · exact .unresolved e he
  · exact .mismatch parts e hparts (cmsVerified_engines.trans hsigned) hdigests

theorem baseReport_core (hfaults : ∀ s ∈ content.signatures, ¬ Faulty T env E content s)
    (hne : content.signatures ≠ []) :
    ∃ data signature, lastCall T content = some (data, signature) ∧
      contentAsked env content = (cmsSigners env signature).take 1 ∧
      (baseReport (signatureLoop T env E content)).core =
        (verifyData env E data signature).report.core ∧
      (baseReport (signatureLoop T env E content)).timestampStatus =
        (verifyData env E data signature).report.timestampStatus := by
  obtain ⟨last, data, hlast, hcall, hreport⟩ := lastCall_of_faultless hne hfaults
  refine ⟨data, last.signatureData, hcall, ?_, ?_⟩
  · rw [contentAsked, hlast]
    rfl
  · have herror : ¬ (signatureLoop T env E content).structuralError ≠ "" :=
      not_not.mpr (signatureLoop_facts.noError.mpr hfaults)
    rw [← hreport, baseReport, if_neg herror]
    split <;> exact ⟨rfl, rfl⟩

theorem containerReport_base {st : LoopState}
    (h : policyBaseValid (containerReport content st) = true) :
    policyBaseValid (baseReport st) = true :=
  policyBaseValid_of_timestamps (r := { baseReport st with signatures := st.signatureEntries }) h

theorem signature_ne_nil {parts : SignedParts}
    (h : resolveSignature T.xml content s = .ok parts) : s.signatureData ≠ [] := by
  intro hnil
  simp only [resolveSignature, bind_eq_ok] at h
  obtain ⟨files, hfiles, -⟩ := h
  rw [findAsicEReferencedFiles, if_pos hnil] at hfiles
  cases hfiles

theorem content_sound (hne : content.signatures ≠ [])
    (h : decisionValid (verifyContent T env E content).report) :
    ContentAdmissible T env content ∧ ∀ q ∈ contentAsked env content, E.accepts q := by
  have hbase := decisionValid_base h
  obtain ⟨hfaults, -⟩ := (reported_valid_iff hne).mp ((policyBaseValid_iff _).mp hbase).1.2.2
  obtain ⟨data, signature, hcall, hasked, hcore, -⟩ := baseReport_core hfaults hne
  have hlast : policyBaseValid (verifyData env E data signature).report = true := by
    rw [← policyBaseValid_of_core hcore]
    refine @containerReport_base content _ ?_
    rw [verifyContent] at hbase
    split at hbase
    · rwa [policyBaseValid_of_core (applyContainerTimestamp_core T content _)] at hbase
    · exact hbase
  obtain ⟨hadm, haccepts⟩ := verifyData_base.mp hlast
  refine ⟨⟨fun s hs hfault => hfaults s hs hfault.engines, ⟨data, signature, hcall, hadm⟩, ?_⟩, ?_⟩
  · intro hverifies hcovered hts
    have hvalid : (verifyContent T env E content).isValid = true := by
      refine (verifyContent_valid_iff hne).mpr ⟨fun s hs => (hverifies s hs).engines, ?_⟩
      intro f hf
      obtain ⟨s, hs, parts, hparts, hname⟩ := hcovered f hf
      exact ⟨s, hs, parts, hparts.engines, hname⟩
    have hstatus := (decisionValid_timestamps h).status
    rw [verifyContent] at hstatus hvalid
    rw [if_pos ⟨hvalid, hts⟩, applyContainerTimestamp] at hstatus
    rw [appendContainerTimestampMessage, (appendVerifyReportNote_timestamps _ _ _).2] at hstatus
    exact (of_format_verdict_status hstatus).1
  · rw [hasked]
    exact haccepts

/-! The engines that accept given signers only. -/

def EntriesClean (st : LoopState) : Prop :=
  ∀ e ∈ st.signatureEntries, ∀ d ∈ e.timestampDetails,
    d.valid = true ∧ d.status = "timestamp-valid"

theorem EntriesClean.snoc {st st' : LoopState} {e : SignatureEntry} (h : EntriesClean st)
    (hentries : st'.signatureEntries = st.signatureEntries ++ [e])
    (he : ∀ d ∈ e.timestampDetails, d.valid = true ∧ d.status = "timestamp-valid") :
    EntriesClean st' := by
  intro x hx
  rw [hentries, mem_append, mem_singleton] at hx
  rcases hx with hx | rfl
  · exact h x hx
  · exact he

theorem checkedEntry_clean {index : Nat} {valid : Bool} {call : VerifyCall}
    (h : CleanTimestamps call.report) :
    ∀ d ∈ (checkedEntry index valid call).timestampDetails,
      d.valid = true ∧ d.status = "timestamp-valid" := by
  intro d hd
  rw [checkedEntry] at hd
  split at hd
  · obtain ⟨d', hd', rfl⟩ := mem_map.mp hd
    exact h.details d' hd'
  · cases hd

theorem EntriesClean.step {asked : List (Option EngineQuery)} {st : LoopState}
    (h : EntriesClean st) (s : Asic.SignatureEntry) :
    EntriesClean (signatureStep T env (trustOnly asked) content st s) := by
  rw [signatureStep]
  split
  · exact h.snoc rfl fun d hd => absurd hd (not_mem_nil)
  · exact h.snoc rfl (checkedEntry_clean verifyData_clean)

theorem signatureLoop_clean {asked : List (Option EngineQuery)} :
    EntriesClean (signatureLoop T env (trustOnly asked) content) :=
  List.foldlRecOn _ _ (fun _ he => absurd he not_mem_nil) fun _ h s _ => h.step s

theorem applyContainerTimestamp_clean {asked : List (Option EngineQuery)} {r : VerifyReport}
    (h : CleanTimestamps r) (hts : content.timestampData ≠ [])
    (hsignature : (content.signatures.head?.map Asic.SignatureEntry.signatureData).getD [] ≠ [])
    (hvalid : T.tokenValid content.timestampData
      ((content.signatures.head?.map Asic.SignatureEntry.signatureData).getD []) = true) :
    CleanTimestamps (applyContainerTimestamp T env (trustOnly asked) content r) := by
  have hverdict : tryCanonicalTimestampVerdict env (trustOnly asked) content.timestampData
      ((content.signatures.head?.map Asic.SignatureEntry.signatureData).getD []) "" {} =
        some ⟨true, "", validEntry⟩ := if_neg (not_or.mpr ⟨hts, hsignature⟩)
  have hadded : CleanTimestamps { r with
      timestampChecked := true
      timestampDetails := r.timestampDetails ++ [{ validEntry with kind := "container" }]
      tspChecked := true } := by
    refine ⟨fun d hd => ?_, h.status⟩
    rcases mem_append.mp hd with hd | hd
    · exact h.details d hd
    · obtain rfl := mem_singleton.mp hd
      exact ⟨rfl, rfl⟩
  rw [applyContainerTimestamp]
  rw [hverdict, hvalid, appendContainerTimestampMessage]
  obtain ⟨hdetails, hstatus⟩ := appendVerifyReportNote_timestamps "ASiC container timestamp: " ""
    (applyFormatTimestampVerdict { r with
      timestampChecked := true
      timestampDetails := r.timestampDetails ++ [{ validEntry with kind := "container" }]
      tspChecked := true } true true)
  have hclean := hadded.format_verdict true
  exact ⟨hdetails ▸ hclean.details, hstatus ▸ hclean.status⟩

theorem containerReport_clean {asked : List (Option EngineQuery)}
    (hstatus : (baseReport (signatureLoop T env (trustOnly asked) content)).timestampStatus ≠
      "timestamp-invalid") :
    CleanTimestamps (containerReport content (signatureLoop T env (trustOnly asked) content)) ∧
      (containerReport content (signatureLoop T env (trustOnly asked) content)).core =
        (baseReport (signatureLoop T env (trustOnly asked) content)).core := by
  obtain ⟨hclean, hcore⟩ := aggregatePerSignerTimestamps_clean
    (r := { baseReport (signatureLoop T env (trustOnly asked) content) with
      signatures := (signatureLoop T env (trustOnly asked) content).signatureEntries })
    signatureLoop_clean fun _ => hstatus
  exact ⟨⟨hclean.details, hclean.status⟩, hcore⟩

theorem content_reach (hne : content.signatures ≠ []) (hadm : ContentAdmissible T env content) :
    decisionValid (verifyContent T env (trustOnly (contentAsked env content)) content).report := by
  have hfaults : ∀ s ∈ content.signatures,
      ¬ Faulty T env (trustOnly (contentAsked env content)) content s :=
    fun s hs hfault => hadm.faultless s hs hfault.engines
  obtain ⟨data, signature, hcall, hasked, hcore, hstatus⟩ := baseReport_core hfaults hne
  obtain ⟨_, _, hcall', hcms⟩ := hadm.last
  obtain ⟨rfl, rfl⟩ := Prod.mk.inj (Option.some.inj (hcall.symm.trans hcall'))
  obtain ⟨hclean, hreport⟩ := @containerReport_clean T env content
    (contentAsked env content) (by rw [hstatus]; exact verifyData_clean.status)
  have hbase : policyBaseValid (verifyData env (trustOnly (contentAsked env content)) data
      signature).report = true := by
    refine verifyData_base.mpr ⟨hcms, fun q hq => ?_⟩
    have ⟨_, v, hv, hvalid⟩ := hcms
    rw [← hasked] at hq
    have hq' := hq
    rw [hasked, cmsSigners_take hv hvalid, mem_singleton] at hq'
    subst hq'
    exact trustOnly_accepts hq
  -- the timestamp of the container leaves the core as it is, and is valid itself
  have hfinal : ∀ r : VerifyReport, CleanTimestamps r →
      r.core = (verifyData env (trustOnly (contentAsked env content)) data signature).report.core →
      decisionValid r := by
    intro r hr hrcore
    refine decisionValid_of_clean ((policyBaseValid_of_core hrcore).trans hbase) ?_ hr
    rw [hrcore]
    exact verifyData_plain
  rw [verifyContent]
  split
  next h =>
    obtain ⟨hvalid, hts⟩ := h
    obtain ⟨hverifies, hcovered⟩ := (@verifyContent_valid_iff content T env
      (trustOnly (contentAsked env content)) hne).mp hvalid
    have htoken := hadm.timestamp (fun s hs => (hverifies s hs).engines) (by
      intro f hf
      obtain ⟨s, hs, parts, hparts, hname⟩ := hcovered f hf
      exact ⟨s, hs, parts, hparts.engines, hname⟩) hts
    obtain ⟨first, rest, hfirst⟩ := exists_cons_of_ne_nil hne
    obtain ⟨parts, hparts⟩ := hverifies first (by rw [hfirst]; exact mem_cons_self)
    have hsignature : (content.signatures.head?.map Asic.SignatureEntry.signatureData).getD [] ≠
        [] := by
      rw [hfirst]
      exact signature_ne_nil hparts.resolved
    exact hfinal _ (applyContainerTimestamp_clean hclean hts hsignature htoken)
      ((applyContainerTimestamp_core T content _).trans (hreport.trans hcore))
  next => exact hfinal _ hclean (hreport.trans hcore)

end Cades

/-! ### Containers with XAdES signatures -/

section Xades

variable {env : VerifyEnv} {E : Engines} {s : XadesSigner} {asked : List (Option EngineQuery)}

def xadesQuery (env : VerifyEnv) (s : XadesSigner) : Option EngineQuery :=
  formatQuery env (xadesFormatSigner s s.signatureValid)

theorem accepts_xadesQuery : E.accepts (xadesQuery env s) ↔ AcceptsXades env E s :=
  accepts_formatQuery

/-- The engine can be asked about the timestamp. -/
def TokenUsable (s : XadesSigner) : Prop :=
  s.evidence.signatureTimestampTokenDer ≠ [] ∧ s.evidence.signatureTimestampCanonicalizedData ≠ []

/-- What stands against a positive decision, apart from the engines, is absent. -/
structure XadesAdmissible (signers : List XadesSigner) : Prop where
  nonempty : signers ≠ []
  valid : ∀ s ∈ signers, s.signatureValid = true
  certificate : ∀ s ∈ signers, s.certificateDer ≠ []
  tokens : ∀ s ∈ signers, s.evidence.signatureTimestampPresent = true → TokenUsable s
  checked : (∀ s ∈ signers, s.evidence.signatureTimestampPresent = false) →
    (representativeSigner signers).evidence.signatureTimestampChecked = true →
    (representativeSigner signers).evidence.signatureTimestampValid = true

theorem policy_details_missing (hpresent : s.evidence.signatureTimestampPresent = true)
    (h : ¬ TokenUsable s) :
    (applyXadesTimestampPolicyValidation env E s {}).timestampDetails = [] := by
  have hmissing : s.evidence.signatureTimestampTokenDer = [] ∨
      s.evidence.signatureTimestampCanonicalizedData = [] := by
    rw [TokenUsable, not_and_or, not_not, not_not] at h
    exact h
  rw [applyXadesTimestampPolicyValidation]
  rw [if_neg (by rw [hpresent]; decide), if_pos hmissing, appendXadesTimestampMessage,
    (appendVerifyReportNote_timestamps _ _ _).1]
  exact applyFormatTimestampVerdict_details _ _ _

theorem policy_details_usable (hpresent : s.evidence.signatureTimestampPresent = true)
    (h : TokenUsable s) :
    (applyXadesTimestampPolicyValidation env (trustOnly asked) s {}).timestampDetails =
      [validEntry] := by
  have hasked : ¬ (s.evidence.signatureTimestampTokenDer = [] ∨
      s.evidence.signatureTimestampCanonicalizedData = []) := not_or.mpr h
  have hverdict : ∀ time evidence, tryCanonicalTimestampVerdict env (trustOnly asked)
      s.evidence.signatureTimestampTokenDer s.evidence.signatureTimestampCanonicalizedData time
      evidence = some ⟨true, "", validEntry⟩ := fun _ _ => if_neg hasked
  rw [applyXadesTimestampPolicyValidation]
  rw [if_neg (by rw [hpresent]; decide), if_neg hasked, hverdict]
  dsimp only
  rw [applyXadesTimestampVerdict]
  rw [if_pos rfl, applyTimestampDetailsVerdict_details, applyFormatTimestampVerdict_details]
  rfl

theorem xadesEntry_details_missing {index : Nat} {profile : String}
    (hpresent : s.evidence.signatureTimestampPresent = true) (h : ¬ TokenUsable s) :
    ∃ d ∈ (xadesEntry env E index profile s).timestampDetails,
      d.valid = false ∧ d.policyAcceptable = false := by
  rw [xadesEntry, validateEvidence_details, validation_details,
    if_neg (by rw [hpresent]; decide), policy_details_missing hpresent h, if_pos rfl]
  exact ⟨_, mem_singleton_self _, rfl, rfl⟩

theorem xadesEntry_details_clean {index : Nat} {profile : String}
    (h : s.evidence.signatureTimestampPresent = true → TokenUsable s) :
    ∀ d ∈ (xadesEntry env (trustOnly asked) index profile s).timestampDetails,
      d.valid = true ∧ d.status = "timestamp-valid" := by
  cases hpresent : s.evidence.signatureTimestampPresent with
  | false =>
    rw [xadesEntry_details_absent hpresent]
    exact fun d hd => absurd hd (not_mem_nil)
  | true =>
    rw [xadesEntry, validateEvidence_details, validation_details,
      if_neg (by rw [hpresent]; decide), policy_details_usable hpresent (h hpresent),
      if_neg (cons_ne_nil _ _)]
    intro d hd
    obtain rfl := mem_singleton.mp hd
    exact ⟨rfl, rfl⟩

/-! The report. -/

section Report

variable {containerType : String} {uncovered : List String} {signers : List XadesSigner}

theorem asicXades_sound
    (h : decisionValid (asicXadesReport env E containerType uncovered signers)) :
    XadesAdmissible signers ∧ ∀ s ∈ signers, E.accepts (xadesQuery env s) := by
  have hbase := decisionValid_base h
  have htimestamps := decisionValid_timestamps h
  have haccepts := asicXadesReport_accepts hbase
  have hsigned := ((policyBaseValid_iff _).mp hbase).1.2.2
  rw [asicXadesReport_signatureValid, all_eq_true] at hsigned
  refine ⟨⟨nonempty_of_base hbase, hsigned, fun s hs => (haccepts s hs).1, ?_, ?_⟩,
    fun s hs => accepts_xadesQuery.mpr (haccepts s hs)⟩
  · intro s hs hpresent
    by_contra husable
    obtain ⟨index, hmem⟩ := @xadesEntry_mem env E s signers containerProfile hs
    obtain ⟨d, hd, hvalid, hacceptable⟩ :=
      @xadesEntry_details_missing env E s index (containerProfile s) hpresent husable
    have hbad := htimestamps.details d (by
      rw [asicXadesReport_details]
      exact mem_flatMap.mpr ⟨_, hmem, hd⟩)
    rw [hvalid, hacceptable] at hbad
    rcases hbad with hbad | hbad <;> cases hbad
  · intro habsent hchecked
    have hdetails : (xadesEntries env E containerProfile signers).flatMap
        SignatureEntry.timestampDetails = [] := by
      refine flatMap_eq_nil_iff.mpr fun e he => ?_
      obtain ⟨index, s, hs, rfl⟩ := mem_xadesEntries he
      exact xadesEntry_details_absent (habsent s hs)
    have hstatus := htimestamps.status
    rw [asicXadesReport_status hdetails, Ne, containerFormatReport_status, not_and] at hstatus
    exact Bool.of_not_eq_false (hstatus hchecked)

theorem xadesEntry_plain (index : Nat) (profile : String) (s : XadesSigner)
    (h : (xadesEntry env (trustOnly asked) index profile s).trustValid = true) :
    (xadesEntry env (trustOnly asked) index profile s).trustStatus = "trusted" := by
  have hplain := @format_plain env
    (xadesFormatSigner s (xadesFormatEntry index profile s).signatureValid) asked
  simp only [xadesEntry, validateEvidence, applyPerSignerXadesTimestampValidation] at h ⊢
  split at h
  next hpresent =>
    rw [if_pos hpresent]
    exact hplain h
  next hpresent =>
    rw [if_neg hpresent]
    exact hplain h

theorem accepts_own (h : ∀ s ∈ signers, s.certificateDer ≠ []) :
    ∀ s ∈ signers, AcceptsXades env (trustOnly (signers.map (xadesQuery env))) s := by
  intro s hs
  have hmem : xadesQuery env s ∈ signers.map (xadesQuery env) := mem_map_of_mem hs
  rw [← accepts_xadesQuery]
  rw [xadesQuery, formatQuery_of_certificate (h s hs)] at hmem ⊢
  exact trustOnly_accepts hmem

theorem asicXades_reach (h : XadesAdmissible signers) :
    decisionValid (asicXadesReport env (trustOnly (signers.map (xadesQuery env))) containerType
      uncovered signers) := by
  set E := trustOnly (signers.map (xadesQuery env)) with hE
  have hcore := @containerFormatReport_core env E containerType uncovered signers
  have hsigned : (containerFormatReport env E containerType uncovered signers).signatureValid =
      true := (congrArg ReportCore.signatureValid hcore).trans (all_eq_true.mpr h.valid)
  have hgood : ∀ e ∈ xadesEntries env E containerProfile signers, e.good := by
    intro e he
    obtain ⟨index, s, hs, rfl⟩ := mem_xadesEntries he
    exact (xadesEntry_good _ _ _).mpr (accepts_own h.certificate s hs)
  have hclean : ∀ e ∈ xadesEntries env E containerProfile signers, ∀ d ∈ e.timestampDetails,
      d.valid = true ∧ d.status = "timestamp-valid" := by
    intro e he
    obtain ⟨index, s, hs, rfl⟩ := mem_xadesEntries he
    exact xadesEntry_details_clean (h.tokens s hs)
  obtain ⟨hbase, e, he, hstatus⟩ := aggregated_base
    ⟨congrArg ReportCore.hasResult hcore, congrArg ReportCore.executionSucceeded hcore, hsigned⟩
    (xadesEntries_ne_nil containerProfile h.nonempty) hgood
  have hrestored : (restoreContainerFormat containerType
      (containerProfile (representativeSigner signers)) (applyPerSignerTrustAggregation
        (containerFormatReport env E containerType uncovered signers))).signatures =
      xadesEntries env E containerProfile signers := (aggregation_keeps _).1
  obtain ⟨htimestamps, hreport⟩ := aggregatePerSignerTimestamps_clean
    (hrestored.symm ▸ hclean) (by
      intro hnone
      rw [hrestored] at hnone
      rw [restoreContainerFormat_status, (aggregation_keeps _).2.1, Ne,
        containerFormatReport_status]
      rintro ⟨hchecked, hinvalid⟩
      rw [h.checked (absent_of_no_details hnone) hchecked] at hinvalid
      cases hinvalid)
  have hfinal : (asicXadesReport env E containerType uncovered signers).core =
      (applyPerSignerTrustAggregation
        (containerFormatReport env E containerType uncovered signers)).core := hreport
  refine decisionValid_of_clean ((policyBaseValid_of_core hfinal).trans hbase) ?_
    ⟨htimestamps.details, htimestamps.status⟩
  rw [hfinal]
  intro _
  obtain ⟨index, s, -, rfl⟩ := mem_xadesEntries he
  exact hstatus.trans (xadesEntry_plain index _ s (hgood _ he).2.1)

end Report

end Xades

/-! ### ASiC-E -/

section Container

variable (T : ContainerLib) (X : XadesLib) (env : VerifyEnv) (container : Container)

/-- The signers of all CAdES signatures in the container, whether or not a manifest
names them. -/
def entrySigners : List (Option EngineQuery) :=
  ((readEntries container).filter fun e => isCadesSignature e.name).flatMap
    fun e => cmsSigners env e.data

def containerXadesSigners : List XadesSigner :=
  (verifyAllDocuments X (externalReferences (readEntries container))
    (((readEntries container).filter fun e => isXadesSignature e.name).map
      fun e => bytesText e.data)).toOption.getD []

def cadesContent : AsicEContent := (unpackE T.xml container).toOption.getD {}

def containerSigners : List (Option EngineQuery) :=
  (if containerHasXadesSignature container then
    (containerXadesSigners X container).map (xadesQuery env)
  else contentSigners env (cadesContent T container)) ++ entrySigners env container

/-- The signers on whom the decision rests: all XAdES signatures, or else the first
signer of the last CAdES signature. -/
def containerAsked : List (Option EngineQuery) :=
  if containerHasXadesSignature container then
    (containerXadesSigners X container).map (xadesQuery env)
  else contentAsked env (cadesContent T container)

/-- The XAdES route reaches its report. -/
structure XadesReadable : Prop where
  names : ∃ index, indexNames normalizeCoverageUri (documents (readEntries container)) [] = .ok index
  external : externalReferences (readEntries container) ≠ []

/-- What stands against a positive decision, apart from the engines, is absent. -/
def ContainerAdmissible : Prop :=
  env.initialized = true ∧
    if containerHasXadesSignature container then
      XadesReadable container ∧ XadesAdmissible (containerXadesSigners X container)
    else ∃ content, unpackE T.xml container = .ok content ∧ ContentAdmissible T env content

def containerDecision (E : Engines) : Prop :=
  decisionValid (verifyFileAsicE T env E (verifyFileAsicEXades X env E) container).report

variable {T X env container} {E : Engines}

theorem verifyXadesEntries_decision {zip : Archive} :
    decisionValid (verifyXadesEntries X env E zip (readEntries container)).report ↔
      XadesReadable container ∧ decisionValid (asicXadesReport env E (detectedContainerType zip)
        (uncoveredObjects (externalReferences (readEntries container))
          (containerXadesSigners X container)) (containerXadesSigners X container)) := by
  have hnone : containerXadesSigners X container = [] → ∀ containerType uncovered,
      ¬ decisionValid (asicXadesReport env E containerType uncovered
        (containerXadesSigners X container)) :=
    fun hnil _ _ h => nonempty_of_base (decisionValid_base h) hnil
  rw [verifyXadesEntries]
  cases hindex : indexNames normalizeCoverageUri (documents (readEntries container)) [] with
  | error e =>
    refine iff_of_false (not_decisionValid rfl) fun h => ?_
    obtain ⟨index, hnames⟩ := h.1.names
    cases hindex.symm.trans hnames
  | ok index =>
    by_cases hread : (((readEntries container).filter fun e => isXadesSignature e.name).map
        fun e => bytesText e.data) = [] ∨ externalReferences (readEntries container) = []
    · rw [if_pos hread]
      refine iff_of_false (not_decisionValid rfl) fun h => hnone ?_ _ _ h.2
      rw [containerXadesSigners, hread.resolve_right h.1.external]
      rfl
    · rw [if_neg hread]
      cases hverified : verifyAllDocuments X (externalReferences (readEntries container))
          (((readEntries container).filter fun e => isXadesSignature e.name).map
            fun e => bytesText e.data) with
      | error e =>
        refine iff_of_false (not_decisionValid rfl) fun h => hnone ?_ _ _ h.2
        rw [containerXadesSigners, hverified]
        rfl
      | ok found =>
        have hfound : containerXadesSigners X container = found := by
          rw [containerXadesSigners, hverified]
          rfl
        rw [hfound]
        exact (and_iff_right ⟨⟨index, hindex⟩, (not_or.mp hread).2⟩).symm

theorem xadesRoute_decision : ∃ containerType uncovered,
    (decisionValid (verifyFileAsicEXades X env E container).report ↔
      env.initialized = true ∧ XadesReadable container ∧
        decisionValid (asicXadesReport env E containerType uncovered
          (containerXadesSigners X container))) := by
  -- a container that cannot be read has no entries
  have hnone : readEntries container = [] → ¬ XadesReadable container := by
    intro hnil hread
    refine hread.external ?_
    rw [hnil]
    rfl
  rw [verifyFileAsicEXades]
  cases hinit : env.initialized with
  | false => exact ⟨"", [], iff_of_false (not_decisionValid rfl) fun h => absurd h.1 (by decide)⟩
  | true =>
    cases hload : loadFromBuffer container with
    | error e =>
      have hnil : readEntries container = [] := by rw [readEntries, hload]
      exact ⟨"", [], iff_of_false (not_decisionValid rfl) fun h => hnone hnil h.2.1⟩
    | ok zip =>
      cases hfiles : getFiles zip with
      | error e =>
        have hnil : readEntries container = [] := by
          rw [readEntries, hload]
          dsimp only
          rw [hfiles]
          rfl
        simp only [hfiles]
        exact ⟨"", [], iff_of_false (not_decisionValid rfl) fun h => hnone hnil h.2.1⟩
      | ok entries =>
        obtain rfl := readEntries_of_ok hload hfiles
        simp only [hfiles]
        rw [if_neg (by decide), verifyXadesEntries_decision]
        exact ⟨_, _, (and_iff_right trivial).symm⟩

variable (T X env container) in
theorem container_speaks_iff :
    SpeaksForAll (containerDecision T X env container) (containerSigners T X env container) ↔
      (ContainerAdmissible T X env container →
        ∀ q ∈ containerSigners T X env container, q ∈ containerAsked T X env container) := by
  refine spoken_for_iff ?_ ?_
  · intro E h
    rw [containerDecision] at h
    rw [ContainerAdmissible, containerAsked]
    cases hinit : env.initialized with
    | false =>
      rw [verifyFileAsicE, if_pos hinit] at h
      exact absurd h (not_decisionValid rfl)
    | true =>
      cases hroute : containerHasXadesSignature container with
      | true =>
        rw [verifyFileAsicE, if_neg (by rw [hinit]; decide), if_pos hroute] at h
        obtain ⟨containerType, uncovered, hdecision⟩ := @xadesRoute_decision X env container E
        obtain ⟨-, hread, hvalid⟩ := hdecision.mp h
        obtain ⟨hadm, haccepts⟩ := asicXades_sound hvalid
        exact ⟨⟨rfl, hread, hadm⟩, forall_mem_map.mpr haccepts⟩
      | false =>
        cases hunpack : unpackE T.xml container with
        | error e =>
          rw [verifyFileAsicE, if_neg (by rw [hinit]; decide), if_neg (by rw [hroute]; decide),
            hunpack] at h
          exact absurd h (not_decisionValid rfl)
        | ok content =>
          rw [verifyFileAsicE_of_unpack hinit hroute hunpack] at h
          obtain ⟨-, -, -, -, -, -, -, hne⟩ := unpackE_eq_ok.mp hunpack
          obtain ⟨hadm, haccepts⟩ := content_sound hne h
          have hcontent : cadesContent T container = content := by rw [cadesContent, hunpack]; rfl
          refine ⟨⟨rfl, content, rfl, hadm⟩, ?_⟩
          rw [hcontent]
          exact haccepts
  · rintro ⟨hinit, hadm⟩
    rw [containerDecision, containerAsked]
    cases hroute : containerHasXadesSignature container with
    | true =>
      rw [hroute, if_pos rfl] at hadm
      rw [verifyFileAsicE, if_neg (by rw [hinit]; decide), if_pos hroute, if_pos rfl]
      obtain ⟨containerType, uncovered, hdecision⟩ := @xadesRoute_decision X env container _
      exact hdecision.mpr ⟨hinit, hadm.1, asicXades_reach hadm.2⟩
    | false =>
      rw [hroute, if_neg (by decide)] at hadm
      obtain ⟨content, hunpack, hadm⟩ := hadm
      obtain ⟨-, -, -, -, -, -, -, hne⟩ := unpackE_eq_ok.mp hunpack
      have hcontent : cadesContent T container = content := by rw [cadesContent, hunpack]; rfl
      rw [verifyFileAsicE_of_unpack hinit hroute hunpack, if_neg (by decide), hcontent]
      exact content_reach hne hadm

end Container

end Tamga.Session
