/-
The revocation verdict on one certificate (`RevocationEngine::Validate`).

Three sources are asked in turn: the embedded OCSP responses, the CRLs, the
responder on the network.  The first embedded response with a definite status
settles the matter; the CRLs are consulted only if there is none, the network
only if the CRLs leave the question open.

* `revocationValidate_overall` — the verdict as the first decision of the three
  sources;
* `revocation_verdict_order` — which evidence decides, when its order matters,
  and when the verdict is "revoked".
-/
import Tamga.Crl
import Tamga.FirstDecision
import Tamga.ValidationTypes

namespace Tamga.Validation

open Policy IsoTime List

inductive CertificateRole where
  | signer
  | intermediateCa
  | tsa
  | ocspResponder
  | crlIssuer
  deriving DecidableEq, Repr

def roleToString : CertificateRole → String
  | .signer => "Signer"
  | .intermediateCa => "IntermediateCa"
  | .tsa => "Tsa"
  | .ocspResponder => "OcspResponder"
  | .crlIssuer => "CrlIssuer"

structure RevocationEngineInput where
  certificateDer : Der := []
  issuerCertificateDer : Der := []
  role : CertificateRole := .signer
  validationTime : String := ""
  networkAllowed : Bool := false
  revocationHardFail : Bool := false
  crlsDer : List Der := []
  embeddedOcspResponse : Der := []
  embeddedOcspResponsesDer : List Der := []
  ocspUrl : String := ""

structure RevocationEngineResult where
  overallStatus : OverallStatus := .indeterminate
  revocationStatus : RevocationStatus := .notChecked
  because : List String := []
  warnings : List String := []
  limitations : List String := []
  evidenceIds : List String := []
  revocationTime : Int := 0
  ocspAttempted : Bool := false
  crlAttempted : Bool := false

structure RevocationOracle (Cert Resp Crl : Type) where
  certs : CertOracle Cert
  ocsp : OcspOracle Cert Resp
  crl : CrlOracle Cert Crl

def diagnosticRank : RevocationStatus → Nat
  | .invalid => 4
  | .stale => 3
  | .responderUnavailable => 2
  | .unknown => 1
  | _ => 0

/-- What the stages hand on: the result under construction, the status so far,
its time and its message. -/
structure RevocationState where
  result : RevocationEngineResult := {}
  finalStatus : RevocationStatus := .notChecked
  finalRevocationTime : Int := 0
  detailMessage : String := ""

variable (st : RevocationState)

/-- The failure that says most is kept. -/
def RevocationState.keepMoreSpecificFailure (status : RevocationStatus)
    (message : String) : RevocationState :=
  if diagnosticRank status > diagnosticRank st.finalStatus then
    { st with finalStatus := status, detailMessage := message }
  else st

def RevocationState.addBecause (text : String) : RevocationState :=
  { st with result := { st.result with because := st.result.because ++ [text] } }

def RevocationState.addWarning (text : String) : RevocationState :=
  { st with result := { st.result with warnings := st.result.warnings ++ [text] } }

def RevocationState.noteOcsp (r : OcspValidationResult) : RevocationState :=
  { st with result := { st.result with
      ocspAttempted := st.result.ocspAttempted || r.checked
      evidenceIds := st.result.evidenceIds ++
        (if r.requestEvidenceId = "" then [] else [r.requestEvidenceId]) ++
        (if r.responseEvidenceId = "" then [] else [r.responseEvidenceId]) } }

def RevocationState.noteCrl (r : CrlValidationResult) : RevocationState :=
  { st with result := { st.result with
      crlAttempted := r.checked
      evidenceIds := st.result.evidenceIds ++
        (if r.crlEvidenceId = "" then [] else [r.crlEvidenceId]) } }

/-- A definite status ends the search for one. -/
def RevocationState.settle (status : RevocationStatus) (time : Int)
    (message because : String) : RevocationState :=
  ({ st with finalStatus := status, finalRevocationTime := time, detailMessage := message }
    ).addBecause because

section Engine

variable {Cert Resp Crl : Type} (R : RevocationOracle Cert Resp Crl)

/-! ### The three sources -/

variable (input : RevocationEngineInput)

/-- The embedded responses, in the order of the attempts. -/
def ocspCandidates : List Der :=
  (if input.embeddedOcspResponse = [] then [] else [input.embeddedOcspResponse]) ++
    input.embeddedOcspResponsesDer.filter (· ≠ [])

def embeddedOcsp (responseDer : Der) : OcspValidationResult :=
  ocspValidate R.certs R.ocsp
    { signerCertificateDer := input.certificateDer
      issuerCertificateDer := input.issuerCertificateDer
      responseDer := responseDer
      validationTime := input.validationTime }

/-- The first definite response settles. -/
def tryEmbeddedOcsp (input : RevocationEngineInput) : List Der → RevocationState → RevocationState
  | [], st => st
  | responseDer :: rest, st =>
    let r := embeddedOcsp R input responseDer
    let st := st.noteOcsp r
    if r.checked && r.status.definite then
      st.settle r.status r.revocationTime r.message "Використано вбудовану відповідь OCSP."
    else
      tryEmbeddedOcsp input rest ((st.keepMoreSpecificFailure r.status r.message).addWarning
        ("Вбудована відповідь OCSP не дала результату: " ++ r.message))

def localCrls : CrlValidationInput :=
  { signerCertificateDer := input.certificateDer
    issuerCertificateDer := input.issuerCertificateDer
    crlsDer := input.crlsDer
    validationTime := input.validationTime }

variable (vt : Int) (st : RevocationState)

/-- The lists at hand, unless a response has settled. -/
def tryCrls : RevocationState :=
  if st.finalStatus.definite || input.crlsDer.isEmpty then st
  else
    let r := crlValidate R.certs R.ocsp R.crl (localCrls input)
    let st := st.noteCrl r
    if r.checked && r.status.definite then
      st.settle r.status r.revocationTime r.message "Використано локальний CRL."
    else if r.checked && (r.status == .invalid || r.status == .stale) then
      (st.keepMoreSpecificFailure r.status r.message).addBecause
        ("Локальний CRL не дав чинного статусу: " ++ r.message)
    else
      (st.keepMoreSpecificFailure r.status r.message).addWarning
        ("Локальний CRL не дав результату: " ++ r.message)

def networkOcsp : OcspValidationResult :=
  ocspValidate R.certs R.ocsp
    { url := input.ocspUrl
      signerCertificateDer := input.certificateDer
      issuerCertificateDer := input.issuerCertificateDer
      validationTime := input.validationTime }

/-- The responder, asked last. -/
def tryNetwork : RevocationState :=
  if st.finalStatus.definite then st
  else if input.networkAllowed && input.ocspUrl ≠ "" then
    let r := networkOcsp R input
    let st := st.noteOcsp r
    if r.checked && r.status.definite then
      st.settle r.status r.revocationTime r.message "Отримано статус через мережевий OCSP."
    else
      let st := st.keepMoreSpecificFailure r.status r.message
      st.addWarning ("Мережевий запит OCSP завершився статусом: " ++ st.detailMessage)
  else
    let st := if input.networkAllowed then st
      else st.addWarning "Мережевий доступ заборонено конфігурацією."
    if input.ocspUrl = "" then st.addWarning "Адресу OCSP не налаштовано." else st

/-! ### The verdict -/

/-- Whether a revocation at `revocationTime` is later than the validation time. -/
def revokedLater (validationTime revocationTime : Int) : Bool :=
  decide (revocationTime ≠ 0) && decide (revocationTime > validationTime)

/-- The end of `RevocationEngine::Validate`: the final status becomes a verdict. -/
def concludeRevocation (validationTime : Int) (st : RevocationState) : RevocationEngineResult :=
  let result := { st.result with
    revocationStatus := st.finalStatus
    revocationTime := st.finalRevocationTime }
  match st.finalStatus with
  | .good =>
    { result with
      overallStatus := .valid
      because := result.because ++ ["Сертифікат не відкликано."] }
  | .revoked =>
    if revokedLater validationTime st.finalRevocationTime then
      { result with
        overallStatus := .valid
        because := result.because ++
          ["Сертифікат відкликано після моменту оцінки підпису (дійсний на момент підпису)."]
        warnings := result.warnings ++
          ["Сертифікат був відкликаний у часі: " ++ toString st.finalRevocationTime] }
    else
      { result with
        overallStatus := .invalid
        because := result.because ++ ["Сертифікат відкликано до моменту оцінки підпису."] ++
          (if st.finalRevocationTime ≠ 0 then
            ["Час відкликання: " ++ toString st.finalRevocationTime] else []) }
  | .invalid =>
    { result with
      overallStatus := .indeterminate
      because := result.because ++ ["Дані відкликання некоректні: " ++ st.detailMessage]
      warnings := result.warnings ++ ["revocation-check-invalid"] }
  | _ =>
    let result := { result with
      overallStatus := .indeterminate
      because := result.because ++
        ["Не вдалося однозначно визначити статус відкликання: " ++ st.detailMessage] }
    if input.revocationHardFail then
      { result with
        warnings := result.warnings ++
          ["Сувора політика відкликання (hard fail): статус невизначено."] }
    else
      { result with
        limitations := result.limitations ++
          ["М'яка політика відкликання (soft fail): статус не підтверджено."] }

def revocationStages : RevocationState :=
  tryNetwork R input (tryCrls R input (tryEmbeddedOcsp R input (ocspCandidates input) st))

/-- `RevocationEngine::Validate`. -/
def revocationValidate : RevocationEngineResult :=
  let role := "Роль сертифіката: " ++ roleToString input.role
  if input.certificateDer = [] then
    { overallStatus := .indeterminate
      revocationStatus := .notChecked
      because := [role, "Помилка: сертифікат порожній."] }
  else
    let unread := input.validationTime ≠ "" ∧ parseIso8601Time input.validationTime = none
    let st : RevocationState :=
      { result :=
          { because := [role]
            warnings := if unread then
              ["Не вдалося розпарсити validation_time: " ++ input.validationTime] else [] } }
    concludeRevocation input (validationTimeSec R.certs.now input.validationTime)
      (revocationStages R input st)

/-! ### The verdict of a single piece of evidence -/

/-- What a status means at the validation time; `none` leaves it open. -/
def evidenceVerdict (validationTime : Int) (status : RevocationStatus) (revocationTime : Int) :
    Option OverallStatus :=
  match status with
  | .good => some .valid
  | .revoked => some (if revokedLater validationTime revocationTime then .valid else .invalid)
  | _ => none

def RevocationEngineInput.instant (now : Int) : Int :=
  validationTimeSec now input.validationTime

def ocspVerdict (responseDer : Der) : Option OverallStatus :=
  let r := embeddedOcsp R input responseDer
  if r.checked then evidenceVerdict (input.instant R.certs.now) r.status r.revocationTime else none

/-- What one list says by itself about a revocation. -/
def crlVerdict (crlDer : Der) : Option OverallStatus :=
  (crlFinding R.certs R.crl (localCrls input) crlDer).revokedAt.map fun time =>
    if revokedLater (input.instant R.certs.now) time then .valid else .invalid

/-- Some list is usable and does not name the certificate. -/
def CrlClears : Prop :=
  ∃ c ∈ input.crlsDer, crlFinding R.certs R.crl (localCrls input) c = .good

instance (input : RevocationEngineInput) : Decidable (CrlClears R input) :=
  inferInstanceAs (Decidable (∃ c ∈ input.crlsDer, _))

def crlsVerdict : Option OverallStatus :=
  (input.crlsDer.findSome? (crlVerdict R input)).or
    (if CrlClears R input then some .valid else none)

def networkVerdict : Option OverallStatus :=
  if input.networkAllowed && input.ocspUrl ≠ "" then
    let r := networkOcsp R input
    if r.checked then evidenceVerdict (input.instant R.certs.now) r.status r.revocationTime else none
  else none

theorem evidenceVerdict_eq_none {validationTime revocationTime : Int} {status : RevocationStatus} :
    evidenceVerdict validationTime status revocationTime = none ↔ status.definite = false := by
  cases status <;> simp [evidenceVerdict, RevocationStatus.definite]

/-- What the engine holds so far. -/
def RevocationState.verdict (validationTime : Int) (st : RevocationState) : Option OverallStatus :=
  evidenceVerdict validationTime st.finalStatus st.finalRevocationTime

variable {R}

@[simp]
theorem RevocationState.verdict_addBecause (text : String) :
    (st.addBecause text).verdict vt = st.verdict vt := rfl

@[simp]
theorem RevocationState.verdict_addWarning (text : String) :
    (st.addWarning text).verdict vt = st.verdict vt := rfl

@[simp]
theorem RevocationState.verdict_settle (status : RevocationStatus) (time : Int)
    (message because : String) :
    (st.settle status time message because).verdict vt = evidenceVerdict vt status time := rfl

/-- A failure never turns an open question into an answer. -/
theorem RevocationState.verdict_keepMoreSpecificFailure {vt : Int} {st : RevocationState}
    (h : st.verdict vt = none) (status : RevocationStatus) (message : String) :
    (st.keepMoreSpecificFailure status message).verdict vt = none := by
  unfold RevocationState.keepMoreSpecificFailure
  split
  next hrank =>
    show evidenceVerdict vt status st.finalRevocationTime = none
    rw [evidenceVerdict_eq_none]
    -- a definite status has rank 0 and replaces nothing
    cases status <;> simp_all [diagnosticRank, RevocationStatus.definite]
  · exact h

theorem ocsp_definite_iff (r : OcspValidationResult) : (r.checked && r.status.definite) = true ↔
      (if r.checked then evidenceVerdict vt r.status r.revocationTime else none) ≠ none := by
  cases r.checked with
  | false => simp
  | true => simp [evidenceVerdict_eq_none]

/-! ### The stages -/

theorem tryEmbeddedOcsp_verdict {input : RevocationEngineInput} :
    ∀ (l : List Der) {st : RevocationState}, st.verdict (input.instant R.certs.now) = none →
      (tryEmbeddedOcsp R input l st).verdict (input.instant R.certs.now)
        = l.findSome? (ocspVerdict R input) := by
  intro l
  induction l with
  | nil => intro st h; exact h
  | cons responseDer rest ih =>
    intro st h
    have hdef := ocsp_definite_iff (input.instant R.certs.now)
      (embeddedOcsp R input responseDer)
    rw [findSome?_cons]
    simp only [tryEmbeddedOcsp]
    by_cases hd : ((embeddedOcsp R input responseDer).checked &&
        (embeddedOcsp R input responseDer).status.definite) = true
    · rw [if_pos hd, RevocationState.verdict_settle]
      have hch : (embeddedOcsp R input responseDer).checked = true :=
        (Bool.and_eq_true_iff.mp hd).1
      have hsome := hdef.mp hd
      simp only [hch, if_true] at hsome
      simp only [ocspVerdict, hch, if_true]
      obtain ⟨v, hv⟩ := Option.ne_none_iff_exists'.mp hsome
      rw [hv]
    · rw [if_neg hd, ih]
      · have hnone : ocspVerdict R input responseDer = none := by
          by_contra hne
          exact hd (hdef.mpr hne)
        rw [hnone]
      · rw [RevocationState.verdict_addWarning]
        refine RevocationState.verdict_keepMoreSpecificFailure ?_ _ _
        exact h

/-- A stage leaves a definite status alone, and adds what it finds to an open one. -/
theorem RevocationState.verdict_stage {vt : Int} {st st' : RevocationState}
    {found : Option OverallStatus} (hkeep : st.finalStatus.definite = true → st' = st)
    (hadd : st.finalStatus.definite = false → st.verdict vt = none → st'.verdict vt = found) :
    st'.verdict vt = (st.verdict vt).or found := by
  have hiff : st.verdict vt = none ↔ st.finalStatus.definite = false := evidenceVerdict_eq_none
  cases hdef : st.finalStatus.definite with
  | true =>
    obtain ⟨v, hv⟩ := Option.ne_none_iff_exists'.mp fun hnone => by
      rw [hiff.mp hnone] at hdef
      cases hdef
    rw [hkeep hdef, hv, Option.some_or]
  | false => rw [hadd hdef (hiff.mpr hdef), hiff.mpr hdef, Option.none_or]

theorem crlsVerdict_eq : crlsVerdict R input =
      (let r := crlValidate R.certs R.ocsp R.crl (localCrls input)
       if r.checked && r.status.definite then
         evidenceVerdict (input.instant R.certs.now) r.status r.revocationTime
       else none) := by
  have hspec := @crlValidate_spec _ _ _ R.certs R.ocsp R.crl (localCrls input)
  have hfind : input.crlsDer.findSome? (crlVerdict R input)
      = ((localCrls input).crlsDer.findSome? fun c =>
          (crlFinding R.certs R.crl (localCrls input) c).revokedAt).map fun time =>
            if revokedLater (input.instant R.certs.now) time then .valid else .invalid :=
    map_findSome?.symm
  simp only [crlsVerdict, hfind]
  split at hspec
  next time htime =>
    obtain ⟨hch, hst, ht⟩ := hspec
    simp [htime, hch, hst, ht, RevocationStatus.definite, evidenceVerdict]
  next hnone =>
    rw [hnone]
    split at hspec
    next hclear =>
      obtain ⟨hch, hst⟩ := hspec
      rw [if_pos (show CrlClears R input from hclear)]
      simp [hch, hst, RevocationStatus.definite, evidenceVerdict]
    next hclear =>
      rw [if_neg (show ¬CrlClears R input from hclear)]
      simp [hspec]

theorem tryCrls_verdict {input : RevocationEngineInput} :
    (tryCrls R input st).verdict (input.instant R.certs.now)
      = (st.verdict (input.instant R.certs.now)).or (crlsVerdict R input) := by
  refine RevocationState.verdict_stage (fun hdef => by simp [tryCrls, hdef]) fun hdef hopen => ?_
  cases hnil : input.crlsDer.isEmpty with
  | true =>
    simp only [tryCrls, hdef, hnil, Bool.or_true, if_true]
    rw [List.isEmpty_iff] at hnil
    simp [hopen, crlsVerdict, CrlClears, hnil]
  | false =>
    rw [crlsVerdict_eq]
    simp only [tryCrls, hdef, hnil, Bool.or_self, Bool.false_eq_true, if_false]
    set r := crlValidate R.certs R.ocsp R.crl (localCrls input)
    cases hd : r.checked && r.status.definite with
    | true => simp
    | false =>
      simp only [Bool.false_eq_true, if_false]
      split
      · rw [RevocationState.verdict_addBecause]
        refine RevocationState.verdict_keepMoreSpecificFailure ?_ _ _
        exact hopen
      · rw [RevocationState.verdict_addWarning]
        refine RevocationState.verdict_keepMoreSpecificFailure ?_ _ _
        exact hopen

theorem tryNetwork_verdict {input : RevocationEngineInput} :
    (tryNetwork R input st).verdict (input.instant R.certs.now)
      = (st.verdict (input.instant R.certs.now)).or (networkVerdict R input) := by
  refine RevocationState.verdict_stage (fun hdef => by simp [tryNetwork, hdef]) fun hdef hopen => ?_
  simp only [tryNetwork, networkVerdict, hdef, Bool.false_eq_true, if_false]
  cases hnet : input.networkAllowed && decide (input.ocspUrl ≠ "") with
  | false =>
    simp only [Bool.false_eq_true, if_false]
    split <;> split <;> exact hopen
  | true =>
    have hiff := ocsp_definite_iff (input.instant R.certs.now) (networkOcsp R input)
    cases hd : (networkOcsp R input).checked && (networkOcsp R input).status.definite with
    | true =>
      have hch := (Bool.and_eq_true_iff.mp hd).1
      simp [hch]
    | false =>
      rw [hd] at hiff
      have hnone := not_not.mp (fun hne => absurd (hiff.mpr hne) (by simp))
      rw [hnone]
      refine RevocationState.verdict_keepMoreSpecificFailure ?_ _ _
      exact hopen

theorem concludeRevocation_overall :
    (concludeRevocation input vt st).overallStatus = (st.verdict vt).getD .indeterminate := by
  obtain ⟨result, status, time, message⟩ := st
  cases status with
  | revoked =>
    simp only [concludeRevocation, RevocationState.verdict, evidenceVerdict, Option.getD_some]
    split <;> rfl
  | good => rfl
  | invalid => rfl
  | _ =>
    simp only [concludeRevocation, RevocationState.verdict, evidenceVerdict, Option.getD_none]
    split <;> rfl

theorem concludeRevocation_status :
    (concludeRevocation input vt st).revocationStatus = st.finalStatus ∧
      (concludeRevocation input vt st).revocationTime = st.finalRevocationTime := by
  obtain ⟨result, status, time, message⟩ := st
  cases status with
  | good | invalid => exact ⟨rfl, rfl⟩
  | _ =>
    simp only [concludeRevocation]
    split <;> exact ⟨rfl, rfl⟩

theorem evidenceVerdict_invalid {vt time : Int} {status : RevocationStatus} :
    (evidenceVerdict vt status time).getD .indeterminate = .invalid ↔
      status = .revoked ∧ revokedLater vt time = false := by
  cases status <;> simp [evidenceVerdict]

theorem evidenceVerdict_ne_integrityOnly {vt time : Int} {status : RevocationStatus} :
    (evidenceVerdict vt status time).getD .indeterminate ≠ .integrityOnly := by
  cases status <;> simp [evidenceVerdict]
  split <;> simp

/-- **The verdict is the first decision**: of the embedded responses in their
order, then of the lists together, then of the responder. -/
theorem revocationValidate_overall {input : RevocationEngineInput} (h : input.certificateDer ≠ []) :
    (revocationValidate R input).overallStatus
      = (((ocspCandidates input).findSome? (ocspVerdict R input)).or
          ((crlsVerdict R input).or (networkVerdict R input))).getD .indeterminate := by
  simp only [revocationValidate, if_neg h]
  rw [concludeRevocation_overall, revocationStages]
  show ((tryNetwork R input _).verdict (input.instant R.certs.now)).getD _ = _
  rw [tryNetwork_verdict, tryCrls_verdict, tryEmbeddedOcsp_verdict _ rfl, Option.or_assoc]

theorem revocationValidate_overall_eq : (revocationValidate R input).overallStatus
      = (evidenceVerdict (input.instant R.certs.now) (revocationValidate R input).revocationStatus
          (revocationValidate R input).revocationTime).getD .indeterminate := by
  by_cases hcert : input.certificateDer = []
  · simp [revocationValidate, hcert, evidenceVerdict]
  · simp only [revocationValidate, if_neg hcert]
    rw [concludeRevocation_overall, (concludeRevocation_status _ _ _).1,
      (concludeRevocation_status _ _ _).2]
    rfl

/-- The engine calls a certificate invalid exactly when it was revoked at or
before the validation time. -/
theorem revocationValidate_invalid_status : (revocationValidate R input).overallStatus = .invalid ↔
      (revocationValidate R input).revocationStatus = .revoked ∧
      revokedLater (input.instant R.certs.now) (revocationValidate R input).revocationTime
        = false := by
  rw [revocationValidate_overall_eq]
  exact evidenceVerdict_invalid

theorem revocationValidate_valid_of {input : RevocationEngineInput}
    (hnot : ¬((revocationValidate R input).revocationStatus = .revoked ∧
      revokedLater (input.instant R.certs.now) (revocationValidate R input).revocationTime = false))
    (hdet : (revocationValidate R input).overallStatus ≠ .indeterminate) :
    (revocationValidate R input).overallStatus = .valid := by
  rw [← revocationValidate_invalid_status] at hnot
  have hint : (revocationValidate R input).overallStatus ≠ .integrityOnly := by
    rw [revocationValidate_overall_eq]
    exact evidenceVerdict_ne_integrityOnly
  cases h : (revocationValidate R input).overallStatus with
  | valid => rfl
  | integrityOnly => exact absurd h hint
  | indeterminate => exact absurd h hdet
  | invalid => exact absurd h hnot

/-! ### The order of the evidence -/

/-- `b` is `a` with its embedded responses and its lists in another order. -/
structure Reordered (a b : RevocationEngineInput) : Prop where
  sameOther : b = { a with
    embeddedOcspResponse := b.embeddedOcspResponse
    embeddedOcspResponsesDer := b.embeddedOcspResponsesDer
    crlsDer := b.crlsDer }
  ocsp : (ocspCandidates b).Perm (ocspCandidates a)
  crls : b.crlsDer.Perm a.crlsDer

section

variable {a b : RevocationEngineInput} (h : Reordered a b)

include h

theorem Reordered.certificateDer : b.certificateDer = a.certificateDer := by
  rw [h.sameOther]

theorem Reordered.ocspVerdict : ocspVerdict R b = ocspVerdict R a := by
  rw [h.sameOther]
  rfl

theorem Reordered.crlVerdict : crlVerdict R b = crlVerdict R a := by
  rw [h.sameOther]
  rfl

theorem Reordered.networkVerdict : networkVerdict R b = networkVerdict R a := by
  rw [h.sameOther]
  rfl

theorem Reordered.crlClears : CrlClears R b ↔ CrlClears R a := by
  have hfinding : ∀ c, crlFinding R.certs R.crl (localCrls b) c
      = crlFinding R.certs R.crl (localCrls a) c := by
    rw [h.sameOther]
    intro c
    rfl
  simp only [CrlClears, hfinding, h.crls.mem_iff]

end

variable (R) in
/-- The two pieces of evidence that may come first say the same. -/
structure VerdictsAgree : Prop where
  ocsp : FirstDecision.Agree (ocspVerdict R input) (ocspCandidates input)
  crls : (∀ d ∈ ocspCandidates input, ocspVerdict R input d = none) →
    FirstDecision.Agree (crlVerdict R input) input.crlsDer

theorem VerdictsAgree.reordered {a b : RevocationEngineInput} (hagree : VerdictsAgree R a)
    (h : Reordered a b) :
    (revocationValidate R b).overallStatus = (revocationValidate R a).overallStatus := by
  by_cases hcert : a.certificateDer = []
  · simp [revocationValidate, hcert, h.certificateDer]
  rw [revocationValidate_overall hcert,
    revocationValidate_overall (by rwa [h.certificateDer]), h.ocspVerdict, h.networkVerdict,
    FirstDecision.findSome_perm_of_agree hagree.ocsp h.ocsp]
  cases hfirst : (ocspCandidates a).findSome? (Validation.ocspVerdict R a) with
  | some v => rfl
  | none =>
    rw [findSome?_eq_none_iff] at hfirst
    simp only [crlsVerdict, h.crlVerdict, h.crlClears]
    rw [FirstDecision.findSome_perm_of_agree (hagree.crls hfirst) h.crls]

/-- Other lists of evidence in place of the ones of the input. -/
def RevocationEngineInput.withEvidence (a : RevocationEngineInput) (ocsps crls : List Der) :
    RevocationEngineInput :=
  { a with embeddedOcspResponse := [], embeddedOcspResponsesDer := ocsps, crlsDer := crls }

theorem reordered_withEvidence {a : RevocationEngineInput} {ocsps crls : List Der}
    (ho : ocsps.Perm (ocspCandidates a)) (hc : crls.Perm a.crlsDer) :
    Reordered a (a.withEvidence ocsps crls) ∧
      ocspCandidates (a.withEvidence ocsps crls) = ocsps := by
  have hne : ∀ d ∈ ocsps, d ≠ [] := by
    intro d hd
    have := ho.mem_iff.mp hd
    rcases mem_append.mp this with hd' | hd'
    · split at hd'
      · simp at hd'
      next hsingle =>
        rw [mem_singleton.mp hd']
        exact hsingle
    · simpa using (mem_filter.mp hd').2
  have heq : ocspCandidates (a.withEvidence ocsps crls) = ocsps := by
    simpa [ocspCandidates, RevocationEngineInput.withEvidence] using hne
  refine ⟨⟨rfl, ?_, hc⟩, heq⟩
  rw [heq]
  exact ho

theorem or_getD_inj {x y rest : Option OverallStatus} (hnone : x = none ↔ y = none)
    (h : (x.or rest).getD .indeterminate = (y.or rest).getD .indeterminate) : x = y := by
  cases x with
  | none => exact (hnone.mp rfl).symm
  | some a =>
    cases y with
    | none => exact absurd (hnone.mpr rfl) (by simp)
    | some b => simpa using h

/-- If no order of the evidence changes the verdict, the evidence agrees. -/
theorem verdictsAgree_of_reordered {a : RevocationEngineInput} (hcert : a.certificateDer ≠ [])
    (h : ∀ b, Reordered a b →
      (revocationValidate R b).overallStatus = (revocationValidate R a).overallStatus) :
    VerdictsAgree R a where
  ocsp := by
    rw [← FirstDecision.findSome_perm_iff]
    intro l hl
    obtain ⟨hre, hcand⟩ := reordered_withEvidence hl (List.Perm.refl a.crlsDer)
    have heq := h _ hre
    rw [revocationValidate_overall hcert, revocationValidate_overall
      (by rwa [hre.certificateDer]), hcand, hre.ocspVerdict, hre.networkVerdict] at heq
    exact or_getD_inj (FirstDecision.findSome_eq_none_perm hl) heq
  crls := by
    intro hopen
    rw [← FirstDecision.findSome_perm_iff]
    intro l hl
    obtain ⟨hre, hcand⟩ := reordered_withEvidence (List.Perm.refl (ocspCandidates a)) hl
    have heq := h _ hre
    have hnone : (ocspCandidates a).findSome? (ocspVerdict R a) = none :=
      findSome?_eq_none_iff.mpr hopen
    rw [revocationValidate_overall hcert, revocationValidate_overall
      (by rwa [hre.certificateDer]), hcand, hre.ocspVerdict, hre.networkVerdict, hnone] at heq
    simp only [crlsVerdict, hre.crlVerdict, hre.crlClears, Option.none_or, Option.or_assoc] at heq
    exact or_getD_inj (FirstDecision.findSome_eq_none_perm hl) heq

/-- What the evidence asked first says: the first embedded response that decides, else the first
list that revokes, else a list that clears the certificate, else the responder.  It is open if none
of them decides. -/
inductive FirstEvidence (R : RevocationOracle Cert Resp Crl) (input : RevocationEngineInput) :
    OverallStatus → Prop where
  | ocsp (before after : List Der) (d : Der) (verdict : OverallStatus)
      (split : ocspCandidates input = before ++ d :: after)
      (undecided : ∀ x ∈ before, ocspVerdict R input x = none)
      (decides : ocspVerdict R input d = some verdict) : FirstEvidence R input verdict
  | crl (before after : List Der) (c : Der) (verdict : OverallStatus)
      (noOcsp : ∀ d ∈ ocspCandidates input, ocspVerdict R input d = none)
      (split : input.crlsDer = before ++ c :: after)
      (undecided : ∀ x ∈ before, crlVerdict R input x = none)
      (decides : crlVerdict R input c = some verdict) : FirstEvidence R input verdict
  | cleared
      (noOcsp : ∀ d ∈ ocspCandidates input, ocspVerdict R input d = none)
      (noCrl : ∀ c ∈ input.crlsDer, crlVerdict R input c = none)
      (clears : CrlClears R input) : FirstEvidence R input .valid
  | network
      (noOcsp : ∀ d ∈ ocspCandidates input, ocspVerdict R input d = none)
      (noCrl : ∀ c ∈ input.crlsDer, crlVerdict R input c = none)
      (notCleared : ¬CrlClears R input) :
      FirstEvidence R input ((networkVerdict R input).getD .indeterminate)

/-- The engine's verdict is that of the evidence asked first. -/
theorem revocationValidate_firstEvidence {input : RevocationEngineInput}
    (hcert : input.certificateDer ≠ []) :
    FirstEvidence R input (revocationValidate R input).overallStatus := by
  rw [revocationValidate_overall hcert]
  cases hocsp : (ocspCandidates input).findSome? (ocspVerdict R input) with
  | some v =>
    obtain ⟨before, d, after, hsplit, hd, hbefore⟩ := findSome?_eq_some_iff.mp hocsp
    exact .ocsp before after d v hsplit hbefore hd
  | none =>
    have hopen := findSome?_eq_none_iff.mp hocsp
    rw [Option.none_or, crlsVerdict, Option.or_assoc]
    cases hcrl : input.crlsDer.findSome? (crlVerdict R input) with
    | some v =>
      obtain ⟨before, c, after, hsplit, hc, hbefore⟩ := findSome?_eq_some_iff.mp hcrl
      exact .crl before after c v hopen hsplit hbefore hc
    | none =>
      have hsilent := findSome?_eq_none_iff.mp hcrl
      by_cases hclear : CrlClears R input
      · rw [if_pos hclear]
        exact .cleared hopen hsilent hclear
      · rw [if_neg hclear]
        exact .network hopen hsilent hclear

/-- What the evidence asked first says is the engine's verdict. -/
theorem FirstEvidence.overallStatus {input : RevocationEngineInput} {verdict : OverallStatus}
    (hcert : input.certificateDer ≠ []) (h : FirstEvidence R input verdict) :
    (revocationValidate R input).overallStatus = verdict := by
  rw [revocationValidate_overall hcert]
  cases h with
  | ocsp before after d v hsplit hbefore hd =>
    rw [findSome?_eq_some_iff.mpr ⟨before, d, after, hsplit, hd, hbefore⟩]
    rfl
  | crl before after c v hopen hsplit hbefore hc =>
    rw [findSome?_eq_none_iff.mpr hopen, crlsVerdict,
      findSome?_eq_some_iff.mpr ⟨before, c, after, hsplit, hc, hbefore⟩]
    rfl
  | cleared hopen hcrl hclear =>
    rw [findSome?_eq_none_iff.mpr hopen, crlsVerdict, findSome?_eq_none_iff.mpr hcrl,
      if_pos hclear]
    rfl
  | network hopen hcrl hclear =>
    rw [findSome?_eq_none_iff.mpr hopen, crlsVerdict, findSome?_eq_none_iff.mpr hcrl,
      if_neg hclear]
    rfl

theorem revocationValidate_eq_iff {input : RevocationEngineInput}
    (hcert : input.certificateDer ≠ []) (verdict : OverallStatus) :
    (revocationValidate R input).overallStatus = verdict ↔ FirstEvidence R input verdict := by
  constructor
  · rintro rfl
    exact revocationValidate_firstEvidence hcert
  · exact FirstEvidence.overallStatus hcert

/-- **The verdict and the order of the evidence.**  The verdict is that of the evidence asked first;
it is the same for every order of the embedded responses and of the lists exactly when all responses
that decide agree and, if none decides, all revoking lists agree; and the certificate counts as
revoked exactly when the evidence asked first says so. -/
theorem revocation_verdict_order (R : RevocationOracle Cert Resp Crl)
    (input : RevocationEngineInput) :
    (∀ verdict, (revocationValidate R input).overallStatus = verdict ↔
      if input.certificateDer = [] then verdict = .indeterminate
      else FirstEvidence R input verdict) ∧
    ((∀ b, Reordered input b →
        (revocationValidate R b).overallStatus = (revocationValidate R input).overallStatus) ↔
      input.certificateDer = [] ∨ VerdictsAgree R input) ∧
    ((revocationValidate R input).overallStatus = .invalid ↔
      input.certificateDer ≠ [] ∧ FirstEvidence R input .invalid) := by
  by_cases hcert : input.certificateDer = []
  · have hsame : ∀ b, Reordered input b → (revocationValidate R b).overallStatus
        = (revocationValidate R input).overallStatus := by
      intro b hb
      simp [revocationValidate, hcert, hb.certificateDer]
    exact ⟨fun verdict => by simp [revocationValidate, hcert, eq_comm],
      iff_of_true hsame (.inl hcert), by simp [revocationValidate, hcert]⟩
  · refine ⟨fun verdict => ?_, ?_, ?_⟩
    · rw [if_neg hcert]
      exact revocationValidate_eq_iff hcert verdict
    · refine ⟨fun h => .inr (verdictsAgree_of_reordered hcert h), ?_⟩
      rintro (hempty | hagree) b hb
      · exact absurd hempty hcert
      · exact hagree.reordered hb
    · rw [revocationValidate_eq_iff hcert]
      exact (and_iff_right hcert).symm

end Engine

/-! ### Contradicting responses -/

/-- A library that decodes everything; the response `[1]` says good, the
response `[2]` says revoked. -/
def contradictingResponses : RevocationOracle Der Der Der where
  certs :=
    { certDecode := some
      verifyByIssuer := fun _ _ => true
      checkValidityWithDate := fun _ _ => true
      readIssuerBasicConstraints := fun _ => {}
      issuerHasKeyCertSign := fun _ => true
      now := 100 }
  ocsp :=
    { generateRequest := fun _ _ _ => .ok ([0], ⟨[], [], []⟩)
      ocsprespDecode := some
      ocsprespGetStatus := fun _ => some (some 0)
      hasResponseBytes := fun _ => true
      eocspreqValidateResp := fun _ _ _ => .ok
      verifyAdapterInit := fun _ => true
      ocsprespVerify := fun _ _ => true
      ocsprespGetCerts := fun _ => []
      hasOcspSigningEku := fun _ => false
      extractResponseCertIds := fun _ => [⟨[], [], []⟩]
      extractStatuses := fun r => [(if r = [1] then "good" else "revoked", 50)]
      computeSha256Hex := fun _ => ""
      httpPost := fun _ _ _ => {} }
  crl :=
    { crlDecode := some
      issuerEquals := fun _ _ => true
      crlGetTbs := fun _ => none
      crlVerify := fun _ _ => true
      crlCheckCert := fun _ _ => .ok false
      crlGetCertInfo := fun _ _ => none }

def goodThenRevoked : RevocationEngineInput :=
  { certificateDer := [7], issuerCertificateDer := [8], embeddedOcspResponsesDer := [[1], [2]] }

/-- A usable response says that the certificate was revoked before the
validation time, and the verdict depends on where it stands. -/
theorem revocation_order_matters :
    ∃ (R : RevocationOracle Der Der Der) (a b : RevocationEngineInput),
      Reordered a b ∧ (∃ d ∈ ocspCandidates a, ocspVerdict R a d = some .invalid) ∧
      (revocationValidate R a).overallStatus = .valid ∧
      (revocationValidate R b).overallStatus = .invalid := by
  refine ⟨contradictingResponses, goodThenRevoked,
    { goodThenRevoked with embeddedOcspResponsesDer := [[2], [1]] }, ⟨rfl, ?_, .refl _⟩, ?_, ?_, ?_⟩
  · exact List.Perm.swap _ _ _
  · exact ⟨[2], by decide, by decide⟩
  · decide
  · decide

end Tamga.Validation
