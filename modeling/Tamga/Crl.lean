/-
Local certificate revocation lists (`CrlValidator`).

The lists are gone through in order.  A list that shows the certificate as
revoked ends the loop; the first one that shows it as not revoked is kept; all
others only leave a trace in the flags that choose the final status.  "Not
revoked" counts only from a fresh list with a verified signature, "revoked"
also from a stale one.

* `crlFinding` — what one list says, independently of the others;
* `crlValidate_spec` — the verdict in terms of the findings: the first revoking
  list, else the first good one, else no definite status;
* `crlValidate_status` — the status by the kinds of lists, so that their order does not matter;
* `crlVerdictSound_iff` — `good` is backed by a list that covers the validation time, unless
  a list whose dates are not taken as they stand decides.
-/
import Tamga.Ocsp

namespace Tamga.Policy

open IsoTime List

/-! ### What the library answers -/

/-- A time field of a list.  One that is there may still be unreadable. -/
inductive CrlTime where
  | absent
  | unreadable
  | instant (seconds : Int)
  deriving DecidableEq, Repr

/-- `PkixTimeToTimeT`: the second before the epoch also stands for a failure. -/
def pkixTimeToTimeT : CrlTime → Int
  | .instant seconds => seconds
  | _ => -1

/-- The library's part of `CrlValidator` and of the functions of `RevocationOps.cpp` it calls. -/
structure CrlOracle (Cert Crl : Type) where
  crlDecode : Der → Option Crl
  /-- `asn_equals` of the list's issuer and the certificate's issuer. -/
  issuerEquals : Crl → Cert → Bool
  /-- `thisUpdate` and `nextUpdate` of `crl_get_tbs`. -/
  crlGetTbs : Crl → Option (CrlTime × CrlTime)
  /-- `verify_adapter_init_by_cert` and `crl_verify`. -/
  crlVerify : Crl → Cert → Bool
  /-- `crl_check_cert`: the return code of a failure, or whether the serial
  number is listed. -/
  crlCheckCert : Crl → Cert → Except Int Bool
  /-- `crl_get_cert_info` and `PkixTimeToTimeT`. -/
  crlGetCertInfo : Crl → Cert → Option Int

structure CrlValidationInput where
  signerCertificateDer : Der := []
  issuerCertificateDer : Der := []
  crlsDer : List Der := []
  validationTime : String := ""

structure CrlValidationResult where
  checked : Bool := false
  revoked : Bool := false
  status : RevocationStatus := .notChecked
  message : String := ""
  crlEvidenceId : String := ""
  revocationTime : Int := 0

structure CrlCheckResult where
  checked : Bool := false
  revoked : Bool := false
  crlValid : Bool := false
  message : String := ""
  revocationTime : Int := 0

section Validate

variable {Cert Resp Crl : Type} (X : CertOracle Cert) (O : OcspOracle Cert Resp)
  (L : CrlOracle Cert Crl)

/-- `HasDifferentCrlIssuer`: a list that cannot be read is not foreign. -/
def hasDifferentCrlIssuer (crlDer : Der) (certificate : Option Cert) : Bool :=
  match certificate, L.crlDecode crlDer with
  | some c, some crl => !L.issuerEquals crl c
  | _, _ => false

/-- `GetCrlValidityWindow`: 0 as the end of the window stands for an absent `nextUpdate`, and for
an unreadable one as well. -/
def getCrlValidityWindow (crlDer : Der) : Option (Int × Int) :=
  if crlDer = [] then none
  else
    match (L.crlDecode crlDer).bind L.crlGetTbs with
    | none => none
    | some (thisUpdate, nextUpdate) =>
      if pkixTimeToTimeT thisUpdate = -1 then none
      else
        some (pkixTimeToTimeT thisUpdate,
          if pkixTimeToTimeT nextUpdate = -1 then 0 else pkixTimeToTimeT nextUpdate)

def buildRcError (stage : String) (rc : Int) : String :=
  stage ++ " failed (cryptonite rc=" ++ toString rc ++ ")"

def checkCertificateRevocation (certificateDer crlDer issuerCertificateDer : Der) :
    CrlCheckResult :=
  if certificateDer = [] ∨ crlDer = [] then { message := "Certificate or CRL data is empty" }
  else match X.certDecode certificateDer with
  | none => { message := "Certificate decode failed" }
  | some cert =>
    match L.crlDecode crlDer with
    | none => { message := "CRL decode failed" }
    | some crl =>
      let crlValid := match decodeCertificateDer X issuerCertificateDer with
        | some issuer => L.crlVerify crl issuer
        | none => false
      match L.crlCheckCert crl cert with
      | .error rc => { crlValid := crlValid, message := buildRcError "CRL certificate check" rc }
      | .ok revoked =>
        { checked := true
          revoked := revoked
          crlValid := crlValid
          message := if revoked then "Certificate is revoked" else "Certificate is not revoked"
          revocationTime := if revoked then (L.crlGetCertInfo crl cert).getD 0 else 0 }

variable (input : CrlValidationInput)

/-- Whether the list is outside its window at the validation time, and how. -/
def freshnessMessage (crlDer : Der) : Option String :=
  match getCrlValidityWindow L crlDer with
  | none => none
  | some (thisUpdate, nextUpdate) =>
    let time := validationTimeSec X.now input.validationTime
    if time < thisUpdate then some "CRL is not yet valid at the validation time."
    else if nextUpdate ≠ 0 ∧ time > nextUpdate then
      some "CRL is stale: nextUpdate is earlier than the validation time."
    else none

/-! ### The loop -/

structure CrlLoopState where
  result : CrlValidationResult :=
    { status := .invalid, message := "No local CRL produced a valid revocation check." }
  sawInvalid : Bool := false
  sawUnverifiable : Bool := false
  sawUnrelated : Bool := false
  sawStale : Bool := false
  staleMessage : String := ""
  goodResult : CrlValidationResult := {}

def keepEvidence (r : CrlValidationResult) (id : String) : CrlValidationResult :=
  { r with crlEvidenceId := if r.crlEvidenceId = "" then id else r.crlEvidenceId }

def crlCandidate (check : CrlCheckResult) (id : String) : CrlValidationResult :=
  { checked := true
    revoked := check.revoked
    status := if check.revoked then .revoked else .good
    message := check.message
    crlEvidenceId := id
    revocationTime := check.revocationTime }

/-- The loop body; `.inr` is its `return candidate`. -/
def crlStep (st : CrlLoopState) (crlDer : Der) : CrlLoopState ⊕ CrlValidationResult :=
  if hasDifferentCrlIssuer L crlDer (decodeCertificateDer X input.signerCertificateDer) then
    .inl { st with sawUnrelated := true }
  else
    let check := checkCertificateRevocation X L input.signerCertificateDer crlDer
      input.issuerCertificateDer
    let st := { st with
      result := { st.result with
        message := if check.message = "" then st.result.message else check.message } }
    if !check.checked then .inl { st with sawInvalid := true }
    else if input.issuerCertificateDer ≠ [] ∧ check.crlValid = false then
      .inl { st with
        sawInvalid := true
        result := { st.result with
          checked := true
          status := .invalid
          message := if check.message = "" then "CRL signature validation failed."
            else "CRL signature validation failed: " ++ check.message } }
    else match freshnessMessage X L input crlDer, check.revoked with
    | some message, false =>
      .inl { st with
        sawStale := true
        staleMessage := message
        result := keepEvidence st.result (O.computeSha256Hex crlDer) }
    | _, revoked =>
      if input.issuerCertificateDer = [] ∧ revoked = false then
        .inl { st with
          sawUnverifiable := true
          result := keepEvidence st.result (O.computeSha256Hex crlDer) }
      else
        let candidate := crlCandidate check (O.computeSha256Hex crlDer)
        if revoked then .inr candidate
        else .inl { st with
          goodResult := if st.goodResult.checked then st.goodResult else candidate }

def crlLoop (input : CrlValidationInput) :
    List Der → CrlLoopState → CrlLoopState ⊕ CrlValidationResult
  | [], st => .inl st
  | crlDer :: rest, st =>
    match crlStep X O L input st crlDer with
    | .inl st' => crlLoop input rest st'
    | .inr candidate => .inr candidate

def crlConclude (st : CrlLoopState) : CrlValidationResult :=
  if st.goodResult.checked then st.goodResult
  else if st.sawInvalid then { st.result with status := .invalid, checked := true }
  else if st.sawStale then
    { st.result with
      checked := true
      status := .stale
      message := if st.staleMessage = "" then
          "CRL revocation status is unknown: the CRL is outside its validity window."
        else st.staleMessage }
  else if st.sawUnverifiable then
    { st.result with
      checked := false
      status := .unknown
      message := "CRL revocation status is unknown: the issuer certificate is unavailable, " ++
        "so the CRL signature could not be verified." }
  else if st.sawUnrelated then
    { st.result with
      checked := false
      status := .unknown
      message := "No local CRL matches the certificate issuer." }
  else st.result

/-- `CrlValidator::Validate`. -/
def crlValidate : CrlValidationResult :=
  if input.crlsDer = [] then { status := .unknown, message := "No local CRLs are available." }
  else match crlLoop X O L input input.crlsDer {} with
    | .inl st => crlConclude st
    | .inr candidate => candidate

/-! ### What one list says -/

/-- What a list is good for. -/
inductive CrlKind where
  | unrelated
  | invalid
  | revoked
  | stale
  | unverifiable
  | good
  deriving DecidableEq, Repr

/-- The branch of the loop body that a list takes. -/
def crlKind (crlDer : Der) : CrlKind :=
  let check := checkCertificateRevocation X L input.signerCertificateDer crlDer
    input.issuerCertificateDer
  if hasDifferentCrlIssuer L crlDer (decodeCertificateDer X input.signerCertificateDer) then
    .unrelated
  else if !check.checked then .invalid
  else if input.issuerCertificateDer ≠ [] ∧ check.crlValid = false then .invalid
  else if check.revoked then .revoked
  else if (freshnessMessage X L input crlDer).isSome then .stale
  else if input.issuerCertificateDer = [] then .unverifiable
  else .good

/-- What a list says about the certificate. -/
inductive CrlFinding where
  | revoked (time : Int)
  | good
  | silent
  deriving DecidableEq, Repr

def crlFinding (crlDer : Der) : CrlFinding :=
  match crlKind X L input crlDer with
  | .revoked => .revoked (checkCertificateRevocation X L input.signerCertificateDer crlDer
      input.issuerCertificateDer).revocationTime
  | .good => .good
  | _ => .silent

def CrlFinding.revokedAt : CrlFinding → Option Int
  | .revoked time => some time
  | _ => none

/-- The trace that the lists of a kind leave. -/
def CrlLoopState.saw (st : CrlLoopState) : CrlKind → Bool
  | .unrelated => st.sawUnrelated
  | .invalid => st.sawInvalid
  | .revoked => false
  | .stale => st.sawStale
  | .unverifiable => st.sawUnverifiable
  | .good => st.goodResult.checked

/-- What the loop keeps: the status of a list that was passed over is never
definite, and a kept result is a good one. -/
structure CrlLoopState.Ok (st : CrlLoopState) : Prop where
  status : st.result.status = .invalid
  good : st.goodResult.checked = true → st.goodResult.status = .good

variable {X O L}

theorem CrlLoopState.saw_iff {st st' : CrlLoopState} {k₀ : CrlKind} (hnew : st'.saw k₀ = true)
    (hrest : ∀ k, k ≠ k₀ → st'.saw k = st.saw k) (k : CrlKind) :
    st'.saw k = true ↔ st.saw k = true ∨ k = k₀ := by
  by_cases hk : k = k₀
  · subst hk
    exact iff_of_true hnew (Or.inr rfl)
  · rw [hrest k hk, or_iff_left hk]

theorem crlStep_spec {input : CrlValidationInput} {st : CrlLoopState} (h : st.Ok) (crlDer : Der) :
    match (crlFinding X L input crlDer).revokedAt with
    | some time => crlKind X L input crlDer = .revoked ∧
        ∃ r, crlStep X O L input st crlDer = .inr r ∧ r.checked = true ∧ r.status = .revoked ∧
          r.revocationTime = time
    | none => crlKind X L input crlDer ≠ .revoked ∧
        ∃ st', crlStep X O L input st crlDer = .inl st' ∧ st'.Ok ∧
          ∀ k, st'.saw k = true ↔ st.saw k = true ∨ k = crlKind X L input crlDer := by
  simp only [crlFinding, crlKind, crlStep]
  set check := checkCertificateRevocation X L input.signerCertificateDer crlDer
    input.issuerCertificateDer with hcheck
  by_cases hdiff : hasDifferentCrlIssuer L crlDer
      (decodeCertificateDer X input.signerCertificateDer) = true
  · simp only [if_pos hdiff]
    refine ⟨nofun, _, rfl, ⟨h.status, h.good⟩, CrlLoopState.saw_iff rfl fun k hk => ?_⟩
    cases k <;> first | rfl | exact absurd rfl hk
  simp only [if_neg hdiff]
  by_cases hch : (!check.checked) = true
  · simp only [if_pos hch]
    refine ⟨nofun, _, rfl, ⟨h.status, h.good⟩, CrlLoopState.saw_iff rfl fun k hk => ?_⟩
    cases k <;> first | rfl | exact absurd rfl hk
  simp only [if_neg hch]
  by_cases hsig : input.issuerCertificateDer ≠ [] ∧ check.crlValid = false
  · simp only [if_pos hsig]
    refine ⟨nofun, _, rfl, ⟨rfl, h.good⟩, CrlLoopState.saw_iff rfl fun k hk => ?_⟩
    cases k <;> first | rfl | exact absurd rfl hk
  simp only [if_neg hsig]
  cases hrev : check.revoked with
  | true =>
    -- staleness and a missing issuer do not matter for a listed serial number
    refine ⟨rfl, crlCandidate check (O.computeSha256Hex crlDer), ?_, rfl,
      by simp [crlCandidate, hrev], rfl⟩
    cases freshnessMessage X L input crlDer <;> simp
  | false =>
    cases hfresh : freshnessMessage X L input crlDer with
    | some message =>
      refine ⟨nofun, _, rfl, ⟨h.status, h.good⟩, CrlLoopState.saw_iff rfl fun k hk => ?_⟩
      cases k <;> first | rfl | exact absurd rfl hk
    | none =>
      by_cases hiss : input.issuerCertificateDer = []
      · simp only [hiss]
        refine ⟨nofun, _, rfl, ⟨h.status, h.good⟩, CrlLoopState.saw_iff rfl fun k hk => ?_⟩
        cases k <;> first | rfl | exact absurd rfl hk
      · simp only [hiss]
        refine ⟨nofun, _, rfl, ⟨h.status, ?_⟩, CrlLoopState.saw_iff ?_ fun k hk => ?_⟩
        · intro _
          cases hg : st.goodResult.checked with
          | true => simpa [hg] using h.good hg
          | false => simp [crlCandidate, hrev]
        · cases hg : st.goodResult.checked with
          | true => simp [CrlLoopState.saw, hg]
          | false => simp [CrlLoopState.saw, crlCandidate]
        · cases k <;> first | rfl | exact absurd rfl hk

theorem crlLoop_spec {input : CrlValidationInput} : ∀ (crls : List Der) {st : CrlLoopState}, st.Ok →
      match crls.findSome? fun c => (crlFinding X L input c).revokedAt with
      | some time => (∃ c ∈ crls, crlKind X L input c = .revoked) ∧
          ∃ r, crlLoop X O L input crls st = .inr r ∧ r.checked = true ∧ r.status = .revoked ∧
            r.revocationTime = time
      | none => (∀ c ∈ crls, crlKind X L input c ≠ .revoked) ∧
          ∃ st', crlLoop X O L input crls st = .inl st' ∧ st'.Ok ∧
            ∀ k, st'.saw k = true ↔ st.saw k = true ∨ ∃ c ∈ crls, k = crlKind X L input c := by
  intro crls
  induction crls with
  | nil =>
    intro st h
    exact ⟨nofun, st, rfl, h, by simp⟩
  | cons c rest ih =>
    intro st h
    have hstep := @crlStep_spec _ _ _ X O L input _ h c
    simp only [List.findSome?_cons, crlLoop]
    cases hf : (crlFinding X L input c).revokedAt with
    | some time =>
      rw [hf] at hstep
      obtain ⟨hkind, r, hr, hrest⟩ := hstep
      exact ⟨⟨c, mem_cons_self, hkind⟩, r, by rw [hr], hrest⟩
    | none =>
      rw [hf] at hstep
      obtain ⟨hkind, st', hst', hok, hsaw⟩ := hstep
      simp only [hst']
      have hrest := ih hok
      cases hfind : rest.findSome? fun c => (crlFinding X L input c).revokedAt with
      | some time =>
        rw [hfind] at hrest
        obtain ⟨⟨d, hd, hrevoked⟩, hrest⟩ := hrest
        exact ⟨⟨d, mem_cons_of_mem _ hd, hrevoked⟩, hrest⟩
      | none =>
        rw [hfind] at hrest
        obtain ⟨hkinds, st'', hst'', hok', hsaw'⟩ := hrest
        refine ⟨forall_mem_cons.mpr ⟨hkind, hkinds⟩, st'', hst'', hok', fun k => ?_⟩
        simp [hsaw', hsaw, or_assoc]

theorem CrlLoopState.initial_ok : CrlLoopState.Ok {} :=
  ⟨rfl, by simp⟩

theorem crlConclude_status {st : CrlLoopState} (h : st.Ok) : (crlConclude st).status =
    if st.saw .good then .good else if st.saw .invalid then .invalid
    else if st.saw .stale then .stale
    else if st.saw .unverifiable ∨ st.saw .unrelated then .unknown else .invalid := by
  unfold crlConclude
  by_cases hg : st.goodResult.checked = true
  · rw [if_pos hg, if_pos (show st.saw .good = true from hg)]
    exact h.good hg
  · rw [if_neg hg, if_neg (show ¬ st.saw .good = true from hg)]
    cases hinvalid : st.sawInvalid <;> cases hstale : st.sawStale <;>
      cases hverify : st.sawUnverifiable <;> cases hother : st.sawUnrelated <;>
      simp [CrlLoopState.saw, hinvalid, hstale, hverify, hother, h.status]

variable (X L) in
def ShowsKind (k : CrlKind) : Prop :=
  ∃ c ∈ input.crlsDer, k = crlKind X L input c

instance (input : CrlValidationInput) (k : CrlKind) : Decidable (ShowsKind X L input k) :=
  inferInstanceAs (Decidable (∃ c ∈ input.crlsDer, k = crlKind X L input c))

/-- **The status, by the kinds of lists that are given.** -/
theorem crlValidate_status : (crlValidate X O L input).status =
    if ShowsKind X L input .revoked then .revoked
    else if ShowsKind X L input .good then .good
    else if ShowsKind X L input .invalid then .invalid
    else if ShowsKind X L input .stale then .stale else .unknown := by
  unfold crlValidate
  by_cases hnil : input.crlsDer = []
  · simp [hnil, ShowsKind]
  rw [if_neg hnil]
  have hloop := @crlLoop_spec _ _ _ X O L input input.crlsDer _ CrlLoopState.initial_ok
  split at hloop
  · obtain ⟨⟨c, hc, hkind⟩, r, hr, -, hstatus, -⟩ := hloop
    rw [hr, if_pos ⟨c, hc, hkind.symm⟩]
    exact hstatus
  · obtain ⟨hkinds, st, hst, hok, hsaw⟩ := hloop
    have hshows : ∀ k, st.saw k = true ↔ ShowsKind X L input k := fun k => by
      rw [hsaw k, or_iff_right (by cases k <;> simp [CrlLoopState.saw])]
      rfl
    have hrevoked : ¬ ShowsKind X L input .revoked := by
      rintro ⟨c, hc, hkind⟩
      exact hkinds c hc hkind.symm
    rw [hst, if_neg hrevoked]
    simp only [crlConclude_status hok, hshows]
    -- every list is of some kind, so that one of the traces is there
    obtain ⟨c, hc⟩ := exists_mem_of_ne_nil _ hnil
    have hsome : ShowsKind X L input (crlKind X L input c) := ⟨c, hc, rfl⟩
    split_ifs with hgood hinvalid hstale hother
    · rfl
    · rfl
    · rfl
    · rfl
    · rw [not_or] at hother
      cases hkind : crlKind X L input c <;> rw [hkind] at hsome
      · exact absurd hsome hother.2
      · exact absurd hsome hinvalid
      · exact absurd hsome hrevoked
      · exact absurd hsome hstale
      · exact absurd hsome hother.1
      · exact absurd hsome hgood

variable {input}

theorem crlFinding_good_iff {c : Der} :
    crlFinding X L input c = .good ↔ .good = crlKind X L input c := by
  rw [crlFinding]
  cases crlKind X L input c <;> simp

/-- **The verdict over a list of CRLs**: revoked by the first list that says
so; otherwise good as soon as one list says so; otherwise undetermined. -/
theorem crlValidate_spec :
    match input.crlsDer.findSome? fun c => (crlFinding X L input c).revokedAt with
    | some time => (crlValidate X O L input).checked = true ∧
        (crlValidate X O L input).status = .revoked ∧
        (crlValidate X O L input).revocationTime = time
    | none =>
      if ∃ c ∈ input.crlsDer, crlFinding X L input c = .good then
        (crlValidate X O L input).checked = true ∧ (crlValidate X O L input).status = .good
      else (crlValidate X O L input).status.definite = false := by
  have hstatus := @crlValidate_status _ _ _ X O L input
  unfold crlValidate at hstatus ⊢
  by_cases hnil : input.crlsDer = []
  · simp [hnil, RevocationStatus.definite]
  rw [if_neg hnil] at hstatus ⊢
  have hloop := @crlLoop_spec _ _ _ X O L input input.crlsDer _ CrlLoopState.initial_ok
  split at hloop
  · obtain ⟨-, r, hr, hrest⟩ := hloop
    rw [hr]
    exact hrest
  · obtain ⟨hkinds, st, hst, hok, hsaw⟩ := hloop
    rw [hst] at hstatus ⊢
    have hrevoked : ¬ ShowsKind X L input .revoked := by
      rintro ⟨c, hc, hkind⟩
      exact hkinds c hc hkind.symm
    simp only [crlFinding_good_iff]
    by_cases hgood : ShowsKind X L input .good
    · rw [if_neg hrevoked, if_pos hgood] at hstatus
      rw [if_pos (show ∃ c ∈ input.crlsDer, .good = crlKind X L input c from hgood)]
      refine ⟨?_, hstatus⟩
      have hchecked : st.goodResult.checked = true := (hsaw .good).mpr (Or.inr hgood)
      simp only [crlConclude, hchecked, if_true]
    · rw [if_neg hrevoked, if_neg hgood] at hstatus
      rw [if_neg (show ¬ ∃ c ∈ input.crlsDer, .good = crlKind X L input c from hgood)]
      show (crlConclude st).status.definite = false
      rw [hstatus]
      split_ifs <;> rfl

/-! ### What the verdict says about the lists -/

variable (X L input) in
/-- The list is one of the certificate's issuer, its signature verifies under the issuer's
certificate, and `listed` is whether it has the serial number. -/
def VerifiedList (crlDer : Der) (listed : Bool) : Prop :=
  ∃ cert issuer crl, decodeCertificateDer X input.signerCertificateDer = some cert ∧
    decodeCertificateDer X input.issuerCertificateDer = some issuer ∧ crlDer ≠ [] ∧
    L.crlDecode crlDer = some crl ∧ L.issuerEquals crl cert = true ∧
    L.crlVerify crl issuer = true ∧ L.crlCheckCert crl cert = .ok listed

theorem VerifiedList.ne_nil {c : Der} {listed : Bool} (h : VerifiedList X L input c listed) :
    c ≠ [] := by
  obtain ⟨-, -, -, -, -, hne, -⟩ := h
  exact hne

variable (X L input) in
/-- The window of the list is known and contains the validation time.  A list without a
`nextUpdate` has no end. -/
def InWindow (crlDer : Der) : Prop :=
  ∃ thisUpdate nextUpdate,
    (L.crlDecode crlDer).bind L.crlGetTbs = some (.instant thisUpdate, nextUpdate) ∧
    thisUpdate ≤ validationTimeSec X.now input.validationTime ∧
    (nextUpdate = .absent ∨
      ∃ last, nextUpdate = .instant last ∧ validationTimeSec X.now input.validationTime ≤ last)

variable (X L input) in
/-- A date of the list is not taken as it stands: `thisUpdate` cannot be read, or `nextUpdate`
counts as absent although it is there (it cannot be read, or it is a number that stands for
something else). -/
def Misdated (crlDer : Der) : Prop :=
  ∀ thisUpdate nextUpdate, (L.crlDecode crlDer).bind L.crlGetTbs = some (thisUpdate, nextUpdate) →
    pkixTimeToTimeT thisUpdate ≠ -1 →
      pkixTimeToTimeT thisUpdate ≤ validationTimeSec X.now input.validationTime ∧
        nextUpdate ≠ .absent ∧ (pkixTimeToTimeT nextUpdate = -1 ∨ pkixTimeToTimeT nextUpdate = 0)

theorem freshnessMessage_eq_none {c : Der} (hc : c ≠ []) : freshnessMessage X L input c = none ↔
      Misdated X L input c ∨ InWindow X L input c := by
  rw [freshnessMessage, getCrlValidityWindow, if_neg hc, Misdated, InWindow]
  rcases (L.crlDecode c).bind L.crlGetTbs with _ | ⟨thisUpdate, nextUpdate⟩
  · simp
  · generalize validationTimeSec X.now input.validationTime = time
    -- only an instant gives a number other than -1
    cases thisUpdate with
    | absent | unreadable => simp [pkixTimeToTimeT]
    | instant first =>
      cases nextUpdate with
      | absent => grind [pkixTimeToTimeT]
      | unreadable => grind [pkixTimeToTimeT]
      | instant last => grind [pkixTimeToTimeT]

theorem verifiedList_iff {c : Der} {listed : Bool} : VerifiedList X L input c listed ↔
      hasDifferentCrlIssuer L c (decodeCertificateDer X input.signerCertificateDer) = false ∧
        (checkCertificateRevocation X L input.signerCertificateDer c
          input.issuerCertificateDer).checked = true ∧
        (checkCertificateRevocation X L input.signerCertificateDer c
          input.issuerCertificateDer).crlValid = true ∧
        (checkCertificateRevocation X L input.signerCertificateDer c
          input.issuerCertificateDer).revoked = listed := by
  simp only [VerifiedList, hasDifferentCrlIssuer, checkCertificateRevocation]
  by_cases hempty : input.signerCertificateDer = [] ∨ c = []
  · rw [if_pos hempty]
    refine iff_of_false ?_ nofun
    rintro ⟨cert, issuer, crl, hcert, -, hc, -⟩
    rcases hempty with hs | hnil
    · rw [decodeCertificateDer, if_pos hs] at hcert
      cases hcert
    · exact hc hnil
  · rw [if_neg hempty]
    obtain ⟨hs, hc⟩ := not_or.mp hempty
    simp only [decodeCertificateDer, if_neg hs]
    cases X.certDecode input.signerCertificateDer with
    | none => simp
    | some cert =>
      cases L.crlDecode c with
      | none => simp
      | some crl =>
        by_cases hi : input.issuerCertificateDer = []
        · simp only [if_pos hi]
          cases L.crlCheckCert crl cert <;> simp
        · simp only [if_neg hi]
          cases X.certDecode input.issuerCertificateDer <;>
            cases hcheck : L.crlCheckCert crl cert <;> simp +contextual [hc, hcheck]

variable (X L) in
theorem crlValid_of_no_issuer (s c : Der) :
    (checkCertificateRevocation X L s c []).crlValid = false := by
  simp only [checkCertificateRevocation, decodeCertificateDer]
  split_ifs
  · rfl
  · cases X.certDecode s with
    | none => rfl
    | some cert =>
      cases L.crlDecode c with
      | none => rfl
      | some crl => cases hcheck : L.crlCheckCert crl cert <;> simp only [hcheck]

theorem crlKind_eq_good {c : Der} : .good = crlKind X L input c ↔
      VerifiedList X L input c false ∧ freshnessMessage X L input c = none := by
  rw [verifiedList_iff]
  simp only [crlKind]
  split_ifs with hdiff hchecked hsig hrevoked hfresh hissuer
  · simp [hdiff]
  · rw [Bool.not_eq_true'] at hchecked
    simp [hchecked]
  · simp [hsig.2]
  · simp [hrevoked]
  · rw [Option.isSome_iff_ne_none] at hfresh
    simp [hfresh]
  · rw [hissuer]
    simp [crlValid_of_no_issuer]
  · rw [Option.isSome_iff_ne_none, not_not] at hfresh
    simp_all

theorem crlKind_eq_revoked {c : Der} (h : VerifiedList X L input c true) :
    .revoked = crlKind X L input c := by
  obtain ⟨hissuer, hchecked, hvalid, hrevoked⟩ := verifiedList_iff.mp h
  simp [crlKind, hissuer, hchecked, hvalid, hrevoked]

variable (X O L input) in
/-- The verdict is sound: it does not depend on the order of the lists, a verified list with the
serial number gives `revoked`, and `good` comes from a verified list that covers the validation
time, none having the serial number. -/
structure CrlVerdictSound : Prop where
  order : ∀ crls : List Der, crls.Perm input.crlsDer →
    (crlValidate X O L { input with crlsDer := crls }).status = (crlValidate X O L input).status
  revoked : (∃ c ∈ input.crlsDer, VerifiedList X L input c true) →
    (crlValidate X O L input).status = .revoked
  good : (crlValidate X O L input).status = .good →
    (∃ c ∈ input.crlsDer, VerifiedList X L input c false ∧ InWindow X L input c) ∧
      ∀ c ∈ input.crlsDer, ¬ VerifiedList X L input c true

theorem crlValidate_perm {crls : List Der} (h : crls.Perm input.crlsDer) :
    (crlValidate X O L { input with crlsDer := crls }).status =
      (crlValidate X O L input).status := by
  have hkind : ∀ k, ShowsKind X L { input with crlsDer := crls } k ↔ ShowsKind X L input k :=
    fun k => exists_congr fun c => and_congr_left fun _ => h.mem_iff
  simp only [crlValidate_status, hkind]

theorem crlValidate_revoked (h : ∃ c ∈ input.crlsDer, VerifiedList X L input c true) :
    (crlValidate X O L input).status = .revoked := by
  obtain ⟨c, hc, hverified⟩ := h
  rw [crlValidate_status, if_pos ⟨c, hc, crlKind_eq_revoked hverified⟩]

/-- **The verdict of the lists is sound, unless a list whose dates are not taken as they stand
decides it.**  A list with an unreadable `thisUpdate` counts as fresh (`crl_fresh` starts as true),
and one with an unreadable `nextUpdate` as one without an end. -/
theorem crlVerdictSound_iff (X : CertOracle Cert) (O : OcspOracle Cert Resp)
    (L : CrlOracle Cert Crl) (input : CrlValidationInput) : CrlVerdictSound X O L input ↔
      ((∃ c ∈ input.crlsDer, VerifiedList X L input c false ∧ Misdated X L input c) →
        ShowsKind X L input .revoked ∨
          ∃ c ∈ input.crlsDer, VerifiedList X L input c false ∧ InWindow X L input c) := by
  constructor
  · rintro ⟨-, -, hgood⟩ ⟨c, hc, hverified, hdates⟩
    by_cases hrevoked : ShowsKind X L input .revoked
    · exact Or.inl hrevoked
    · refine Or.inr (hgood ?_).1
      rw [crlValidate_status, if_neg hrevoked, if_pos]
      exact ⟨c, hc, crlKind_eq_good.mpr
        ⟨hverified, (freshnessMessage_eq_none hverified.ne_nil).mpr (Or.inl hdates)⟩⟩
  · intro h
    refine ⟨fun crls hperm => crlValidate_perm hperm, crlValidate_revoked, fun hstatus => ?_⟩
    rw [crlValidate_status] at hstatus
    split_ifs at hstatus with hrevoked hgood
    refine ⟨?_, fun c hc hlisted => hrevoked ⟨c, hc, crlKind_eq_revoked hlisted⟩⟩
    obtain ⟨c, hc, hkind⟩ := hgood
    obtain ⟨hverified, hfresh⟩ := crlKind_eq_good.mp hkind
    rcases (freshnessMessage_eq_none hverified.ne_nil).mp hfresh with hdates | hwindow
    · exact (h ⟨c, hc, hverified, hdates⟩).resolve_left hrevoked
    · exact ⟨c, hc, hverified, hwindow⟩

end Validate

/-- Verified lists with these dates that do not have the serial number. -/
def datedLists (thisUpdate nextUpdate : CrlTime) : CrlOracle Unit Unit where
  crlDecode _ := some ()
  issuerEquals _ _ := true
  crlGetTbs _ := some (thisUpdate, nextUpdate)
  crlVerify _ _ := true
  crlCheckCert _ _ := .ok false
  crlGetCertInfo _ _ := none

/-- The certificate is reported as good, although no list covers the validation time: neither a
list whose `thisUpdate` nor one whose `nextUpdate` cannot be read. -/
theorem good_without_window : ∃ (X : CertOracle Unit) (O : OcspOracle Unit Unit)
    (input : CrlValidationInput), ∀ dates ∈ [(CrlTime.unreadable, CrlTime.absent),
      (CrlTime.instant 0, CrlTime.unreadable)],
      (crlValidate X O (datedLists dates.1 dates.2) input).status = .good ∧
        ∀ c ∈ input.crlsDer, ¬ InWindow X (datedLists dates.1 dates.2) input c := by
  refine ⟨⟨fun _ => some (), fun _ _ => true, fun _ _ => true, fun _ => {},
    fun _ => true, 0⟩, ⟨fun _ _ _ => .error "", fun _ => none, fun _ => none, fun _ => false,
    fun _ _ _ => .failed, fun _ => false, fun _ _ => false, fun _ => [], fun _ => false,
    fun _ => [], fun _ => [], fun _ => "", fun _ _ _ => {}⟩,
    { signerCertificateDer := [1], issuerCertificateDer := [2], crlsDer := [[3]] }, ?_⟩
  simp only [forall_mem_cons, not_mem_nil, false_imp_iff, implies_true, and_true]
  constructor
  · refine ⟨by decide, ?_⟩
    rintro ⟨thisUpdate, nextUpdate, hdates, -⟩
    cases hdates
  · refine ⟨by decide, ?_⟩
    rintro ⟨thisUpdate, nextUpdate, hdates, -, hnext⟩
    cases hdates
    rcases hnext with hnext | ⟨last, hnext, -⟩ <;> cases hnext

end Tamga.Policy
