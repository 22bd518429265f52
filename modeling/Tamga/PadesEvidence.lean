/-
`CollectPadesCertificateEvidence`: a chain of certificates with evidence for each of them.

The walk goes from a certificate to its issuer, 32 times at most.  For each certificate it
asks the OCSP responses that are there, then the lists, then the responder, and then the
lists of the work directory, until one of them reports it as good.

* `judgeStep_spec` — what one certificate has passed;
* `collectPadesCertificateEvidence_chain` — what a successful walk has collected.
-/
import Tamga.PadesBuilder
import Tamga.TimestampEngine

namespace Tamga.Pades

open Util Policy Validation IsoTime List

structure OcspSettings where
  url : String := ""
  useNonce : Bool := true
  timeoutMs : Int := 10000

/-- The libraries behind the collection, and the lists that `LoadMatchingCrlsFromWorkDir`
finds for a certificate, without a download before and after one. -/
structure EvidenceSources (Cert Resp Crl : Type) where
  engine : TimestampOracle Cert Resp Crl
  matchingCrls : String → Der → List Der
  downloadedMatchingCrls : String → Der → List Der

/-- The parameters of a call that do not change. -/
structure EvidenceRequest where
  candidates : List Der
  caAnchors : List Der
  workDir : String := ""
  offline : Bool := false
  ocspSettings : OcspSettings := {}
  validationTime : String := ""

def appendPadesEvidence (pool : List Der) (value : Der) : List Der :=
  if value ≠ [] ∧ value ∉ pool then pool ++ [value] else pool

section Collect

variable {Cert Resp Crl : Type} (S : EvidenceSources Cert Resp Crl) (q : EvidenceRequest)

variable (current issuer : Der)

/-- `OcspValidationInput` for a certificate and its issuer. -/
def ocspInputFor : OcspValidationInput where
  signerCertificateDer := current
  issuerCertificateDer := issuer
  validationTime := q.validationTime
  timeoutMs := q.ocspSettings.timeoutMs
  useNonce := q.ocspSettings.useNonce

variable (crls : List Der) (evidence : PadesValidationEvidence)

def crlInputFor : CrlValidationInput where
  signerCertificateDer := current
  issuerCertificateDer := issuer
  validationTime := q.validationTime
  crlsDer := crls

def heldVerdict (current issuer response : Der) : OcspValidationResult :=
  ocspValidate S.engine.revocation.certs S.engine.revocation.ocsp
    { ocspInputFor q current issuer with responseDer := response }

def crlVerdict : RevocationStatus :=
  (crlValidate S.engine.revocation.certs S.engine.revocation.ocsp S.engine.revocation.crl
    (crlInputFor q current issuer crls)).status

def askResponses (current issuer : Der) : List Der → Bool → Except String Bool
  | [], good => .ok good
  | response :: rest, good =>
    if response = [] then askResponses current issuer rest good
    else
      let ocsp := heldVerdict S q current issuer response
      if ocsp.status = .revoked then
        .error "Сертифікат доказів PAdES-LT відкликано за вбудованим OCSP"
      else askResponses current issuer rest
        (good || (ocsp.status == .good && ocsp.responseDer != []))

def askLists (good : Bool) : Except String Bool :=
  if good = true ∨ crls = [] then .ok good
  else if crlVerdict S q current issuer crls = .revoked then
    .error "Сертифікат доказів PAdES-LT відкликано"
  else .ok (crlVerdict S q current issuer crls == .good)

/-- The address of the responder: that of the certificate, or the configured one. -/
def responderUrl : String :=
  let resolved := S.engine.resolveTsaOcspUrl current issuer q.workDir
  if resolved = "" then q.ocspSettings.url else resolved

def askResponder (good : Bool) : Except String (Bool × PadesValidationEvidence) :=
  let url := responderUrl S q current issuer
  if good = true ∨ q.offline = true ∨ url = "" then .ok (good, evidence)
  else
    let ocsp := ocspValidate S.engine.revocation.certs S.engine.revocation.ocsp
      { ocspInputFor q current issuer with url := url }
    if ocsp.status = .revoked then .error "Сертифікат доказів PAdES-LT відкликано за OCSP"
    else if ocsp.status = .good ∧ ocsp.responseDer ≠ [] then
      .ok (true, { evidence with
        ocspResponses := appendPadesEvidence evidence.ocspResponses ocsp.responseDer })
    else .ok (false, evidence)

/-- The lists of the work directory, after a download if that is allowed. -/
def workDirLists : List Der :=
  if q.offline then S.matchingCrls q.workDir current else S.downloadedMatchingCrls q.workDir current

def askWorkDir (good : Bool) : Except String (Bool × PadesValidationEvidence) :=
  let crls := workDirLists S q current
  if good = true ∨ crls = [] then .ok (good, evidence)
  else if crlVerdict S q current issuer crls = .revoked then
    .error "Сертифікат доказів PAdES-LT відкликано"
  else if crlVerdict S q current issuer crls = .good then
    .ok (true, { evidence with crls := crls.foldl appendPadesEvidence evidence.crls })
  else .ok (false, evidence)

def judgeStep : Except String PadesValidationEvidence := do
  let good ← askResponses S q current issuer evidence.ocspResponses false
  let good ← askLists S q current issuer evidence.crls good
  let (good, evidence) ← askResponder S q current issuer evidence good
  let (good, evidence) ← askWorkDir S q current issuer evidence good
  require (good = true) "Немає підтверджених CRL/OCSP для сертифіката доказів PAdES-LT"
  .ok evidence

def collectLoop : Nat → Bool → Der → List Der → PadesValidationEvidence →
    Except String PadesValidationEvidence
  | 0, _, _, _, _ => .error "Циклічний або надмірно довгий ланцюг доказів PAdES-LT"
  | left + 1, isLeaf, current, visited, evidence =>
    let evidence := { evidence with
      certificateChain := appendPadesEvidence evidence.certificateChain current }
    if current = [] ∨ current ∈ visited then
      .error "Циклічний або надмірно довгий ланцюг доказів PAdES-LT"
    else if isLeaf = false ∧ current ∈ q.caAnchors then .ok evidence
    else
      let issuer := findVerifiedTsaIssuer S.engine current q.candidates
      if issuer = [] then
        .error "Не знайдено криптографічно підтвердженого видавця для доказів PAdES-LT"
      else
        let evidence := { evidence with
          certificateChain := appendPadesEvidence evidence.certificateChain issuer }
        if issuer = current ∧ isLeaf = false then .ok evidence
        else do
          let evidence ← judgeStep S q current issuer evidence
          if issuer = current then .ok evidence
          else collectLoop left false issuer (visited ++ [current]) evidence

def collectPadesCertificateEvidence (certificate : Der) (evidence : PadesValidationEvidence) :
    Except String PadesValidationEvidence := do
  require (q.validationTime = "" ∨ (parseIso8601Time q.validationTime).isSome = true)
    "Некоректний момент перевірки доказів PAdES-LT"
  collectLoop S q 32 true certificate [] evidence

/-! ### One certificate -/

/-- A response for the certificate that is sound at the validation time, with the entry
`status`. -/
def ResponseSays (current issuer response : Der) (status : RevocationStatus) : Prop :=
  ∃ requestDer id embedded,
    buildRequestDer S.engine.revocation.certs S.engine.revocation.ocsp
      (ocspInputFor q current issuer) = .ok (requestDer, id) ∧
    (decodeAndMapResponse S.engine.revocation.certs S.engine.revocation.ocsp
      (ocspInputFor q current issuer) id response embedded).status = status

def ListSays (current issuer crl : Der) (kind : CrlKind) : Prop :=
  kind = crlKind S.engine.revocation.certs S.engine.revocation.crl
    (crlInputFor q current issuer []) crl

def ReportsGood : Prop :=
  (∃ response ∈ evidence.ocspResponses, ResponseSays S q current issuer response .good) ∨
    ∃ crl ∈ evidence.crls, ListSays S q current issuer crl .good

/-- Nothing that was asked reports the certificate as revoked: no response, and no list
unless a response reports it as good. -/
def NotRevokedBy (held : PadesValidationEvidence) : Prop :=
  (∀ response ∈ held.ocspResponses, response ≠ [] →
    (heldVerdict S q current issuer response).status ≠ .revoked) ∧
  ((∃ response ∈ held.ocspResponses, ResponseSays S q current issuer response .good) ∨
    ∀ crl ∈ held.crls, ¬ ListSays S q current issuer crl .revoked)

/-- All of the one is in the other. -/
structure Grows (evidence evidence' : PadesValidationEvidence) : Prop where
  certificateChain : evidence.certificateChain ⊆ evidence'.certificateChain
  crls : evidence.crls ⊆ evidence'.crls
  ocspResponses : evidence.ocspResponses ⊆ evidence'.ocspResponses

variable {S q}

theorem Grows.refl (e : PadesValidationEvidence) : Grows e e :=
  ⟨fun _ h => h, fun _ h => h, fun _ h => h⟩

theorem Grows.trans {a b c : PadesValidationEvidence} (h : Grows a b) (h' : Grows b c) : Grows a c :=
  ⟨fun _ hx => h'.1 (h.1 hx), fun _ hx => h'.2 (h.2 hx), fun _ hx => h'.3 (h.3 hx)⟩

theorem ReportsGood.mono {current issuer : Der} {e e' : PadesValidationEvidence}
    (h : ReportsGood S q current issuer e) (hgrows : Grows e e') :
    ReportsGood S q current issuer e' := by
  rcases h with ⟨response, hmem, hsays⟩ | ⟨crl, hmem, hsays⟩
  · exact Or.inl ⟨response, hgrows.ocspResponses hmem, hsays⟩
  · exact Or.inr ⟨crl, hgrows.crls hmem, hsays⟩

theorem subset_appendPadesEvidence (pool : List Der) (value : Der) :
    pool ⊆ appendPadesEvidence pool value := by
  rw [appendPadesEvidence]
  split
  · exact subset_append_left _ _
  · exact fun _ h => h

theorem mem_appendPadesEvidence {pool : List Der} {value : Der} (h : value ≠ []) :
    value ∈ appendPadesEvidence pool value := by
  rw [appendPadesEvidence]
  split
  · exact mem_append_right _ mem_cons_self
  · next hold =>
    rw [not_and, not_not] at hold
    exact hold h

theorem foldl_appendPadesEvidence {values : List Der} : ∀ pool : List Der,
    pool ⊆ values.foldl appendPadesEvidence pool ∧
      ∀ value ∈ values, value ≠ [] → value ∈ values.foldl appendPadesEvidence pool := by
  induction values with
  | nil => exact fun pool => ⟨fun _ h => h, fun _ h => absurd h not_mem_nil⟩
  | cons v values ih =>
    intro pool
    obtain ⟨hkept, hadded⟩ := ih (appendPadesEvidence pool v)
    exact ⟨fun x hx => hkept (subset_appendPadesEvidence pool v hx),
      forall_mem_cons.mpr ⟨fun hne => hkept (mem_appendPadesEvidence hne), hadded⟩⟩

/-- A definite verdict is that of the response which is returned with it. -/
theorem ocspValidate_answer {X : CertOracle Cert} {O : OcspOracle Cert Resp}
    {input : OcspValidationInput} {status : RevocationStatus}
    (hdefinite : status = .good ∨ status = .revoked)
    (h : (ocspValidate X O input).status = status) :
    ∃ requestDer id embedded, buildRequestDer X O input = .ok (requestDer, id) ∧
      (input.responseDer ≠ [] → (ocspValidate X O input).responseDer = input.responseDer) ∧
      (decodeAndMapResponse X O input id (ocspValidate X O input).responseDer embedded).status =
        status := by
  have hsome : (ocspValidate X O input).status.definite = true := by
    rw [h]
    rcases hdefinite with rfl | rfl <;> rfl
  obtain ⟨requestDer, id, body, embedded, hrequest, hheld, heq⟩ := ocspValidate_eq_mapped hsome
  rw [heq] at h
  have hbody : (ocspValidate X O input).responseDer = body := by
    rw [← h] at hdefinite
    rw [heq]
    exact if_pos hdefinite
  rw [hbody]
  refine ⟨requestDer, id, embedded, hrequest, fun hne => ?_, h⟩
  rw [JudgedBody, if_pos hne] at hheld
  exact hheld.1

variable {current issuer}

theorem askResponses_spec {responses : List Der} : ∀ {good good' : Bool},
    askResponses S q current issuer responses good = .ok good' →
      (∀ response ∈ responses, response ≠ [] →
        (heldVerdict S q current issuer response).status ≠ .revoked) ∧
      (good' = true → good = true ∨
        ∃ response ∈ responses, ResponseSays S q current issuer response .good) := by
  induction responses with
  | nil =>
    intro good good' h
    obtain rfl := Except.ok.inj h
    exact ⟨fun _ h => absurd h not_mem_nil, Or.inl⟩
  | cons response rest ih =>
    intro good good' h
    rw [askResponses] at h
    by_cases hempty : response = []
    · rw [if_pos hempty] at h
      obtain ⟨hnone, hgood⟩ := ih h
      exact ⟨forall_mem_cons.mpr ⟨fun hne => absurd hempty hne, hnone⟩, fun hg =>
        (hgood hg).imp_right fun ⟨r, hr, hs⟩ => ⟨r, mem_cons_of_mem _ hr, hs⟩⟩
    · rw [if_neg hempty] at h
      by_cases hrevoked : (heldVerdict S q current issuer response).status = .revoked
      · rw [if_pos hrevoked] at h
        cases h
      rw [if_neg hrevoked] at h
      obtain ⟨hnone, hgood⟩ := ih h
      refine ⟨forall_mem_cons.mpr ⟨fun _ => hrevoked, hnone⟩, fun hg => ?_⟩
      rcases hgood hg with hbefore | ⟨r, hr, hs⟩
      · rw [Bool.or_eq_true, Bool.and_eq_true, beq_iff_eq] at hbefore
        refine hbefore.imp_right fun hverdict => ⟨response, mem_cons_self, ?_⟩
        obtain ⟨requestDer, id, embedded, hrequest, hheld, hstatus⟩ :=
          ocspValidate_answer (Or.inl rfl) hverdict.1
        rw [hheld hempty] at hstatus
        exact ⟨requestDer, id, embedded, hrequest, hstatus⟩
      · exact Or.inr ⟨r, mem_cons_of_mem _ hr, hs⟩

theorem listSays_good_ne_nil {crl : Der} (h : ListSays S q current issuer crl .good) : crl ≠ [] := by
  obtain ⟨⟨-, -, -, -, -, hne, -⟩, -⟩ := crlKind_eq_good.mp h
  exact hne

theorem crlVerdict_revoked {crls : List Der} (h : crlVerdict S q current issuer crls ≠ .revoked) :
    ∀ crl ∈ crls, ¬ ListSays S q current issuer crl .revoked := by
  intro crl hcrl hsays
  refine h ?_
  rw [crlVerdict, crlValidate_status, if_pos]
  exact ⟨crl, hcrl, hsays⟩

theorem crlVerdict_good {crls : List Der} (h : crlVerdict S q current issuer crls = .good) :
    ∃ crl ∈ crls, ListSays S q current issuer crl .good := by
  rw [crlVerdict, crlValidate_status] at h
  split_ifs at h with hrevoked hgood
  obtain ⟨crl, hcrl, hsays⟩ := hgood
  exact ⟨crl, hcrl, hsays⟩

theorem judgeStep_spec {evidence evidence' : PadesValidationEvidence}
    (h : judgeStep S q current issuer evidence = .ok evidence') :
    Grows evidence evidence' ∧ ReportsGood S q current issuer evidence' ∧
      NotRevokedBy S q current issuer evidence := by
  simp only [judgeStep, bind_eq_ok, Prod.exists, require_eq_ok, Except.ok.injEq] at h
  obtain ⟨held, hresponses, listed, hlists, asked, evidence₁, hresponder, good, evidence₂, hworkDir, -,
    rfl, rfl⟩ := h
  obtain ⟨hnone, hheld⟩ := askResponses_spec hresponses
  have hheld' : held = true →
      ∃ response ∈ evidence.ocspResponses, ResponseSays S q current issuer response .good :=
    fun hg => (hheld hg).resolve_left Bool.false_ne_true
  -- the lists that are there
  obtain ⟨hnotRevoked, hlisted⟩ : NotRevokedBy S q current issuer evidence ∧
      (listed = true → ReportsGood S q current issuer evidence) := by
    rw [askLists] at hlists
    split at hlists
    · next hskip =>
      obtain rfl := Except.ok.inj hlists
      refine ⟨⟨hnone, hskip.imp hheld' fun hnil crl hcrl => ?_⟩, fun hg => Or.inl (hheld' hg)⟩
      rw [hnil] at hcrl
      exact absurd hcrl not_mem_nil
    · split at hlists
      · cases hlists
      · next hrevoked =>
        obtain rfl := Except.ok.inj hlists
        exact ⟨⟨hnone, Or.inr (crlVerdict_revoked hrevoked)⟩,
          fun hg => Or.inr (crlVerdict_good (beq_iff_eq.mp hg))⟩
  -- the responder
  obtain ⟨hgrows₁, hasked⟩ : Grows evidence evidence₁ ∧
      (asked = true → ReportsGood S q current issuer evidence₁) := by
    rw [askResponder] at hresponder
    dsimp only at hresponder
    split at hresponder
    · obtain ⟨rfl, rfl⟩ := Prod.mk.inj (Except.ok.inj hresponder)
      exact ⟨Grows.refl _, hlisted⟩
    split at hresponder
    · cases hresponder
    split at hresponder
    · next hgood =>
      obtain ⟨rfl, rfl⟩ := Prod.mk.inj (Except.ok.inj hresponder)
      refine ⟨⟨fun _ h => h, fun _ h => h, subset_appendPadesEvidence _ _⟩, fun _ => Or.inl ?_⟩
      obtain ⟨requestDer, id, embedded, hrequest, -, hstatus⟩ :=
        ocspValidate_answer (Or.inl rfl) hgood.1
      exact ⟨_, mem_appendPadesEvidence hgood.2, requestDer, id, embedded, hrequest, hstatus⟩
    · obtain ⟨rfl, rfl⟩ := Prod.mk.inj (Except.ok.inj hresponder)
      exact ⟨Grows.refl _, fun h => absurd h Bool.false_ne_true⟩
  -- the work directory
  obtain ⟨hgrows₂, hfound⟩ : Grows evidence₁ evidence₂ ∧
      ReportsGood S q current issuer evidence₂ := by
    rw [askWorkDir] at hworkDir
    split at hworkDir
    · obtain ⟨rfl, rfl⟩ := Prod.mk.inj (Except.ok.inj hworkDir)
      exact ⟨Grows.refl _, hasked rfl⟩
    split at hworkDir
    · cases hworkDir
    split at hworkDir
    · next hgood =>
      obtain ⟨-, rfl⟩ := Prod.mk.inj (Except.ok.inj hworkDir)
      obtain ⟨hkept, hadded⟩ := foldl_appendPadesEvidence evidence₁.crls
      refine ⟨⟨fun _ h => h, hkept, fun _ h => h⟩, Or.inr ?_⟩
      obtain ⟨crl, hcrl, hsays⟩ := crlVerdict_good hgood
      exact ⟨crl, hadded crl hcrl (listSays_good_ne_nil hsays), hsays⟩
    · cases (Prod.mk.inj (Except.ok.inj hworkDir)).1
  exact ⟨hgrows₁.trans hgrows₂, hfound, hnotRevoked⟩

/-! ### The walk -/

variable (S q) in
/-- The issuer is one of the candidates, by its name, and its key verifies the certificate. -/
def Issued (c issuer : Der) : Prop :=
  issuer ∈ q.candidates ∧ ∃ cert, decodeCertificateDer S.engine.revocation.certs c = some cert ∧
    VerifiedTsaIssuer S.engine cert issuer

variable (S q) in
/-- The evidence at the end reports the certificate as good, and nothing that was asked when
its turn came reports it as revoked. -/
structure Judged (before after : PadesValidationEvidence) (c issuer : Der) : Prop where
  good : ReportsGood S q c issuer after
  asked : ∃ held, Grows before held ∧ Grows held after ∧ NotRevokedBy S q c issuer held

/-- A chain in the evidence, to an anchor or a self-signed certificate.  The end of the chain
needs no evidence, unless it is the leaf. -/
inductive EvidencedChain (S : EvidenceSources Cert Resp Crl) (q : EvidenceRequest)
    (before after : PadesValidationEvidence) : Bool → List Der → Prop
  | anchor {c : Der} (hmem : c ∈ after.certificateChain) (hanchor : c ∈ q.caAnchors) :
    EvidencedChain S q before after false [c]
  | root {c : Der} (hmem : c ∈ after.certificateChain) (hissued : Issued S q c c) :
    EvidencedChain S q before after false [c]
  | selfSigned {c : Der} (hmem : c ∈ after.certificateChain) (hissued : Issued S q c c)
    (hjudged : Judged S q before after c c) : EvidencedChain S q before after true [c]
  | link {isLeaf : Bool} {c issuer : Der} {rest : List Der} (hmem : c ∈ after.certificateChain)
    (hissued : Issued S q c issuer) (hjudged : Judged S q before after c issuer)
    (hrest : EvidencedChain S q before after false (issuer :: rest)) :
    EvidencedChain S q before after isLeaf (c :: issuer :: rest)

theorem issued_of_found (h : findVerifiedTsaIssuer S.engine current q.candidates ≠ []) :
    Issued S q current (findVerifiedTsaIssuer S.engine current q.candidates) := by
  obtain ⟨hmem, cert, issuer, hcert, hissuer⟩ := findVerifiedIssuerImpl_spec h
  exact ⟨hmem, cert, hcert, issuer, hissuer⟩

theorem grows_certificate (e : PadesValidationEvidence) (c : Der) :
    Grows e { e with certificateChain := appendPadesEvidence e.certificateChain c } :=
  ⟨subset_appendPadesEvidence _ _, fun _ h => h, fun _ h => h⟩

/-- The walk, by induction on the turns that are left. -/
theorem collectLoop_chain {before after : PadesValidationEvidence} {left : Nat} :
    ∀ {isLeaf : Bool} {current : Der} {visited : List Der} {e : PadesValidationEvidence},
      Grows before e → collectLoop S q left isLeaf current visited e = .ok after →
      Grows e after ∧ ∃ rest, EvidencedChain S q before after isLeaf (current :: rest) ∧
        (current :: rest).Nodup ∧ (∀ c ∈ current :: rest, c ∉ visited) ∧ rest.length < left := by
  induction left with
  | zero =>
    intro isLeaf current visited e hbefore h
    cases h
  | succ left ih =>
    intro isLeaf current visited e hbefore h
    rw [collectLoop] at h
    dsimp only at h
    set e₁ : PadesValidationEvidence :=
      { e with certificateChain := appendPadesEvidence e.certificateChain current } with he₁
    have hgrows₁ : Grows e e₁ := grows_certificate e current
    split at h
    · cases h
    next hnew =>
    rw [not_or] at hnew
    have hmem : current ∈ e₁.certificateChain := mem_appendPadesEvidence hnew.1
    have hsingle : ([current] : List Der).Nodup ∧ (∀ c ∈ [current], c ∉ visited) ∧
        ([] : List Der).length < left + 1 := by
      refine ⟨pairwise_singleton _ _, fun c hc => ?_, Nat.succ_pos _⟩
      rw [mem_singleton.mp hc]
      exact hnew.2
    split at h
    · next hanchor =>
      obtain rfl := Except.ok.inj h
      obtain ⟨rfl, hanchor⟩ := hanchor
      exact ⟨hgrows₁, [], .anchor hmem hanchor, hsingle⟩
    split at h
    · cases h
    next hfound =>
    have hissued := issued_of_found hfound
    set issuer := findVerifiedTsaIssuer S.engine current q.candidates with hissuer
    set e₂ : PadesValidationEvidence :=
      { e₁ with certificateChain := appendPadesEvidence e₁.certificateChain issuer } with he₂
    have hgrows₂ : Grows e e₂ := hgrows₁.trans (grows_certificate e₁ issuer)
    have hmem₂ : current ∈ e₂.certificateChain := subset_appendPadesEvidence _ _ hmem
    split at h
    · next hroot =>
      obtain rfl := Except.ok.inj h
      obtain ⟨hself, rfl⟩ := hroot
      rw [hself] at hissued
      exact ⟨hgrows₂, [], .root hmem₂ hissued, hsingle⟩
    next hnotRoot =>
    obtain ⟨e₃, hjudge, h⟩ := bind_eq_ok.mp h
    obtain ⟨hgrows₃, hgood, hasked⟩ := judgeStep_spec hjudge
    have hheld : Grows before e₂ := hbefore.trans hgrows₂
    split at h
    · next hself =>
      -- only a self-signed leaf comes here
      obtain rfl := Except.ok.inj h
      have hleaf : isLeaf = true := by
        cases isLeaf with
        | true => rfl
        | false => exact absurd ⟨hself, rfl⟩ hnotRoot
      rw [hself] at hissued hgood hasked
      subst hleaf
      exact ⟨hgrows₂.trans hgrows₃, [], .selfSigned (hgrows₃.certificateChain hmem₂) hissued
        ⟨hgood, e₂, hheld, hgrows₃, hasked⟩, hsingle⟩
    · next hself =>
      obtain ⟨hgrows₄, rest, hchain, hnodup, hfresh, hlength⟩ := ih (hheld.trans hgrows₃) h
      have hafter := hgrows₃.trans hgrows₄
      refine ⟨hgrows₂.trans hafter, issuer :: rest, .link (hafter.certificateChain hmem₂) hissued
        ⟨hgood.mono hgrows₄, e₂, hheld, hafter, hasked⟩ hchain, ?_, fun c hc => ?_,
        Nat.succ_lt_succ hlength⟩
      · refine nodup_cons.mpr ⟨fun hagain => ?_, hnodup⟩
        exact hfresh current hagain (mem_append_right _ mem_cons_self)
      · rcases mem_cons.mp hc with rfl | hc
        · exact hnew.2
        · exact fun hvisited => hfresh c hc (mem_append_left _ hvisited)

/-- **What a successful collection has found**: a chain of at most 32 different certificates from
the leaf to an anchor or a self-signed certificate, each issuer verified by name and signature.  For
the leaf, and every other certificate before the end, a response or a list reports it as good at the
validation time; no response that was there when it was judged reports it as revoked, and no list
did unless a response reports it as good. -/
theorem collectPadesCertificateEvidence_chain (S : EvidenceSources Cert Resp Crl)
    (q : EvidenceRequest) (certificate : Der) (before after : PadesValidationEvidence)
    (h : collectPadesCertificateEvidence S q certificate before = .ok after) :
    (q.validationTime = "" ∨ (parseIso8601Time q.validationTime).isSome = true) ∧
      Grows before after ∧ ∃ rest, EvidencedChain S q before after true (certificate :: rest) ∧
        (certificate :: rest).Nodup ∧ (certificate :: rest).length ≤ 32 := by
  simp only [collectPadesCertificateEvidence, bind_eq_ok, require_eq_ok] at h
  obtain ⟨-, htime, hloop⟩ := h
  obtain ⟨hgrows, rest, hchain, hnodup, -, hlength⟩ := collectLoop_chain (Grows.refl _) hloop
  exact ⟨htime, hgrows, rest, hchain, hnodup, hlength⟩

end Collect

/-- A library in which everything is signed by everything, every response is good, and every
list has every serial number. -/
def lenientSources : EvidenceSources Unit Unit Unit where
  engine :=
    { revocation :=
        { certs := ⟨fun _ => some (), fun _ _ => true, fun _ _ => true, fun _ => {}, fun _ => true, 0⟩
          ocsp := ⟨fun _ _ _ => .ok ([], ⟨[], [], []⟩), fun _ => some (), fun _ => some (some 0),
            fun _ => true, fun _ _ _ => .ok, fun _ => true, fun _ _ => true, fun _ => [],
            fun _ => false, fun _ => [⟨[], [], []⟩], fun _ => [("good", 0)], fun _ => "",
            fun _ _ _ => {}⟩
          crl := ⟨fun _ => some (), fun _ _ => true, fun _ => none, fun _ _ => true,
            fun _ _ => .ok true, fun _ _ => none⟩ }
      getSignatureValue := fun _ => .error ""
      extractTimestampToken := fun _ => {}
      validateTimestampToken := fun _ _ _ => {}
      issuerNameMatches := fun _ _ => true
      hasTimestampingEku := fun _ => false
      resolveTsaOcspUrl := fun _ _ _ => ""
      parentPath := id
      loadCrlsFromWorkDir := fun _ => []
      downloadedCrls := fun _ _ => [] }
  matchingCrls _ _ := []
  downloadedMatchingCrls _ _ := []

def mixedEvidence : PadesValidationEvidence where
  crls := [[8]]
  ocspResponses := [[9]]

/-- The chain of a leaf that an anchor has signed. -/
theorem collectPadesCertificateEvidence_anchor :
    ∃ after, collectPadesCertificateEvidence lenientSources
      { candidates := [[2]], caAnchors := [[2]] } [1] mixedEvidence = .ok after ∧
      ∃ rest, EvidencedChain lenientSources { candidates := [[2]], caAnchors := [[2]] } mixedEvidence
        after true ([1] :: rest) := by
  refine ⟨{ mixedEvidence with certificateChain := [[1], [2]] }, by rfl, ?_⟩
  obtain ⟨-, -, rest, hchain, -⟩ := collectPadesCertificateEvidence_chain lenientSources
    { candidates := [[2]], caAnchors := [[2]] } [1] mixedEvidence _ rfl
  exact ⟨rest, hchain⟩

/-- The collection succeeds with a list that reports the leaf as revoked: once a response
reports it as good, the lists are not asked. -/
theorem revoking_list_kept : ∃ after, collectPadesCertificateEvidence lenientSources
      { candidates := [[2]], caAnchors := [[2]] } [1] mixedEvidence = .ok after ∧
    ∃ crl ∈ after.crls, ListSays lenientSources { candidates := [[2]], caAnchors := [[2]] } [1] [2] crl
      .revoked :=
  ⟨{ mixedEvidence with certificateChain := [[1], [2]] }, by rfl, [8], mem_cons_self, by rfl⟩

end Tamga.Pades
