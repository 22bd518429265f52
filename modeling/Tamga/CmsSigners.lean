/-
Every signer of a CMS (`VerifyCms` and `VerifyCmsSignerAt` in `cryptonite/VerifyOps.cpp`),
call by call of the cryptonite library.

`CmsVerification` takes the signers of a decoded CMS as given.  Here they are counted by
the library call that the source uses for it, and every call may fail.  When the count
fails the source goes on with one signer.

* `verifyCms_valid` — what a valid verdict says of the signers that were looked at;
* `every_signer_counts_iff` — all of them are looked at, whatever the other calls do,
  exactly when the count succeeds or there is only one;
* `verifyCms_refines` — with the count, this is the verification of `CmsVerification`.
-/
import Tamga.CmsVerification

namespace Tamga.Cryptonite

open Policy Session List

/-! ### The calls of the library -/

/-- The codes that the calls return; the source tells these apart. -/
inductive Rc
  | ok
  | verifyFailed
  | pkixVerifyFailed
  | sdataWrongContentData
  | sdataWrongExtData
  | sdataVerifyCertV2Failed
  | sdataNoContent
  | sdataNoSigners
  | cinfoNotSignedData
  | noCertificate
  | invalidParam
  | other (code : Nat)
  deriving DecidableEq, Repr

def integrityFailureRcCodes : List Rc :=
  [.verifyFailed, .pkixVerifyFailed, .sdataWrongContentData, .sdataWrongExtData,
    .sdataVerifyCertV2Failed]

/-- What a call returns and the object it hands out, if any. -/
structure Answer (α : Type) where
  rc : Rc
  value : Option α := none

def Answer.get? {α : Type} (a : Answer α) : Option α := if a.rc = .ok then a.value else none

/-- Where `VerifyCms` asks for a signer: for the certificate that represents the
container, in the loop, and for the digest algorithm. -/
inductive CallSite
  | representative
  | signer
  | digest
  deriving DecidableEq, Repr

/-- One behaviour of the library on a `SignedData`.  Calls that are made several times
may answer differently each time. -/
structure CmsCalls (Info SignerId Certs Cert Verifier Digester : Type) where
  /-- `MakeByteArray` for the signature and for the data, and `cinfo_alloc`. -/
  signatureAllocated : Bool := true
  dataAllocated : Bool := true
  contentInfoAllocated : Bool := true
  cinfoDecode : Rc
  cinfoGetSignedData : Answer Unit
  sdataGetCerts : Answer Certs
  sdataGetCertsFor : CallSite → Nat → Answer Certs
  /-- `sdata_get_signer_info_by_idx` for an index that exists. -/
  sdataGetSignerInfoByIdx : CallSite → Nat → Rc
  sinfoGetSignerId : CallSite → Info → Answer SignerId
  /-- `get_cert_by_sid_and_usage`, with the key usage or without. -/
  getCertBySidAndUsage : CallSite → Option SignerId → Bool → Certs → Answer Cert
  verifyAdapterInitByCert : Nat → Cert → Answer Verifier
  digestAdapterInitByAid : Nat → Info → Answer Digester
  digestAdapterInitByCert : Nat → Cert → Answer Digester
  setDigestAlg : Verifier → Info → Verifier
  /-- `sdata_verify_external_data_by_adapter`, and `sdata_verify_internal_data_by_adapter`
  without data, for the signer of the index. -/
  sdataVerifyByAdapter : Option Bytes → Option Verifier → Option Digester → Nat → Rc
  sdataGetData : Answer Bytes
  encodeCertificateDer : Cert → Der
  collectEmbeddedCertificatesDer : Certs → List Der
  /-- `BuildRcError`. -/
  buildRcError : String → Rc → String

variable {Info SignerId Certs Cert Verifier Digester : Type}

section Functions

variable (calls : CmsCalls Info SignerId Certs Cert Verifier Digester) (infos : List Info)

variable (counted : Answer Unit) (site : CallSite) (index : Nat)

/-- `sdata_get_signer_info_by_idx`. -/
def signerInfoAt : Answer Info :=
  match infos[index]? with
  | none => ⟨.invalidParam, none⟩
  | some info =>
    match calls.sdataGetSignerInfoByIdx site index with
    | .ok => ⟨.ok, some info⟩
    | rc => ⟨rc, none⟩

def certificateOf (signerId : Option SignerId) (certs : Certs) : Answer Cert :=
  let found := calls.getCertBySidAndUsage site signerId true certs
  if found.rc ≠ .ok ∨ found.value.isNone then calls.getCertBySidAndUsage site signerId false certs
  else found

def extractSignerCertificate : Answer Cert :=
  let info := signerInfoAt calls infos site index
  match info.get? with
  | none => ⟨info.rc, none⟩
  | some info =>
    let signerId := calls.sinfoGetSignerId site info
    if signerId.rc ≠ .ok then ⟨signerId.rc, none⟩
    else
      let certs := calls.sdataGetCertsFor site index
      match certs.get? with
      | none => ⟨if certs.rc = .ok then .noCertificate else certs.rc, none⟩
      | some certs => certificateOf calls site signerId.value certs

/-- The certificate, or the error that names its resolution. -/
def resolveSignerCertificate : Except String Cert :=
  let found := extractSignerCertificate calls infos site index
  match found.get? with
  | none => .error (calls.buildRcError "signer certificate resolution"
      (if found.rc = .ok then .noCertificate else found.rc))
  | some certificate => .ok certificate

/-- The digest adapter of a signer: by the algorithm it names, or else by the
certificate. -/
def digestAdapterFor (certificate : Cert) (index : Nat) : Answer Digester :=
  let byAid : Answer Digester :=
    match (signerInfoAt calls infos .digest index).get? with
    | some info => calls.digestAdapterInitByAid index info
    | none => ⟨.invalidParam, none⟩
  if byAid.rc ≠ .ok ∨ byAid.value.isNone then calls.digestAdapterInitByCert index certificate
  else byAid

/-- The verify adapter with the digest algorithm of the signer, where both are there. -/
def withDigestAlg (verifier : Option Verifier) (index : Nat) : Option Verifier :=
  match verifier, (signerInfoAt calls infos .digest index).value with
  | some verifier, some info => some (calls.setDigestAlg verifier info)
  | verifier, _ => verifier

variable (external : Option Bytes)

/-- What the code of the verification means: valid, not valid, or an error. -/
def signerVerdict (rc : Rc) : Except String Bool :=
  if rc = .ok then .ok true
  else if rc ∈ integrityFailureRcCodes then .ok false
  else .error (calls.buildRcError
    (if external.isSome then "detached signature verification"
      else "attached signature verification") rc)

/-- `VerifyCmsSignerAt`: whether the signer is valid, and its certificate. -/
def verifyCmsSignerAt (index : Nat) : Except String (Bool × Der) := do
  let certificate ← resolveSignerCertificate calls infos .signer index
  let verifier := calls.verifyAdapterInitByCert index certificate
  require (verifier.rc = .ok) (calls.buildRcError "verify adapter initialization" verifier.rc)
  let digester := digestAdapterFor calls infos certificate index
  require (digester.rc = .ok) (calls.buildRcError "digest adapter initialization" digester.rc)
  let valid ← signerVerdict calls external (calls.sdataVerifyByAdapter external
    (withDigestAlg calls infos verifier.value index) digester.value index)
  .ok (valid, calls.encodeCertificateDer certificate)

/-- The loop of `VerifyCms`: so many signers from the index on. -/
def verifySignersFrom (external : Option Bytes) : Nat → Nat → Except String (List CmsSignerResult)
  | 0, _ => .ok []
  | left + 1, index => do
    let (valid, certificateDer) ← verifyCmsSignerAt calls infos external index
    let results ← verifySignersFrom external left (index + 1)
    .ok (⟨index + 1, valid, certificateDer⟩ :: results)

/-- The number of signers: what `sdata_get_signer_infos` counts, and one where it
fails. -/
def signerTotal : Nat :=
  match counted.get? with
  | some _ => infos.length
  | none => 1

/-- The content of the container, which is read for internal data only. -/
def attachedPayload : Except String Bytes :=
  match external with
  | some _ => .ok []
  | none =>
    if calls.sdataGetData.rc ≠ .ok ∧ calls.sdataGetData.rc ≠ .sdataNoContent then
      .error (calls.buildRcError "attached payload extraction" calls.sdataGetData.rc)
    else .ok (calls.sdataGetData.value.getD [])

/-- What `VerifyCms` leaves in its results. -/
structure CmsOutcome where
  verdict : CmsVerdict := {}
  internalContent : Bytes := []
  deriving DecidableEq, Repr

/-- `VerifyCms` up to the loop: the certificates and the one that represents the
container. -/
def openCms : Except String (List Der × Cert) := do
  require calls.signatureAllocated "Unable to allocate cryptonite ByteArray for signature"
  require calls.contentInfoAllocated "Unable to allocate ContentInfo"
  require (calls.cinfoDecode = .ok) (calls.buildRcError "ContentInfo decoding" calls.cinfoDecode)
  let _ ← orError calls.cinfoGetSignedData.get? (calls.buildRcError "SignedData extraction"
    (if calls.cinfoGetSignedData.rc = .ok then .cinfoNotSignedData else calls.cinfoGetSignedData.rc))
  require (calls.sdataGetCerts.rc = .ok)
    (calls.buildRcError "certificate set extraction" calls.sdataGetCerts.rc)
  let certificate ← resolveSignerCertificate calls infos .representative 0
  require (external.isNone ∨ calls.dataAllocated)
    "Unable to allocate cryptonite ByteArray for detached data"
  .ok ((calls.sdataGetCerts.value.map calls.collectEmbeddedCertificatesDer).getD [], certificate)

/-- `VerifyCms` after the loop.  The content is read when all signers are valid. -/
def concludeCms (embedded : List Der) (certificate : Cert)
    (results : List CmsSignerResult) : Except String CmsOutcome :=
  let verdict := cmsVerdict ⟨[], embedded⟩ (calls.encodeCertificateDer certificate) results
  if verdict.isValid then do
    let content ← attachedPayload calls external
    .ok ⟨verdict, content⟩
  else .ok ⟨verdict, []⟩

/-- `VerifyCms`, given what counting the signers answered.  An error of a signer that has
no text counts as executed. -/
def verifyCms : Except String CmsOutcome := do
  let (embedded, certificate) ← openCms calls infos external
  require (1 ≤ signerTotal infos counted)
    (calls.buildRcError "SignedData has no signers" .sdataNoSigners)
  match verifySignersFrom calls infos external (signerTotal infos counted) 0 with
  | .error e => if e = "" then .ok {} else .error e
  | .ok results => concludeCms calls external embedded certificate results

/-- The library has verified the signer over the data, with the adapters made from its
certificate and its digest algorithm. -/
def Verified (index : Nat) : Prop :=
  ∃ certificate, resolveSignerCertificate calls infos .signer index = .ok certificate ∧
    calls.sdataVerifyByAdapter external
      (withDigestAlg calls infos (calls.verifyAdapterInitByCert index certificate).value index)
      (digestAdapterFor calls infos certificate index).value index = .ok

/-- A valid verdict rests on every signer of the container and lists them in order. -/
def EverySignerCounts : Prop :=
  ∀ outcome, verifyCms calls infos counted external = .ok outcome →
    outcome.verdict.isValid = true →
      (∀ index < infos.length, Verified calls infos external index) ∧
      outcome.verdict.signers.map CmsSignerResult.index = (List.range infos.length).map (· + 1) ∧
      ∀ s ∈ outcome.verdict.signers, s.signatureValid = true

end Functions

/-! ### The signers that are looked at -/

section Sound

variable {calls : CmsCalls Info SignerId Certs Cert Verifier Digester} {infos : List Info}
  {external : Option Bytes} {counted : Answer Unit}

theorem signerVerdict_eq_true {rc : Rc} (h : signerVerdict calls external rc = .ok true) :
    rc = .ok := by
  rw [signerVerdict] at h
  by_contra hrc
  rw [if_neg hrc] at h
  split at h <;> cases h

theorem verified_of_verifyCmsSignerAt {index : Nat} {der : Der}
    (h : verifyCmsSignerAt calls infos external index = .ok (true, der)) :
    Verified calls infos external index := by
  simp only [verifyCmsSignerAt, bind_eq_ok, require_eq_ok, exists_const] at h
  obtain ⟨certificate, hcertificate, -, -, valid, hvalid, hresult⟩ := h
  obtain ⟨rfl, -⟩ := Prod.mk.inj (Except.ok.inj hresult)
  exact ⟨certificate, hcertificate, signerVerdict_eq_true hvalid⟩

theorem verifySignersFrom_results {left : Nat} : ∀ {index : Nat} {results : List CmsSignerResult},
      verifySignersFrom calls infos external left index = .ok results →
        results.map CmsSignerResult.index = (List.range' index left).map (· + 1) ∧
        ∀ s ∈ results, verifyCmsSignerAt calls infos external (s.index - 1) =
          .ok (s.signatureValid, s.certificateDer) := by
  induction left with
  | zero =>
    intro index results h
    obtain rfl := Except.ok.inj h
    exact ⟨rfl, fun _ hs => absurd hs not_mem_nil⟩
  | succ left ih =>
    intro index results h
    simp only [verifySignersFrom, bind_eq_ok, Prod.exists] at h
    obtain ⟨valid, der, hsigner, rest, hrest, hresults⟩ := h
    obtain rfl := Except.ok.inj hresults
    obtain ⟨hindices, hrest⟩ := ih hrest
    refine ⟨?_, forall_mem_cons.mpr ⟨hsigner, hrest⟩⟩
    rw [map_cons, hindices, range'_succ, map_cons]

theorem verifyCms_valid {outcome : CmsOutcome}
    (h : verifyCms calls infos counted external = .ok outcome)
    (hvalid : outcome.verdict.isValid = true) :
    ∃ embedded certificate results, openCms calls infos external = .ok (embedded, certificate) ∧
      verifySignersFrom calls infos external (signerTotal infos counted) 0 = .ok results ∧
      results.all (·.signatureValid) = true ∧
      outcome.verdict =
        cmsVerdict ⟨[], embedded⟩ (calls.encodeCertificateDer certificate) results := by
  simp only [verifyCms, bind_eq_ok, require_eq_ok, exists_const, Prod.exists] at h
  obtain ⟨embedded, certificate, hopen, -, h⟩ := h
  refine ⟨embedded, certificate, ?_⟩
  cases hresults : verifySignersFrom calls infos external (signerTotal infos counted) 0 with
  | error e =>
    rw [hresults] at h
    dsimp only at h
    split at h
    · obtain rfl := Except.ok.inj h
      cases hvalid
    · cases h
  | ok results =>
    rw [hresults] at h
    have hverdict : outcome.verdict =
        cmsVerdict ⟨[], embedded⟩ (calls.encodeCertificateDer certificate) results := by
      simp only [concludeCms] at h
      split at h
      · obtain ⟨content, -, houtcome⟩ := bind_eq_ok.mp h
        rw [← Except.ok.inj houtcome]
      · rw [← Except.ok.inj h]
    refine ⟨results, hopen, rfl, ?_, hverdict⟩
    by_contra hall
    rw [hverdict, cmsVerdict, if_neg hall] at hvalid
    cases hvalid

theorem openCms_certificate {embedded : List Der} {certificate : Cert}
    (h : openCms calls infos external = .ok (embedded, certificate)) :
    resolveSignerCertificate calls infos .representative 0 = .ok certificate := by
  simp only [openCms, bind_eq_ok, require_eq_ok, exists_const] at h
  obtain ⟨-, -, -, -, -, -, found, hfound, -, hresult⟩ := h
  rw [hfound, (Prod.mk.inj (Except.ok.inj hresult)).2]

theorem openCms_nonempty {embedded : List Der} {certificate : Cert}
    (h : openCms calls infos external = .ok (embedded, certificate)) : infos ≠ [] := by
  rintro rfl
  cases openCms_certificate h

theorem everySignerCounts_of_total (h : infos ≠ [] → signerTotal infos counted = infos.length) :
    EverySignerCounts calls infos counted external := by
  intro outcome hcms hvalid
  obtain ⟨embedded, certificate, results, hopen, hloop, hall, hverdict⟩ :=
    verifyCms_valid hcms hvalid
  rw [h (openCms_nonempty hopen)] at hloop
  obtain ⟨hindices, hsigners⟩ := verifySignersFrom_results hloop
  have hlist : outcome.verdict.signers = results := by
    rw [hverdict, cmsVerdict, if_pos hall]
  rw [← range_eq_range'] at hindices
  rw [hlist]
  refine ⟨fun index hindex => ?_, hindices, all_eq_true.mp hall⟩
  have hmem : index + 1 ∈ results.map CmsSignerResult.index := by
    rw [hindices]
    exact mem_map.mpr ⟨index, mem_range.mpr hindex, rfl⟩
  obtain ⟨s, hs, hsindex⟩ := mem_map.mp hmem
  have hsigner := hsigners s hs
  rw [all_eq_true.mp hall s hs, hsindex, Nat.add_sub_cancel] at hsigner
  exact verified_of_verifyCmsSignerAt hsigner

end Sound

/-- A library that finds everything but verifies the first signer only. -/
def firstSignerOnly [Inhabited Certs] [Inhabited Cert] :
    CmsCalls Info SignerId Certs Cert Verifier Digester where
  cinfoDecode := .ok
  cinfoGetSignedData := ⟨.ok, some ()⟩
  sdataGetCerts := ⟨.ok, some default⟩
  sdataGetCertsFor _ _ := ⟨.ok, some default⟩
  sdataGetSignerInfoByIdx _ _ := .ok
  sinfoGetSignerId _ _ := ⟨.ok, none⟩
  getCertBySidAndUsage _ _ _ _ := ⟨.ok, some default⟩
  verifyAdapterInitByCert _ _ := ⟨.ok, none⟩
  digestAdapterInitByAid _ _ := ⟨.ok, none⟩
  digestAdapterInitByCert _ _ := ⟨.ok, none⟩
  setDigestAlg verifier _ := verifier
  sdataVerifyByAdapter _ _ _ index := if index = 0 then .ok else .verifyFailed
  sdataGetData := ⟨.ok, none⟩
  encodeCertificateDer _ := []
  collectEmbeddedCertificatesDer _ := []
  buildRcError stage _ := stage

theorem verifyCms_firstSignerOnly [Inhabited Certs] [Inhabited Cert] {infos : List Info}
    {counted : Answer Unit} (hne : infos ≠ []) (hcount : counted.get? = none)
    (external : Option Bytes) :
    ∃ outcome, verifyCms
      (firstSignerOnly : CmsCalls Info SignerId Certs Cert Verifier Digester) infos counted
        external = .ok outcome ∧ outcome.verdict.isValid = true ∧
      outcome.verdict.signers.map CmsSignerResult.index = [1] := by
  obtain ⟨info, rest, rfl⟩ := exists_cons_of_ne_nil hne
  have htotal : signerTotal (info :: rest) counted = 1 := by rw [signerTotal, hcount]
  rw [verifyCms, htotal]
  cases external with
  | none | some data => exact ⟨_, rfl, rfl, rfl⟩

/-- **Every signer counts, whatever the other calls of the library answer, exactly when
counting the signers succeeds or there is at most one.** -/
theorem every_signer_counts_iff [Inhabited Certs] [Inhabited Cert] (infos : List Info)
    (counted : Answer Unit) (external : Option Bytes) :
    (∀ calls : CmsCalls Info SignerId Certs Cert Verifier Digester,
      EverySignerCounts calls infos counted external) ↔
    counted.get?.isSome = true ∨ infos.length ≤ 1 := by
  constructor
  · intro h
    by_contra hcond
    obtain ⟨hcount, hlen⟩ := not_or.mp hcond
    rw [Bool.not_eq_true, Option.isSome_eq_false_iff, Option.isNone_iff_eq_none] at hcount
    have hne : infos ≠ [] := by
      rintro rfl
      exact hlen (Nat.zero_le _)
    obtain ⟨outcome, hcms, hvalid, hindices⟩ := @verifyCms_firstSignerOnly Info SignerId Certs Cert
      Verifier Digester _ _ infos counted hne hcount external
    -- one signer is listed, but there are two at least
    have hlist := congrArg List.length (h _ outcome hcms hvalid).2.1
    rw [hindices, length_map, length_range] at hlist
    exact hlen hlist.ge
  · intro hcond calls
    refine everySignerCounts_of_total fun hne => ?_
    rw [signerTotal]
    rcases hcond with hcount | hlen
    · obtain ⟨u, hu⟩ := Option.isSome_iff_exists.mp hcount
      rw [hu]
    · have hpos := length_pos_of_ne_nil hne
      cases counted.get? with
      | none => exact Nat.le_antisymm hpos hlen
      | some u => rfl

/-- Two signers, the second of them not valid: when the count fails, the container is
reported as valid with one signer. -/
theorem second_signer_skipped :
    verifyCms (firstSignerOnly : CmsCalls Nat Unit Unit Unit Unit Unit) [0, 1] ⟨.other 7, none⟩
        (some [1, 2, 3]) =
      .ok ⟨⟨true, true, [], [], 1, 1, [⟨1, true, []⟩]⟩, []⟩ ∧
    verifyCmsSignerAt (firstSignerOnly : CmsCalls Nat Unit Unit Unit Unit Unit) [0, 1]
      (some [1, 2, 3]) 1 = .ok (false, []) :=
  ⟨rfl, rfl⟩

/-! ### The verification of `CmsVerification` -/

section Refinement

variable (calls : CmsCalls Info SignerId Certs Cert Verifier Digester) (infos : List Info)

def signerCertificateDer (index : Nat) : Option Der :=
  (resolveSignerCertificate calls infos .signer index).toOption.map calls.encodeCertificateDer

/-- The check of a signer after its certificate was found. -/
def signerCheck (external : Option Bytes) (index : Nat) : Except String Bool := do
  let (valid, _) ← verifyCmsSignerAt calls infos external index
  .ok valid

/-- The library of `CmsVerification` that such calls make up. -/
def library (signingTime : Bytes → Option String) : CmsLibrary where
  decode _ := do
    let (embedded, _) ← openCms calls infos (some [])
    .ok ⟨(List.range infos.length).map (signerCertificateDer calls infos), embedded⟩
  verifySigner data _ index := signerCheck calls infos (some data) index
  rcError stage := calls.buildRcError stage .noCertificate
  extractSigningTime := signingTime

variable {calls infos}

theorem verifyCmsSignerAt_certificate {external : Option Bytes} {index : Nat} {valid : Bool}
    {der : Der} (h : verifyCmsSignerAt calls infos external index = .ok (valid, der)) :
    signerCertificateDer calls infos index = some der := by
  simp only [verifyCmsSignerAt, bind_eq_ok, require_eq_ok, exists_const] at h
  obtain ⟨certificate, hcertificate, -, -, _, -, hresult⟩ := h
  rw [signerCertificateDer, hcertificate, ← (Prod.mk.inj (Except.ok.inj hresult)).2]
  rfl

variable {signingTime : Bytes → Option String} {data signature : Bytes}

theorem verifyCmsSignerAt_library {index : Nat} {result : CmsSignerResult} :
    Session.verifyCmsSignerAt (library calls infos signingTime) data signature
      (signerCertificateDer calls infos index) index = .ok result ↔
    ∃ valid der, verifyCmsSignerAt calls infos (some data) index = .ok (valid, der) ∧
      .ok ⟨index + 1, valid, der⟩ = (.ok result : Except String CmsSignerResult) := by
  simp only [Session.verifyCmsSignerAt, library, signerCheck, bind_eq_ok, orError_eq_ok,
    Prod.exists, Except.ok.injEq]
  constructor
  · rintro ⟨der, hder, _, ⟨valid, der', hsigner, rfl⟩, rfl⟩
    rw [verifyCmsSignerAt_certificate hsigner, Option.some.injEq] at hder
    rw [hder] at hsigner
    exact ⟨valid, der, hsigner, rfl⟩
  · rintro ⟨valid, der, hsigner, rfl⟩
    exact ⟨der, verifyCmsSignerAt_certificate hsigner, valid, ⟨valid, der, hsigner, rfl⟩, rfl⟩

theorem verifySigners_library {left : Nat} : ∀ {index : Nat} {results : List CmsSignerResult},
      verifySigners (library calls infos signingTime) data signature
          ((List.range' index left).map (signerCertificateDer calls infos)) index = .ok results ↔
        verifySignersFrom calls infos (some data) left index = .ok results := by
  induction left with
  | zero => exact Iff.rfl
  | succ left ih =>
    intro index results
    rw [range'_succ, map_cons, verifySigners, verifySignersFrom]
    simp only [bind_eq_ok, verifyCmsSignerAt_library, ih, Prod.exists]
    constructor
    · rintro ⟨result, ⟨valid, der, hsigner, hresult⟩, rest, hrest, hresults⟩
      obtain rfl := Except.ok.inj hresult
      exact ⟨valid, der, hsigner, rest, hrest, hresults⟩
    · rintro ⟨valid, der, hsigner, rest, hrest, hresults⟩
      exact ⟨_, ⟨valid, der, hsigner, rfl⟩, rest, hrest, hresults⟩

/-- When the signers are counted, and the certificate that represents the container is
that of its first signer, a valid verdict on detached data is one of `CmsVerification`. -/
theorem verifyCms_refines
    {counted : Answer Unit} {outcome : CmsOutcome} (hcount : counted.get?.isSome = true)
    (hfirst : resolveSignerCertificate calls infos .representative 0 =
      resolveSignerCertificate calls infos .signer 0)
    (h : verifyCms calls infos counted (some data) = .ok outcome)
    (hvalid : outcome.verdict.isValid = true) :
    Session.verifyCms (library calls infos signingTime) data signature = .ok outcome.verdict := by
  obtain ⟨embedded, certificate, results, hopen, hloop, -, hverdict⟩ := verifyCms_valid h hvalid
  obtain ⟨u, hu⟩ := Option.isSome_iff_exists.mp hcount
  have htotal : signerTotal infos counted = infos.length := by rw [signerTotal, hu]
  have hdecode : (library calls infos signingTime).decode signature =
      .ok ⟨(List.range infos.length).map (signerCertificateDer calls infos), embedded⟩ :=
    bind_eq_ok.mpr ⟨(embedded, certificate), hopen, rfl⟩
  have hhead : ((List.range infos.length).map (signerCertificateDer calls infos)).head?.join =
      some (calls.encodeCertificateDer certificate) := by
    obtain ⟨n, hn⟩ := Nat.exists_eq_succ_of_ne_zero
      (Nat.ne_of_gt (length_pos_of_ne_nil (openCms_nonempty hopen)))
    rw [hn, range_eq_range', range'_succ, map_cons, List.head?_cons,
      Option.join_some, signerCertificateDer, ← hfirst, openCms_certificate hopen]
    rfl
  rw [htotal] at hloop
  have hsame : verifySigners (library calls infos signingTime) data signature
      ((List.range infos.length).map (signerCertificateDer calls infos)) 0 = .ok results := by
    rw [range_eq_range']
    exact verifySigners_library.mpr hloop
  refine bind_eq_ok.mpr ⟨_, hdecode, bind_eq_ok.mpr ⟨_, orError_eq_ok.mpr hhead, ?_⟩⟩
  rw [hsame, hverdict]
  rfl

end Refinement

/-- A library with two signers, the numbers 3 and 4, that are their own certificates.  The
certificate of 3 is found without the key usage only. -/
def numberedSigners : CmsCalls Nat Nat (List Nat) Nat Nat Unit :=
  { (firstSignerOnly : CmsCalls Nat Nat (List Nat) Nat Nat Unit) with
    sdataGetCerts := ⟨.ok, some [3, 4]⟩
    sdataGetCertsFor := fun _ _ => ⟨.ok, some [3, 4]⟩
    sinfoGetSignerId := fun _ info => ⟨.ok, some info⟩
    getCertBySidAndUsage := fun _ signerId usage certs =>
      ⟨.ok, certs.find? fun c => signerId == some c && (!usage || c == 4)⟩
    verifyAdapterInitByCert := fun _ certificate => ⟨.ok, some certificate⟩
    sdataVerifyByAdapter := fun external verifier _ index =>
      if external = some [1] ∧ verifier = some (index + 3) then .ok else .verifyFailed
    encodeCertificateDer := fun c => [UInt8.ofNat c]
    collectEmbeddedCertificatesDer := fun certs => certs.map fun c => [UInt8.ofNat c] }

theorem verifyCms_refines_two : ∃ outcome,
    verifyCms numberedSigners [3, 4] ⟨.ok, some ()⟩ (some [1]) = .ok outcome ∧
    outcome.verdict.isValid = true ∧
    outcome.verdict.signers = [⟨1, true, [3]⟩, ⟨2, true, [4]⟩] ∧
    Session.verifyCms (library numberedSigners [3, 4] fun _ => none) [1] [2] =
      .ok outcome.verdict :=
  have hcount : (⟨.ok, some ()⟩ : Answer Unit).get?.isSome = true := rfl
  ⟨_, rfl, rfl, rfl, verifyCms_refines hcount rfl rfl rfl⟩

end Tamga.Cryptonite
