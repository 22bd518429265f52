/-
`VerifyTlXmlSignature`: the signature check on a downloaded trust list.

The check compares the certificate of `ds:KeyInfo` with the pinned one and then
asks `XmlSignatureVerifier` whether the signature value is valid.  It never looks
at the verifier's other verdict, the digests of the references, and it looks for
"the" certificate by a search of its own.

* `verifyTlXmlSignature_succeeded_iff` — what success amounts to: the pin, and the
  signature value over `ds:SignedInfo`;
* `trust_root_integrity_iff` — under every pin and key success protects what is read from the
  list, exactly if the verdict that is not looked at is good and the references name what is read;
  two such lists with the same references then have the same contents;
* `tampered_trust_list_accepted` — a list with exchanged services is accepted;
* `pinned_key_verifies_iff` — under every pin and key success is success of the pinned key,
  exactly if the two searches end at the same certificate;
* `pin_checked_on_another_certificate` — they need not.
-/
import Tamga.SignedElements
import Tamga.TrustListParser

namespace Tamga.Policy

open OrderedTree Util Xml XmlDsig

/-! ### The check -/

/-- The `X509Certificate` element `ExtractFirstX509CertDer` looks at: the first one
of the first `KeyInfo` of the first `Signature` below the root, in any namespace. -/
def keyInfoCertificate (doc : XmlDocument) : Option XmlNode :=
  match doc.rootNode with
  | none => none
  | some root =>
    match findFirstElement (firstChild root) "Signature" with
    | none => none
    | some signature =>
      match findFirstElementInSubtree signature "KeyInfo" with
      | none => none
      | some keyInfo => findFirstElementInSubtree keyInfo "X509Certificate"

def extractFirstX509CertDer (lib : LibXml2) (xml : String) : Der :=
  match parseHardened lib xml with
  | .error _ => []
  | .ok doc =>
    match keyInfoCertificate doc with
    | none => []
    | some n =>
      let decoded := base64Decode (withoutSpaces (nodeContent n))
      if decoded.ok then decoded.bytes else []

structure TlXmlSigCheckResult where
  succeeded : Bool := false
  notSupported : Bool := false
  error : String := ""
  deriving DecidableEq, Repr

/-- The cryptographic part of `VerifyTlXmlSignature`. -/
def cryptographicCheck (env : XmlEnv) (xml : String) : TlXmlSigCheckResult :=
  match verify env xml [] with
  | .error e => { error := if e = "" then "TL XML signature verification error" else e }
  | .ok r =>
    if ¬r.signatureValid then
      { notSupported := r.signatureAlgorithmUnsupported
        error := if r.signatureValueError = "" then "TL XML signature is not valid"
          else r.signatureValueError }
    else { succeeded := true }

def verifyTlXmlSignature (env : XmlEnv) (xml : String) (pinnedCertDer : Der) :
    TlXmlSigCheckResult :=
  if xml = "" then { error := "TL XML is empty" }
  else if pinnedCertDer ≠ [] then
    let embedded := extractFirstX509CertDer env.lib xml
    if embedded = [] then { error := "ds:KeyInfo/X509Certificate not found in TL XML" }
    else if embedded ≠ pinnedCertDer then
      { error := "TL XML signer certificate does not match the pinned certificate" }
    else cryptographicCheck env xml
  else cryptographicCheck env xml

/-- The pin, if there is one, is the certificate found in `ds:KeyInfo`. -/
def PinMatches (lib : LibXml2) (xml : String) (pinnedCertDer : Der) : Prop :=
  pinnedCertDer ≠ [] → extractFirstX509CertDer lib xml = pinnedCertDer

variable {env : XmlEnv} {xml : String} {doc : XmlDocument}

theorem cryptographicCheck_succeeded : (cryptographicCheck env xml).succeeded = true ↔
      ∃ r, verify env xml [] = .ok r ∧ r.signatureValid = true := by
  rw [cryptographicCheck]
  cases hverify : verify env xml [] with
  | error e => simp
  | ok r => cases hvalid : r.signatureValid <;> simp [hvalid]

/-- **Success of the trust-list check** is the pin and a valid signature value.
The digests of the references have no part in it. -/
theorem verifyTlXmlSignature_succeeded_iff {pinnedCertDer : Der} :
    (verifyTlXmlSignature env xml pinnedCertDer).succeeded = true ↔
      PinMatches env.lib xml pinnedCertDer ∧
        ∃ doc signatureNode refs, SignatureParts env.lib xml doc signatureNode refs ∧
          (embeddedCertificate signatureNode).bytes ≠ [] ∧
          SignatureVerifies env doc signatureNode 1 (embeddedCertificate signatureNode).bytes := by
  rw [← verify_signatureValid_iff, ← cryptographicCheck_succeeded, verifyTlXmlSignature, PinMatches]
  by_cases hxml : xml = ""
  · subst hxml
    refine iff_of_false Bool.false_ne_true fun h => ?_
    -- an empty text does not parse, so there is no verification either
    obtain ⟨r, hr, -⟩ := cryptographicCheck_succeeded.mp h.2
    obtain ⟨doc, -, hdoc, -⟩ := verify_ok_iff.mp hr
    cases hdoc
  · rw [if_neg hxml]
    by_cases hpin : pinnedCertDer = []
    · rw [if_neg (not_not_intro hpin)]
      exact ⟨fun h => ⟨fun hne => absurd hpin hne, h⟩, And.right⟩
    rw [if_pos hpin]
    dsimp only
    split
    · next hempty =>
      refine iff_of_false Bool.false_ne_true fun h => hpin ?_
      rw [← h.1 hpin, hempty]
    · split
      · next hne => exact iff_of_false Bool.false_ne_true fun h => hne (h.1 hpin)
      · next heq => exact ⟨fun h => ⟨fun _ => not_not.mp heq, h⟩, And.right⟩

/-! ### What a successful check protects -/

variable (env doc) in
/-- The signature value can be checked: there is a certificate, and everything that the check needs
can be read and computed. -/
def Checkable (signatureNode : XmlNode) : Prop :=
  (embeddedCertificate signatureNode).bytes ≠ [] ∧
    ∃ call, signatureCall env doc signatureNode 1 (embeddedCertificate signatureNode).bytes = .ok call

/-- `TrustListParser` reads from the element. -/
def ReadFrom (doc : XmlDocument) (e : XmlNode) : Prop :=
  ∃ root, doc.rootNode = some root ∧
    ∃ name ∈ TrustList.readNames, ∃ n ∈ TrustList.elementsNamed root name, e ∈ n.preorder

/-- Everything that is read is under some reference, but for the certificate whose key verified the
signature value. -/
def CoversTrustList (doc : XmlDocument) (signatureNode : XmlNode) (refs : List XmlReference) : Prop :=
  ∀ e, ReadFrom doc e → findFirstDsigElementInSubtree signatureNode "X509Certificate" = some e ∨
    ∃ ref ∈ refs, ReferenceCovers doc ref e

/-- The signature value verifies over the canonical form of the `ds:SignedInfo` of
the signature, under the key of the embedded certificate. -/
def SignedInfoVerifies (env : XmlEnv) (doc : XmlDocument) (signatureNode : XmlNode) : Prop :=
  ∃ signedInfo octets call,
    findFirstElementInSubtree signatureNode "SignedInfo" = some signedInfo ∧
    signatureCall env doc signatureNode 1 (embeddedCertificate signatureNode).bytes = .ok call ∧
    env.lib.c14nSubtrees doc [signedInfo] call.mode call.withComments = some octets ∧
    call.signedInfo = textBytes octets ∧
    (call.check env.crypto).executed = true ∧ (call.check env.crypto).valid = true

/-- After a successful check the signature value verifies, every reference resolves to octets with
the stated digest, and the references cover what is read from the list. -/
def TrustRootIntegrity (env : XmlEnv) (xml : String) (pinnedCertDer : Der) : Prop :=
  (verifyTlXmlSignature env xml pinnedCertDer).succeeded = true →
    ∃ doc signatureNode refs, SignatureParts env.lib xml doc signatureNode refs ∧
      SignedInfoVerifies env doc signatureNode ∧
      (∀ ref ∈ refs,
        ReferenceVerified env doc [] (embeddedCertificate signatureNode).bytes ref) ∧
      CoversTrustList doc signatureNode refs

/-- The list names what is read from it: an element of it stands below the root for an empty URI,
or below an element with the Id that the URI gives, and is not removed with the signature. -/
def NamesTrustList (doc : XmlDocument) (signatureNode : XmlNode) (refs : List XmlReference) : Prop :=
  ∀ e, ReadFrom doc e → findFirstDsigElementInSubtree signatureNode "X509Certificate" = some e ∨
    ∃ ref ∈ refs, DigestsMarkup ref ∧ ∃ holder ∈ doc.elements, KeptBelow ref holder e ∧
      ((ref.uri = "" ∧ doc.rootNode = some holder) ∨ ReferenceNames doc ref holder)

/-- The condition on the list and the digests alone: if the signature value can be checked at all,
the verifier reports the digests as valid, and the references name what is read. -/
def ListProtected (env : XmlEnv) (xml : String) : Prop :=
  ∀ doc signatureNode refs, SignatureParts env.lib xml doc signatureNode refs →
    Checkable env doc signatureNode →
    (∀ r, verify env xml [] = .ok r → r.digestValid = true) ∧
      NamesTrustList doc signatureNode refs

/-- The same digests with other checks of signature values. -/
def withVerifiers (env : XmlEnv)
    (verifyRsaPkcs1 : Der → RsaHashAlg → Bytes → Bytes → SignatureCheck)
    (verifyHash : Der → Bytes → Bytes → SignatureCheck) : XmlEnv :=
  { env with crypto := { env.crypto with verifyRsaPkcs1, verifyHash } }

theorem referenceVerified_withVerifiers {rsa : Der → RsaHashAlg → Bytes → Bytes → SignatureCheck}
    {hash : Der → Bytes → Bytes → SignatureCheck} {external : List (String × Bytes)} {cert : Der}
    {ref : XmlReference} : ReferenceVerified (withVerifiers env rsa hash) doc external cert ref ↔
      ReferenceVerified env doc external cert ref := by
  simp only [ReferenceVerified, withVerifiers, XmlCrypto.computeDigestByCertificate,
    XmlCrypto.computeImprintByCertificate]

theorem checkable_withVerifiers {rsa : Der → RsaHashAlg → Bytes → Bytes → SignatureCheck}
    {hash : Der → Bytes → Bytes → SignatureCheck} {n : XmlNode} :
    Checkable (withVerifiers env rsa hash) doc n ↔ Checkable env doc n := by
  simp only [Checkable, signatureCall, withVerifiers, signedInfoHash,
    XmlCrypto.computeImprintByCertificate]

/-- Every signature value is accepted. -/
def accepted : SignatureCheck := ⟨true, true, ""⟩

theorem check_accepted {crypto : XmlCrypto} (call : SignatureCall)
    (hrsa : crypto.verifyRsaPkcs1 = fun _ _ _ _ => accepted)
    (hhash : crypto.verifyHash = fun _ _ _ => accepted) : call.check crypto = accepted := by
  rw [SignatureCall.check, hrsa, hhash]
  cases mapRsaSignatureMethod call.signatureMethod <;> rfl

section Parts

variable {signatureNode : XmlNode} {refs : List XmlReference}

theorem signedInfoVerifies_of_signatureVerifies
    (hsingle : SingleSignature doc signatureNode)
    (h : SignatureVerifies env doc signatureNode 1 (embeddedCertificate signatureNode).bytes) :
    SignedInfoVerifies env doc signatureNode := by
  obtain ⟨call, hcall, hcheck⟩ := h
  obtain ⟨signedInfo, octets, hsi, hoctets, hbytes⟩ := hsingle.signedInfo_octets hcall
  exact ⟨signedInfo, octets, call, hsi, hcall, hoctets, hbytes, hcheck⟩

/-- The verdict on the digests, of a signature that can be checked. -/
theorem digestValid_iff (hparts : SignatureParts env.lib xml doc signatureNode refs)
    (hcheckable : Checkable env doc signatureNode) :
    (∀ r, verify env xml [] = .ok r → r.digestValid = true) ↔
      ∀ ref ∈ refs, ReferenceVerified env doc [] (embeddedCertificate signatureNode).bytes ref := by
  obtain ⟨hcert, call, hcall⟩ := hcheckable
  have hr := @verifySignatureAtPosition_of_call _ _ [] _ _ _ _ hparts.references hcert hcall
  obtain ⟨refs', hrefs', hdigest, -⟩ := verifySignatureAtPosition_ok hr
  obtain rfl := Except.ok.inj (hparts.references.symm.trans hrefs')
  have hverify := verify_ok_iff.mpr ⟨doc, signatureNode, hparts.parse, hparts.single, hr⟩
  rw [← hdigest]
  refine ⟨fun h => h _ hverify, fun hvalid r' hr' => ?_⟩
  rw [← Except.ok.inj (hverify.symm.trans hr')]
  exact hvalid

theorem namesTrustList_iff
    (hverified : ∀ ref ∈ refs,
      ReferenceVerified env doc [] (embeddedCertificate signatureNode).bytes ref) :
    NamesTrustList doc signatureNode refs ↔ CoversTrustList doc signatureNode refs := by
  refine forall₂_congr fun e _ => or_congr_right (exists_congr fun ref => and_congr_right fun href =>
    and_congr_right fun _ => exists_congr fun holder => ?_)
  constructor
  · rintro ⟨hholder, hkept, hnames⟩
    rw [← preorder_root] at hholder
    exact ⟨(mem_digestedElements_iff (hverified ref href) hholder).mpr hnames, hkept⟩
  · rintro ⟨hdigested, hkept⟩
    have hholder := mem_elements_of_digested hdigested
    refine ⟨hholder, hkept, ?_⟩
    rw [← preorder_root] at hholder
    exact (mem_digestedElements_iff (hverified ref href) hholder).mp hdigested

/-- An accepted list whose condition holds is protected. -/
theorem ListProtected.integrity {pinnedCertDer : Der} (h : ListProtected env xml) :
    TrustRootIntegrity env xml pinnedCertDer := by
  intro hok
  obtain ⟨-, doc, n, refs, hparts, hcert, hsig⟩ := verifyTlXmlSignature_succeeded_iff.mp hok
  have hcheckable : Checkable env doc n := ⟨hcert, hsig.choose, hsig.choose_spec.1⟩
  obtain ⟨hdigests, hnames⟩ := h doc n refs hparts hcheckable
  have hverified := (digestValid_iff hparts hcheckable).mp hdigests
  exact ⟨doc, n, refs, hparts, signedInfoVerifies_of_signatureVerifies hparts.single hsig, hverified,
    (namesTrustList_iff hverified).mp hnames⟩

end Parts

/-- **Integrity of the trust root.**  Under every pin and for every outcome of the signature check,
success protects what is read from the list exactly if the digests are reported valid and the
references name what is read.  Two such lists with the same references and signer have the same
content at every reference. -/
theorem trust_root_integrity_iff (env : XmlEnv) (xml : String) :
    ((∀ verifyRsaPkcs1 verifyHash pinnedCertDer,
        TrustRootIntegrity (withVerifiers env verifyRsaPkcs1 verifyHash) xml pinnedCertDer) ↔
      ListProtected env xml) ∧
    (env.crypto.CollisionFree → ∀ xml' pinnedCertDer pinnedCertDer',
      ListProtected env xml → ListProtected env xml' →
      (verifyTlXmlSignature env xml pinnedCertDer).succeeded = true →
      (verifyTlXmlSignature env xml' pinnedCertDer').succeeded = true →
      ∀ doc doc' n n' refs, SignatureParts env.lib xml doc n refs →
        SignatureParts env.lib xml' doc' n' refs →
        (embeddedCertificate n).bytes = (embeddedCertificate n').bytes →
        ∀ ref ∈ refs, SameSignedContent env.lib doc ref doc' [] []) := by
  refine ⟨⟨fun h doc n refs hparts hcheckable => ?_, fun h rsa hash pin => ?_⟩, ?_⟩
  · -- without a pin, and where every value is accepted, the check succeeds
    let env' := withVerifiers env (fun _ _ _ _ => accepted) fun _ _ _ => accepted
    obtain ⟨hcert, call, hcall⟩ : Checkable env' doc n := checkable_withVerifiers.mpr hcheckable
    have hcheck : call.check env'.crypto = accepted := check_accepted call rfl rfl
    have hok : (verifyTlXmlSignature env' xml []).succeeded = true :=
      verifyTlXmlSignature_succeeded_iff.mpr ⟨fun hne => absurd rfl hne, doc, n, refs, hparts, hcert,
        call, hcall, by rw [hcheck]; exact ⟨rfl, rfl⟩⟩
    obtain ⟨_, _, _, hp, -, hverified, hcovers⟩ := h _ _ [] hok
    obtain ⟨rfl, rfl, rfl⟩ := hparts.unique hp
    have hverified' : ∀ ref ∈ refs, ReferenceVerified env doc [] (embeddedCertificate n).bytes ref :=
      fun ref href => referenceVerified_withVerifiers.mp (hverified ref href)
    exact ⟨(digestValid_iff hparts hcheckable).mpr hverified',
      (namesTrustList_iff hverified').mpr hcovers⟩
  · -- neither the digests nor the references depend on the checks
    refine ListProtected.integrity fun doc n refs hparts hcheckable => ?_
    have hparts' : SignatureParts env.lib xml doc n refs := hparts
    have hcheckable' := checkable_withVerifiers.mp hcheckable
    obtain ⟨hdigests, hnames⟩ := h doc n refs hparts' hcheckable'
    have hverified := (digestValid_iff hparts' hcheckable').mp hdigests
    exact ⟨(digestValid_iff hparts hcheckable).mpr fun ref href =>
      referenceVerified_withVerifiers.mpr (hverified ref href), hnames⟩
  · intro hfree xml' pin pin' hlist hlist' hok hok' doc doc' n n' refs hparts hparts' hcert ref href
    obtain ⟨_, _, _, hp, -, hverified, -⟩ := hlist.integrity hok
    obtain ⟨rfl, rfl, rfl⟩ := hparts.unique hp
    obtain ⟨_, _, _, hp', -, hverified', -⟩ := hlist'.integrity hok'
    obtain ⟨rfl, rfl, rfl⟩ := hparts'.unique hp'
    have hsecond := hverified' ref href
    rw [← hcert] at hsecond
    exact sameSignedContent hfree (hverified ref href) hsecond

/-- A trust list that names one provider, signed over its whole content when the
provider was `A`.  The signature holds `objects` before its `ds:KeyInfo`. -/
def exampleTrustList (objects : List XmlTree) (provider : String) : XmlDocument where
  nodes := [elementTree none "TrustServiceStatusList" []
    [elementTree none "TrustServiceProvider" [] [.leaf (.text provider)],
      dsElement "Signature" [] ([
        dsElement "SignedInfo" []
          [dsElement "SignatureMethod"
              [("Algorithm", "http://www.w3.org/2001/04/xmldsig-more#rsa-sha256")] [],
            dsElement "Reference" [("URI", "")]
              [dsElement "Transforms" [] [dsElement "Transform" [("Algorithm", envelopedTransform)] []],
                dsElement "DigestMethod" [("Algorithm", "http://www.w3.org/2001/04/xmlenc#sha256")] [],
                dsText "DigestValue" "QQ=="]],
        dsText "SignatureValue" "AQ=="] ++ objects ++
        [dsElement "KeyInfo" [] [dsText "X509Certificate" "Ag=="]])]]

def providerOf (doc : XmlDocument) : Option String :=
  (findFirstElement doc.root "TrustServiceProvider").map nodeContent

/-- A trust list is written as the name of its provider, and its digest is that
name; the key of the certificate `signer` signed the one `ds:SignedInfo`. -/
def exampleTrustListEnv (objects : List XmlTree) (signer : Der) : XmlEnv where
  lib :=
    { readMemory := fun xml => some (exampleTrustList objects xml)
      serializeNode := fun doc _ => (providerOf doc).getD ""
      c14nSubtrees := fun _ _ _ _ => some "SignedInfo"
      c14nDocument := fun doc _ _ => providerOf doc }
  crypto :=
    { computeImprint := fun _ data => .ok data
      certificateImprint := fun _ data => .ok data
      verifyRsaPkcs1 := fun cert _ hash signature =>
        ⟨true, cert == signer && hash == textBytes "SignedInfo" && signature == [1], ""⟩
      verifyHash := fun _ _ _ => ⟨true, false, ""⟩ }

def exampleTrustListReference : XmlReference where
  id := ""
  uri := ""
  type := ""
  emitTypeAttribute := false
  transforms := [envelopedTransform]
  digestMethod := "http://www.w3.org/2001/04/xmlenc#sha256"
  digestValueBase64 := "QQ=="

/-- The list signed for provider `A` is accepted, pin included, with provider `B`. -/
theorem tampered_trust_list_accepted :
    (verifyTlXmlSignature (exampleTrustListEnv [] [2]) "B" [2]).succeeded = true ∧
      ¬TrustRootIntegrity (exampleTrustListEnv [] [2]) "B" [2] := by
  have hok : (verifyTlXmlSignature (exampleTrustListEnv [] [2]) "B" [2]).succeeded = true := by
    decide
  refine ⟨hok, fun h => ?_⟩
  obtain ⟨doc, n, refs, hparts, -, hdigests, -⟩ := h hok
  obtain rfl : exampleTrustList [] "B" = doc := Except.ok.inj hparts.parse
  have hrefs : extractReferencesForSignature (exampleTrustList [] "B") 1 =
      .ok [exampleTrustListReference] := rfl
  obtain rfl := Except.ok.inj (hrefs.symm.trans hparts.references)
  have hverified := hdigests exampleTrustListReference List.mem_cons_self
  rw [← checkReference_ok_iff] at hverified
  have hmismatch : ∀ cert, (checkReference (exampleTrustListEnv [] [2]) (exampleTrustList [] "B") []
      cert exampleTrustListReference).detail.status = .mismatch := fun cert => rfl
  cases hverified

/-! ### Whose key verified -/

/-- The signature check `Verify` makes on a text. -/
def verifyingCall (env : XmlEnv) (xml : String) : Except String SignatureCall := do
  let doc ← parseHardened env.lib xml
  let signatureNode ← orError (findFirstDsigElement doc.root "Signature")
    "Не знайдено ds:Signature у namespace XMLDSIG"
  signatureCall env doc signatureNode 1 (embeddedCertificate signatureNode).bytes

/-- Pinning means the pinned key: if the check succeeds under a pin, the signature
value was verified with the pinned certificate. -/
def PinnedKeyVerifies (env : XmlEnv) (xml : String) (pinnedCertDer : Der) : Prop :=
  pinnedCertDer ≠ [] → (verifyTlXmlSignature env xml pinnedCertDer).succeeded = true →
    ∃ call, verifyingCall env xml = .ok call ∧ (call.check env.crypto).executed = true ∧
      (call.check env.crypto).valid = true ∧ call.certificate = pinnedCertDer

/-- The certificate and everything else that the signature names can be read from the tree, and the
signature method is a known one. -/
structure Readable (lib : LibXml2) (doc : XmlDocument) (signatureNode : XmlNode) : Prop where
  certificate : (embeddedCertificate signatureNode).bytes ≠ []
  signedInfo : ∃ signedInfo octets sm, findFirstElementInSubtree signatureNode "SignedInfo" =
      some signedInfo ∧
    canonicalizeSubtreeWithinSignature lib doc 1 "SignedInfo" (signedInfoMode signedInfo).1
      (signedInfoMode signedInfo).2 = .ok octets ∧
    findFirstElement (firstChild signedInfo) "SignatureMethod" = some sm ∧
    mapSignatureMethodUri (getAttr sm "Algorithm") ≠ none
  value : signatureValue signatureNode ≠ none

/-- The condition on the tree alone: if the signature is readable, the `X509Certificate` of the
first `KeyInfo`, unless it is no base64 text or empty, holds the same bytes as the first
`ds:X509Certificate` of the signature. -/
def CertificateSearchesAgree (lib : LibXml2) (xml : String) : Prop :=
  ∀ doc signatureNode refs, SignatureParts lib xml doc signatureNode refs →
    Readable lib doc signatureNode →
    ∀ c, keyInfoCertificate doc = some c → (base64Decode (nodeContent c)).ok = true →
      (base64Decode (nodeContent c)).bytes ≠ [] →
      ∃ c', findFirstDsigElementInSubtree signatureNode "X509Certificate" = some c' ∧
        (base64Decode (nodeContent c')).bytes = (base64Decode (nodeContent c)).bytes

theorem extractFirstX509CertDer_eq {lib : LibXml2} {der : Der}
    (hdoc : parseHardened lib xml = .ok doc) (hne : der ≠ []) :
    extractFirstX509CertDer lib xml = der ↔
      ∃ c, keyInfoCertificate doc = some c ∧ (base64Decode (nodeContent c)).ok = true ∧
        (base64Decode (nodeContent c)).bytes = der := by
  rw [extractFirstX509CertDer, hdoc]
  dsimp only
  cases keyInfoCertificate doc with
  | none => simp [hne.symm]
  | some c =>
    dsimp only
    rw [base64Decode_withoutSpaces]
    split
    · next hok => simp [hok]
    · next hok => simp [hok, hne.symm]

theorem embeddedCertificate_of_find {n c : XmlNode}
    (h : findFirstDsigElementInSubtree n "X509Certificate" = some c) :
    embeddedCertificate n = base64Decode (nodeContent c) := by
  rw [embeddedCertificate, h]
  exact base64Decode_trimmed _

theorem embeddedCertificate_ne_nil {n : XmlNode} (h : (embeddedCertificate n).bytes ≠ []) :
    ∃ c, findFirstDsigElementInSubtree n "X509Certificate" = some c := by
  rw [embeddedCertificate] at h
  cases hfind : findFirstDsigElementInSubtree n "X509Certificate" with
  | none => exact absurd (by rw [hfind]) h
  | some c => exact ⟨c, rfl⟩

theorem verifyingCall_of_parts {n : XmlNode} {refs : List XmlReference}
    (h : SignatureParts env.lib xml doc n refs) :
    verifyingCall env xml = signatureCall env doc n 1 (embeddedCertificate n).bytes := by
  rw [verifyingCall, h.parse]
  show (orError (findFirstDsigElement doc.root "Signature") _ >>= _) = _
  rw [h.single.node]
  rfl

/-- Digests that can always be computed, and a check that accepts every value. -/
def acceptingCrypto : XmlCrypto where
  computeImprint _ _ := .ok []
  certificateImprint _ _ := .ok []
  verifyRsaPkcs1 _ _ _ _ := accepted
  verifyHash _ _ _ := accepted

theorem Checkable.readable {n : XmlNode} (h : Checkable env doc n) : Readable env.lib doc n := by
  obtain ⟨hcert, call, hcall⟩ := h
  simp only [signatureCall, bind_eq_ok, orError_eq_ok] at hcall
  obtain ⟨signedInfo, hsi, octets, hoctets, sm, hsm, alg, halg, -, -, value, hvalue, -⟩ := hcall
  exact ⟨hcert, ⟨signedInfo, octets, sm, hsi, hoctets, hsm,
    by rw [halg]; exact Option.some_ne_none _⟩, by rw [hvalue]; exact Option.some_ne_none _⟩

theorem Readable.checkable {lib : LibXml2} {n : XmlNode} (h : Readable lib doc n) :
    Checkable ⟨lib, acceptingCrypto⟩ doc n := by
  obtain ⟨signedInfo, octets, sm, hsi, hoctets, hsm, halg⟩ := h.signedInfo
  obtain ⟨alg, halg⟩ := Option.ne_none_iff_exists'.mp halg
  obtain ⟨value, hvalue⟩ := Option.ne_none_iff_exists'.mp h.value
  have hhash : signedInfoHash acceptingCrypto (getAttr sm "Algorithm") (embeddedCertificate n).bytes
      alg (textBytes octets) = .ok [] := by
    simp only [signedInfoHash, XmlCrypto.computeImprintByCertificate, acceptingCrypto, ite_self]
  refine ⟨h.certificate, ?_⟩
  simp only [signatureCall, bind_eq_ok, orError_eq_ok]
  exact ⟨_, signedInfo, hsi, octets, hoctets, sm, hsm, alg, halg, [], hhash, value, hvalue, rfl⟩

/-- **Pinning means the pinned key**, under every pin and for every outcome of the signature check,
exactly if the search that compares the pin and the search that verifies the signature end at the
same bytes. -/
theorem pinned_key_verifies_iff (lib : LibXml2) (xml : String) :
    (∀ crypto pinnedCertDer, PinnedKeyVerifies ⟨lib, crypto⟩ xml pinnedCertDer) ↔
      CertificateSearchesAgree lib xml := by
  constructor
  · intro h doc n refs hparts hreadable c hc hbase64 hne
    -- the pin is the certificate of `ds:KeyInfo`, and every value is accepted
    obtain ⟨hcert, call, hcall⟩ := hreadable.checkable
    have hcheck : call.check acceptingCrypto = accepted := check_accepted call rfl rfl
    have hpin := (extractFirstX509CertDer_eq hparts.parse hne).mpr ⟨c, hc, hbase64, rfl⟩
    have hok : (verifyTlXmlSignature ⟨lib, acceptingCrypto⟩ xml _).succeeded = true :=
      verifyTlXmlSignature_succeeded_iff.mpr ⟨fun _ => hpin, doc, n, refs, hparts, hcert, call, hcall,
        by rw [hcheck]; exact ⟨rfl, rfl⟩⟩
    obtain ⟨call', hcall', -, -, hpinned⟩ := h acceptingCrypto _ hne hok
    rw [verifyingCall_of_parts hparts] at hcall'
    obtain ⟨c', hc'⟩ := embeddedCertificate_ne_nil hcert
    rw [signatureCall_certificate hcall', embeddedCertificate_of_find hc'] at hpinned
    exact ⟨c', hc', hpinned⟩
  · intro h crypto pin hne hok
    obtain ⟨hpin, doc, n, refs, hparts, hcert, hsig⟩ := verifyTlXmlSignature_succeeded_iff.mp hok
    obtain ⟨c, hc, hbase64, rfl⟩ := (extractFirstX509CertDer_eq hparts.parse hne).mp (hpin hne)
    obtain ⟨call, hcall, hexecuted, hvalid⟩ := hsig
    have hreadable : Readable lib doc n := Checkable.readable ⟨hcert, call, hcall⟩
    obtain ⟨c', hc', hsame⟩ := h doc n refs hparts hreadable c hc hbase64 hne
    refine ⟨call, ?_, hexecuted, hvalid, ?_⟩
    · rw [verifyingCall_of_parts hparts]
      exact hcall
    · rw [signatureCall_certificate hcall, embeddedCertificate_of_find hc', hsame]

/-- The key of `[3]` in a `ds:Object` before the `ds:KeyInfo` with the pinned certificate `[2]`: the
pin is compared with the one, the signature verified with the other. -/
theorem pin_checked_on_another_certificate :
    let env := exampleTrustListEnv [dsElement "Object" [] [dsText "X509Certificate" "Aw=="]] [3]
    (verifyTlXmlSignature env "A" [2]).succeeded = true ∧ ¬PinnedKeyVerifies env "A" [2] := by
  intro env
  have hok : (verifyTlXmlSignature env "A" [2]).succeeded = true := by decide
  refine ⟨hok, fun h => ?_⟩
  obtain ⟨call, hcall, -, -, hpinned⟩ := h (by decide) hok
  have hcert : (verifyingCall env "A").toOption.map SignatureCall.certificate = some [3] := by decide
  rw [hcall] at hcert
  rw [Except.toOption, Option.map_some, hpinned] at hcert
  exact absurd hcert (by decide)

end Tamga.Policy
