/-
`XmlSignatureVerifier`: the two verdicts on one `ds:Signature`.

A verification gives two independent verdicts, `digestValid` for the references
and `signatureValid` for the signature value over the canonical `ds:SignedInfo`.

* `checkReference_ok_iff` — a reference is reported `ok` exactly if its octets
  can be computed and their digest is its `DigestValue`;
* `verifySignatureAtPosition_ok` — what the two verdicts of a completed
  verification mean;
* `verify_ok_iff` — the anti-wrapping checks, and that one `ds:Signature` was looked at;
* `verifyAll_takenFrom` — each report of `VerifyAll` rests on one `ds:Signature`;
* `octets_eq_of_verified` — with collision-free digests, a reference that is
  verified in two documents has the same octets in both.
-/
import Tamga.XmlReference

namespace Tamga.XmlDsig

open OrderedTree Util Xml List

structure XmlEnv where
  lib : LibXml2
  crypto : XmlCrypto

/-! ### References -/

inductive ReferenceStatus where
  | ok
  | mismatch
  | resolveFailed
  | transformFailed
  | digestFailed
  deriving DecidableEq, Repr

def ReferenceStatus.text : ReferenceStatus → String
  | .ok => "ok"
  | .mismatch => "mismatch"
  | .resolveFailed => "resolve-failed"
  | .transformFailed => "transform-failed"
  | .digestFailed => "digest-failed"

structure XmlReferenceVerificationDetail where
  uri : String
  type : String
  digestMethod : String
  expectedBase64 : String
  expectedHex : String := ""
  computedBase64 : String := ""
  computedHex : String := ""
  status : ReferenceStatus
  error : String := ""
  deriving DecidableEq, Repr

def isSignedPropertiesReference (ref : XmlReference) : Bool := containsText ref.type "SignedProperties"

/-- Why the octets of a reference could not be computed. -/
inductive OctetsError where
  | resolve (error : String)
  | transform (error : String)

def OctetsError.status : OctetsError → ReferenceStatus
  | .resolve _ => .resolveFailed
  | .transform _ => .transformFailed

def OctetsError.error : OctetsError → String
  | .resolve e => e
  | .transform e => e

/-- Resolving and transforming a reference through the serialised text. -/
def resolveAndTransform (lib : LibXml2) (doc : XmlDocument) (external : List (String × Bytes))
    (ref : XmlReference) : Except OctetsError String :=
  match resolveReference lib doc external ref with
  | .error e => .error (.resolve e)
  | .ok resolved =>
    match applyTransforms lib resolved ref with
    | .error e => .error (.transform e)
    | .ok octets => .ok octets

def referenceOctets (lib : LibXml2) (doc : XmlDocument) (external : List (String × Bytes))
    (ref : XmlReference) : Except OctetsError String :=
  match idFragment ref.uri with
  | none => resolveAndTransform lib doc external ref
  | some fragment =>
    if countElementsById doc.root fragment ≠ 1 then
      .error (.resolve "duplicate or missing Id for referenced fragment")
    else if isCanonicalizationOnlyTransform ref.transforms then
      let mode := c14nModeOrDefault (ref.transforms.headD "")
      match canonicalizeSubtreeById lib doc fragment mode.1 mode.2 with
      | .error e => .error (.transform e)
      | .ok octets => .ok octets
    else resolveAndTransform lib doc external ref

variable {ref : XmlReference}

theorem resolveAndTransform_eq_ok {lib : LibXml2} {doc : XmlDocument}
    {external : List (String × Bytes)} {octets : String}
    (huri : isExternalUri ref.uri = false) :
    resolveAndTransform lib doc external ref = .ok octets ↔
      ∃ text, resolveSameDocument lib doc ref = .ok text ∧
        applyTransforms lib text ref = .ok octets := by
  rw [resolveAndTransform, resolveReference, if_neg (by rw [huri]; exact Bool.false_ne_true)]
  cases resolveSameDocument lib doc ref with
  | error e => simp
  | ok text => cases h : applyTransforms lib text ref <;> simp [h]

theorem referenceOctets_fragment {lib : LibXml2} {doc : XmlDocument}
    {external : List (String × Bytes)} {octets id : String}
    (hid : idFragment ref.uri = some id) :
    referenceOctets lib doc external ref = .ok octets ↔ countElementsById doc.root id = 1 ∧
      if isCanonicalizationOnlyTransform ref.transforms then
        canonicalizeSubtreeById lib doc id (c14nModeOrDefault (ref.transforms.headD "")).1
          (c14nModeOrDefault (ref.transforms.headD "")).2 = .ok octets
      else resolveAndTransform lib doc external ref = .ok octets := by
  simp only [referenceOctets, hid]
  by_cases hcount : countElementsById doc.root id ≠ 1
  · rw [if_pos hcount]
    exact iff_of_false (by simp) fun h => hcount h.1
  · rw [if_neg hcount, and_iff_right (not_not.mp hcount)]
    split
    · cases canonicalizeSubtreeById lib doc id (c14nModeOrDefault (ref.transforms.headD "")).1
        (c14nModeOrDefault (ref.transforms.headD "")).2 <;> simp
    · exact Iff.rfl

/-- The report on one reference, and the octets and digest if they were computed. -/
structure ReferenceCheck where
  detail : XmlReferenceVerificationDetail
  digested : Option (Bytes × Bytes) := none

variable (env : XmlEnv) (doc : XmlDocument)

/-- The body of the reference loop of `VerifySignatureAtPosition`. -/
def checkReference (external : List (String × Bytes))
    (certDer : Der) (ref : XmlReference) : ReferenceCheck :=
  let failed (expectedHex : String) (status : ReferenceStatus) (error : String) : ReferenceCheck :=
    { detail :=
        { uri := ref.uri, type := ref.type, digestMethod := ref.digestMethod
          expectedBase64 := ref.digestValueBase64, expectedHex, status, error } }
  let expected := base64Decode ref.digestValueBase64
  if ¬expected.ok then failed "" .digestFailed "invalid DigestValue base64"
  else
    let expectedHex := hexEncode expected.bytes
    match referenceOctets env.lib doc external ref with
    | .error e => failed expectedHex e.status e.error
    | .ok octets =>
      let bytes := textBytes octets
      match env.crypto.computeDigestByCertificate bytes ref.digestMethod certDer with
      | .error e => failed expectedHex .digestFailed e
      | .ok digest =>
        { detail :=
            { uri := ref.uri, type := ref.type, digestMethod := ref.digestMethod
              expectedBase64 := ref.digestValueBase64, expectedHex
              computedHex := hexEncode digest, computedBase64 := base64Encode digest
              status := if digest = expected.bytes then .ok else .mismatch
              error := if digest = expected.bytes then ""
                else "computed digest does not match DigestValue" }
          digested := some (bytes, digest) }

/-- The digest of a reference's octets is its `DigestValue`. -/
def ReferenceVerified (external : List (String × Bytes))
    (certDer : Der) (ref : XmlReference) : Prop :=
  ∃ octets, referenceOctets env.lib doc external ref = .ok octets ∧
    (base64Decode ref.digestValueBase64).ok = true ∧
    env.crypto.computeDigestByCertificate (textBytes octets) ref.digestMethod certDer =
      .ok (base64Decode ref.digestValueBase64).bytes

theorem checkReference_ok_iff (external : List (String × Bytes))
    (certDer : Der) (ref : XmlReference) :
    (checkReference env doc external certDer ref).detail.status = .ok ↔
      ReferenceVerified env doc external certDer ref := by
  rw [checkReference, ReferenceVerified]
  by_cases hexp : (base64Decode ref.digestValueBase64).ok = true
  · rw [if_neg (not_not_intro hexp)]
    cases hoct : referenceOctets env.lib doc external ref with
    | error e => cases e <;> simp [OctetsError.status]
    | ok octets =>
      cases hdig : env.crypto.computeDigestByCertificate (textBytes octets) ref.digestMethod certDer with
      | error e => simp [hdig]
      | ok digest => simp [hdig, hexp]
  · rw [if_pos hexp]
    simp [hexp]

variable {env doc} {external : List (String × Bytes)}
  {signatureNode : XmlNode}

theorem octets_eq_of_verified (hc : env.crypto.CollisionFree) {doc' : XmlDocument}
    {external' : List (String × Bytes)} {certDer : Der}
    (h : ReferenceVerified env doc external certDer ref)
    (h' : ReferenceVerified env doc' external' certDer ref) :
    ∃ octets octets', referenceOctets env.lib doc external ref = .ok octets ∧
      referenceOctets env.lib doc' external' ref = .ok octets' ∧
      textBytes octets = textBytes octets' := by
  obtain ⟨octets, hoctets, -, hdigest⟩ := h
  obtain ⟨octets', hoctets', -, hdigest'⟩ := h'
  exact ⟨octets, octets', hoctets, hoctets', hc.digest hdigest hdigest'⟩

/-! ### One signature -/

/-- The canonical length and digest of `xades:SignedProperties`, for the report. -/
structure SignedPropertiesDigest where
  canonicalizedLength : Nat := 0
  hashHex : String := ""
  hashBase64 : String := ""
  deriving DecidableEq, Repr

structure XmlSignatureVerificationResult where
  signatureValid : Bool := false
  digestValid : Bool := false
  signingCertId : String := ""
  referenceDetails : List XmlReferenceVerificationDetail := []
  signedInfoCanonicalizedLength : Nat := 0
  signedInfoHashHex : String := ""
  signedInfoHashBase64 : String := ""
  signedProperties : SignedPropertiesDigest := {}
  signatureValueValid : Bool := false
  signatureAlgorithmUnsupported : Bool := false
  signatureValueError : String := ""
  deriving DecidableEq, Repr

/-- What `ExtractEmbeddedCertificate` leaves in `cert_der`, and whether it could
decode it.  The caller goes on with the bytes even if it could not. -/
def embeddedCertificate (signatureNode : XmlNode) : Decoded :=
  match findFirstDsigElementInSubtree signatureNode "X509Certificate" with
  | none => ⟨[], false⟩
  | some n => base64Decode (trimmedText n)

def signatureValue (signatureNode : XmlNode) : Option Bytes :=
  match findFirstElementInSubtree signatureNode "SignatureValue" with
  | none => none
  | some sv =>
    let decoded := base64Decode (trimmedText sv)
    if decoded.ok then some decoded.bytes else none

/-- One call of the signature check, with the canonicalisation of `ds:SignedInfo`
that led to it. -/
structure SignatureCall where
  mode : C14nMode
  withComments : Bool
  signatureMethod : String
  certificate : Der
  signedInfo : Bytes
  hash : Bytes
  signature : Bytes

/-- The check the call stands for: RSA by its own backend, the rest through
cryptonite. -/
def SignatureCall.check (crypto : XmlCrypto) (call : SignatureCall) : SignatureCheck :=
  match mapRsaSignatureMethod call.signatureMethod with
  | some hashAlg => crypto.verifyRsaPkcs1 call.certificate hashAlg call.hash call.signature
  | none => crypto.verifyHash call.certificate call.hash call.signature

def signedInfoMode (signedInfo : XmlNode) : C14nMode × Bool :=
  match findFirstElement (firstChild signedInfo) "CanonicalizationMethod" with
  | none => (.c14n10, false)
  | some cm => c14nModeOrDefault (getAttr cm "Algorithm")

/-- The digest of the canonical `ds:SignedInfo`.  An RSA digest does not depend on
the certificate. -/
def signedInfoHash (crypto : XmlCrypto) (smUri : String) (certDer : Der) (alg : ImprintDigest)
    (data : Bytes) : Except String Bytes :=
  if (mapRsaSignatureMethod smUri).isSome then crypto.computeImprint alg data
  else crypto.computeImprintByCertificate certDer alg data

variable (env doc) (signatureNode : XmlNode) (position : Nat)

/-- The second half of `VerifySignatureAtPosition` up to the call. -/
def signatureCall (certDer : Der) : Except String SignatureCall := do
  let signedInfo ← orError (findFirstElementInSubtree signatureNode "SignedInfo")
    "Не знайдено ds:SignedInfo"
  let (mode, comments) := signedInfoMode signedInfo
  let octets ←
    canonicalizeSubtreeWithinSignature env.lib doc position "SignedInfo" mode comments
  let sm ← orError (findFirstElement (firstChild signedInfo) "SignatureMethod")
    "Не знайдено ds:SignatureMethod у ds:SignedInfo"
  let smUri := getAttr sm "Algorithm"
  let alg ← orError (mapSignatureMethodUri smUri) ("Непідтримуваний SignatureMethod URI: " ++ smUri)
  let hash ← signedInfoHash env.crypto smUri certDer alg (textBytes octets)
  let signature ← orError (signatureValue signatureNode) "Відсутнє або некоректне ds:SignatureValue"
  return { mode, withComments := comments, signatureMethod := smUri, certificate := certDer
           signedInfo := textBytes octets, hash, signature }

/-- The digest of the last `SignedProperties` reference that could be computed. -/
def signedPropertiesOfReferences (checks : List (XmlReference × ReferenceCheck)) :
    SignedPropertiesDigest :=
  checks.foldl (fun acc (ref, check) =>
    match check.digested with
    | some (bytes, digest) =>
      if isSignedPropertiesReference ref then
        { canonicalizedLength := bytes.length, hashHex := hexEncode digest
          hashBase64 := base64Encode digest }
      else acc
    | none => acc) {}

variable (call : SignatureCall) (check : SignatureCheck) (result : XmlSignatureVerificationResult)

/-- The digest of the only `SignedProperties` of the signature, when no reference
supplied one. -/
def signedPropertiesFallback (acc : SignedPropertiesDigest) : SignedPropertiesDigest :=
  if acc.canonicalizedLength = 0 ∧ countElementsInSubtree signatureNode "SignedProperties" = 1 then
    match canonicalizeSubtreeWithinSignature env.lib doc position "SignedProperties" call.mode
        call.withComments with
    | .error _ => acc
    | .ok octets =>
      match env.crypto.computeDigestByCertificate (textBytes octets) call.signatureMethod
          call.certificate with
      | .error _ => acc
      | .ok digest =>
        { canonicalizedLength := (textBytes octets).length, hashHex := hexEncode digest
          hashBase64 := base64Encode digest }
  else acc

def applySignatureCheck : XmlSignatureVerificationResult :=
  let orDefault (text : String) : String := if check.message = "" then text else check.message
  match mapRsaSignatureMethod call.signatureMethod with
  | some _ =>
    if ¬check.executed then
      { result with
        signatureAlgorithmUnsupported := true
        signatureValueError := orDefault "RSA signature verification could not be performed" }
    else
      { result with
        signatureValid := check.valid
        signatureValueValid := check.valid
        signatureValueError :=
          if check.valid then "" else orDefault "RSA signature does not match" }
  | none =>
    if ¬check.executed then { result with signatureValueError := check.message }
    else
      { result with
        signatureValid := check.valid
        signatureValueValid := check.valid
        signatureValueError :=
          if check.valid then "" else orDefault "VerifyHash returned invalid signature" }

/-- The verdict on the references, before the signature value is looked at. -/
def referenceResult (external : List (String × Bytes))
    (embedded : Decoded) (refs : List XmlReference) : XmlSignatureVerificationResult :=
  let checks := refs.map fun ref => (ref, checkReference env doc external embedded.bytes ref)
  { signingCertId :=
      if embedded.ok ∧ embedded.bytes ≠ [] then "embedded-x509" else "(no certificate in KeyInfo)"
    referenceDetails := checks.map fun c => c.2.detail
    digestValid := checks.all fun c => c.2.detail.status == .ok
    signedProperties := signedPropertiesOfReferences checks }

def callResult : XmlSignatureVerificationResult :=
  applySignatureCheck call (call.check env.crypto)
    { result with
      signedInfoCanonicalizedLength := call.signedInfo.length
      signedInfoHashHex := hexEncode call.hash
      signedInfoHashBase64 := base64Encode call.hash
      signedProperties :=
        signedPropertiesFallback env doc signatureNode position call result.signedProperties }

def verifySignatureAtPosition (external : List (String × Bytes)) :
    Except String XmlSignatureVerificationResult := do
  let embedded := embeddedCertificate signatureNode
  let refs ← extractReferencesForSignature doc position
  let result := referenceResult env doc external embedded refs
  if embedded.bytes = [] then
    return { result with signatureValueError := "no certificate in KeyInfo" }
  let call ← signatureCall env doc signatureNode position embedded.bytes
  return callResult env doc signatureNode position call result

def verify (env : XmlEnv) (signedXml : String) (external : List (String × Bytes)) :
    Except String XmlSignatureVerificationResult := do
  let doc ← parseHardened env.lib signedXml
  require (countElementsByLocalName doc.root "Signature" ≠ 0) "Не знайдено ds:Signature"
  require (¬countElementsByLocalName doc.root "Signature" > 1)
    "Кілька ds:Signature у документі поки не підтримуються (захист від wrapping)"
  require (countElementsByLocalName doc.root "SignedInfo" = 1)
    "Очікується рівно один ds:SignedInfo (захист від wrapping)"
  require (countElementsByLocalName doc.root "SignatureValue" = 1)
    "Очікується рівно один ds:SignatureValue (захист від wrapping)"
  require (¬countElementsByLocalName doc.root "SignedProperties" > 1)
    "Кілька xades:SignedProperties у документі (захист від wrapping)"
  let signatureNode ← orError (findFirstDsigElement doc.root "Signature")
    "Не знайдено ds:Signature у namespace XMLDSIG"
  verifySignatureAtPosition env doc signatureNode 1 external

/-- The loop of `VerifyAll` over the signatures from `position` on. -/
def verifyEach (env : XmlEnv) (doc : XmlDocument) (external : List (String × Bytes)) :
    Nat → List XmlNode → Except String (List XmlSignatureVerificationResult)
  | _, [] => return []
  | position, signatureNode :: rest => do
    require (countElementsInSubtree signatureNode "SignedInfo" = 1)
      "Очікується рівно один ds:SignedInfo у межах кожного ds:Signature (захист від wrapping)"
    require (countElementsInSubtree signatureNode "SignatureValue" = 1)
      "Очікується рівно один ds:SignatureValue у межах кожного ds:Signature (захист від wrapping)"
    require (¬countElementsInSubtree signatureNode "SignedProperties" > 1)
      "Кілька xades:SignedProperties у межах одного ds:Signature (захист від wrapping)"
    let result ← verifySignatureAtPosition env doc signatureNode position external
    let results ← verifyEach env doc external (position + 1) rest
    return result :: results

def verifyAll (env : XmlEnv) (signedXml : String) (external : List (String × Bytes)) :
    Except String (List XmlSignatureVerificationResult) := do
  let doc ← parseHardened env.lib signedXml
  let (signatureNodes, nestedFound) := collectTopLevelSignatureNodes doc.root
  require (nestedFound = false)
    "Вкладений ds:Signature у межах іншого ds:Signature (захист від wrapping)"
  require (signatureNodes ≠ []) "Не знайдено ds:Signature"
  verifyEach env doc external 1 signatureNodes

/-! ### What the verdicts mean -/

/-- The signature value verifies over the canonical `ds:SignedInfo`, under the key
of `cert`. -/
def SignatureVerifies (cert : Der) : Prop :=
  ∃ call, signatureCall env doc signatureNode position cert = .ok call ∧
    (call.check env.crypto).executed = true ∧ (call.check env.crypto).valid = true

variable {env doc signatureNode position}

theorem signatureCall_certificate {cert : Der} {call : SignatureCall}
    (h : signatureCall env doc signatureNode position cert = .ok call) :
    call.certificate = cert := by
  simp only [signatureCall, bind_eq_ok] at h
  obtain ⟨signedInfo, -, octets, -, sm, -, alg, -, hash, -, signature, -, h⟩ := h
  exact congrArg SignatureCall.certificate (Except.ok.inj h).symm

theorem applySignatureCheck_valid
    {result : XmlSignatureVerificationResult} (h : result.signatureValid = false) :
    (applySignatureCheck call check result).signatureValid = true ↔
      check.executed = true ∧ check.valid = true := by
  rw [applySignatureCheck]
  cases mapRsaSignatureMethod call.signatureMethod <;> cases hexec : check.executed <;> simp [h]

theorem applySignatureCheck_digestValid :
    (applySignatureCheck call check result).digestValid = result.digestValid := by
  rw [applySignatureCheck]
  cases mapRsaSignatureMethod call.signatureMethod <;> cases check.executed <;> rfl

theorem referenceResult_digestValid {embedded : Decoded} {refs : List XmlReference} :
    (referenceResult env doc external embedded refs).digestValid = true ↔
      ∀ ref ∈ refs, ReferenceVerified env doc external embedded.bytes ref := by
  show ((refs.map _).all _) = true ↔ _
  rw [all_map, all_eq_true]
  refine forall₂_congr fun ref _ => ?_
  rw [← checkReference_ok_iff]
  exact beq_iff_eq

variable {r : XmlSignatureVerificationResult}

/-- **The two verdicts.**  A completed verification says of the references that all are verified,
and of the signature value that it verifies under the embedded certificate; neither verdict depends
on the other. -/
theorem verifySignatureAtPosition_ok
    (h : verifySignatureAtPosition env doc signatureNode position external = .ok r) :
    ∃ refs, extractReferencesForSignature doc position = .ok refs ∧
      (r.digestValid = true ↔
        ∀ ref ∈ refs, ReferenceVerified env doc external (embeddedCertificate signatureNode).bytes ref) ∧
      (r.signatureValid = true ↔
        (embeddedCertificate signatureNode).bytes ≠ [] ∧
          SignatureVerifies env doc signatureNode position
            (embeddedCertificate signatureNode).bytes) := by
  rw [verifySignatureAtPosition, bind_eq_ok] at h
  obtain ⟨refs, hrefs, h⟩ := h
  refine ⟨refs, hrefs, ?_⟩
  rw [← referenceResult_digestValid]
  by_cases hcert : (embeddedCertificate signatureNode).bytes = []
  · rw [if_pos hcert] at h
    obtain rfl := Except.ok.inj h
    refine ⟨Iff.rfl, iff_of_false Bool.false_ne_true fun hne => hne.1 hcert⟩
  · rw [if_neg hcert, bind_eq_ok] at h
    obtain ⟨call, hcall, h⟩ := h
    obtain rfl := Except.ok.inj h
    refine ⟨by rw [callResult, applySignatureCheck_digestValid], ?_⟩
    rw [callResult, applySignatureCheck_valid call _ rfl]
    constructor
    · exact fun hcheck => ⟨hcert, call, hcall, hcheck⟩
    · rintro ⟨-, call', hcall', hcheck⟩
      rw [hcall] at hcall'
      obtain rfl := Except.ok.inj hcall'
      exact hcheck

theorem verifySignatureAtPosition_of_call {refs : List XmlReference} {call : SignatureCall}
    (hrefs : extractReferencesForSignature doc position = .ok refs)
    (hcert : (embeddedCertificate signatureNode).bytes ≠ [])
    (hcall : signatureCall env doc signatureNode position (embeddedCertificate signatureNode).bytes =
      .ok call) :
    verifySignatureAtPosition env doc signatureNode position external =
      .ok (callResult env doc signatureNode position call
        (referenceResult env doc external (embeddedCertificate signatureNode) refs)) := by
  rw [verifySignatureAtPosition, bind_eq_ok]
  refine ⟨refs, hrefs, ?_⟩
  rw [if_neg hcert, bind_eq_ok]
  exact ⟨call, hcall, rfl⟩

theorem verifyEach_spec {nodes : List XmlNode} {results : List XmlSignatureVerificationResult}
    (h : verifyEach env doc external position nodes = .ok results) :
    results.length = nodes.length ∧ ∀ i n, nodes[i]? = some n → ∃ r, results[i]? = some r ∧
      countElementsInSubtree n "SignatureValue" = 1 ∧
      verifySignatureAtPosition env doc n (position + i) external = .ok r := by
  induction nodes generalizing position results with
  | nil =>
    obtain rfl := Except.ok.inj h
    exact ⟨rfl, fun i n hn => absurd hn (by simp)⟩
  | cons m rest ih =>
    simp only [verifyEach, bind_eq_ok, require_eq_ok] at h
    obtain ⟨-, -, -, hvalue, -, -, r, hr, rs, hrs, h⟩ := h
    obtain rfl := Except.ok.inj h
    obtain ⟨hlength, hrest⟩ := ih hrs
    refine ⟨congrArg (· + 1) hlength, fun i n hn => ?_⟩
    cases i with
    | zero =>
      obtain rfl : m = n := Option.some.inj hn
      exact ⟨r, rfl, hvalue, hr⟩
    | succ i =>
      rw [show position + (i + 1) = position + 1 + i by omega]
      exact hrest i n hn

theorem elementsWithinSignature_eq {signedInfo : XmlNode}
    (hscope : dsigSignatureScope doc position = some signatureNode)
    (hcount : signatureNode.preorder.countP (matching (isElementNamed "SignedInfo")) ≤ 1)
    (hsi : findFirstElementInSubtree signatureNode "SignedInfo" = some signedInfo) :
    signatureNode.preorder.filter (matching (isElementNamed "SignedInfo")) = [signedInfo] ∧
      elementsWithinSignature doc position "SignedInfo" = [signedInfo] := by
  obtain ⟨hmem, hnamed⟩ := findFirstElementInSubtreeBy_mem hsi
  have hfilter := filter_eq_singleton hcount hmem hnamed
  refine ⟨hfilter, ?_⟩
  have hsig := isElementNamed_of_isDsigElementNamed
    (mem_filter.mp (mem_of_getElem? hscope)).2
  have hnot : ¬ matching (isElementNamed "SignedInfo") signatureNode = true := fun hsame => by
    rw [matching, isElementNamed, beq_iff_eq] at hsame
    rw [isElementNamed, beq_iff_eq, hsame] at hsig
    exact absurd hsig (by decide)
  rw [Node.preorder, filter_cons_of_neg hnot] at hfilter
  rw [elementsWithinSignature, hscope]
  exact hfilter

/-- What `Verify` asks of the document before it looks at its signature. -/
structure SingleSignature (doc : XmlDocument) (signatureNode : XmlNode) : Prop where
  signature : countElementsByLocalName doc.root "Signature" = 1
  signedInfo : countElementsByLocalName doc.root "SignedInfo" = 1
  signatureValue : countElementsByLocalName doc.root "SignatureValue" = 1
  signedProperties : countElementsByLocalName doc.root "SignedProperties" ≤ 1
  node : findFirstDsigElement doc.root "Signature" = some signatureNode

theorem verify_ok_iff {signedXml : String} : verify env signedXml external = .ok r ↔
      ∃ doc signatureNode, parseHardened env.lib signedXml = .ok doc ∧
        SingleSignature doc signatureNode ∧
        verifySignatureAtPosition env doc signatureNode 1 external = .ok r := by
  simp only [verify, bind_eq_ok, require_eq_ok, orError_eq_ok]
  constructor
  · rintro ⟨doc, hdoc, -, hne, -, hle, -, hsi, -, hsv, -, hsp, signatureNode, hnode, h⟩
    exact ⟨doc, signatureNode, hdoc, ⟨by omega, hsi, hsv, by omega, hnode⟩, h⟩
  · rintro ⟨doc, signatureNode, hdoc, ⟨hsig, hsi, hsv, hsp, hnode⟩, h⟩
    exact ⟨doc, hdoc, (), by omega, (), by omega, (), hsi, (), hsv, (), by omega, signatureNode,
      hnode, h⟩

theorem SingleSignature.mem (h : SingleSignature doc signatureNode) :
    signatureNode ∈ doc.root.preorder ∧ isDsigElementNamed "Signature" signatureNode.label = true :=
  findFirstElementBy_mem h.node

theorem SingleSignature.filter (h : SingleSignature doc signatureNode) :
    doc.root.preorder.filter (matching (isDsigElementNamed "Signature")) = [signatureNode] := by
  refine filter_eq_singleton ?_ h.mem.1 h.mem.2
  calc doc.root.preorder.countP (matching (isDsigElementNamed "Signature"))
      ≤ doc.root.preorder.countP (matching (isElementNamed "Signature")) :=
        countP_mono_left fun n _ hn => isElementNamed_of_isDsigElementNamed hn
    _ = countElementsByLocalName doc.root "Signature" := (countElementsBy_eq_countP _ _).symm
    _ ≤ 1 := Nat.le_of_eq h.signature

theorem SingleSignature.scope (h : SingleSignature doc signatureNode) :
    dsigSignatureScope doc 1 = some signatureNode := by
  rw [dsigSignatureScope, ← preorder_root, h.filter]
  rfl

theorem SingleSignature.elementsWithin {signedInfo : XmlNode}
    (h : SingleSignature doc signatureNode)
    (hsi : findFirstElementInSubtree signatureNode "SignedInfo" = some signedInfo) :
    elementsWithinSignature doc 1 "SignedInfo" = [signedInfo] := by
  refine (elementsWithinSignature_eq h.scope ?_ hsi).2
  calc signatureNode.preorder.countP (matching (isElementNamed "SignedInfo"))
      ≤ doc.root.preorder.countP (matching (isElementNamed "SignedInfo")) :=
        (preorderForest_sublist h.mem.1).countP_le
    _ = countElementsByLocalName doc.root "SignedInfo" := (countElementsBy_eq_countP _ _).symm
    _ ≤ 1 := Nat.le_of_eq h.signedInfo

/-- The parts of a text that `Verify` works on. -/
structure SignatureParts (lib : LibXml2) (xml : String) (doc : XmlDocument) (signatureNode : XmlNode)
    (refs : List XmlReference) : Prop where
  parse : parseHardened lib xml = .ok doc
  single : SingleSignature doc signatureNode
  references : extractReferencesForSignature doc 1 = .ok refs

theorem verify_signatureValid_iff {xml : String} :
    (∃ r, verify env xml external = .ok r ∧ r.signatureValid = true) ↔
      ∃ doc signatureNode refs, SignatureParts env.lib xml doc signatureNode refs ∧
        (embeddedCertificate signatureNode).bytes ≠ [] ∧
        SignatureVerifies env doc signatureNode 1 (embeddedCertificate signatureNode).bytes := by
  constructor
  · rintro ⟨r, hverify, hvalid⟩
    obtain ⟨doc, signatureNode, hdoc, hsingle, h⟩ := verify_ok_iff.mp hverify
    obtain ⟨refs, hrefs, -, hsig⟩ := verifySignatureAtPosition_ok h
    exact ⟨doc, signatureNode, refs, ⟨hdoc, hsingle, hrefs⟩, hsig.mp hvalid⟩
  · rintro ⟨doc, signatureNode, refs, ⟨hdoc, hsingle, hrefs⟩, hcert, hsig⟩
    obtain ⟨call, hcall, hcheck⟩ := hsig
    refine ⟨_, verify_ok_iff.mpr ⟨doc, signatureNode, hdoc, hsingle,
      verifySignatureAtPosition_of_call hrefs hcert hcall⟩, ?_⟩
    rw [callResult, applySignatureCheck_valid call _ rfl]
    exact hcheck

theorem SignatureParts.unique {lib : LibXml2} {xml : String} {doc' : XmlDocument} {n n' : XmlNode}
    {refs refs' : List XmlReference} (h : SignatureParts lib xml doc n refs)
    (h' : SignatureParts lib xml doc' n' refs') : doc = doc' ∧ n = n' ∧ refs = refs' := by
  obtain rfl : doc = doc' := Except.ok.inj (h.parse.symm.trans h'.parse)
  refine ⟨rfl, ?_, Except.ok.inj (h.references.symm.trans h'.references)⟩
  exact Option.some.inj (h.single.node.symm.trans h'.single.node)

variable (env doc) in
/-- The check of the signature value that an element `Signature` with this `ds:SignedInfo` asks for:
over the canonical form of that `ds:SignedInfo`, by the method named there, with the element's own
signature value and under its own certificate. -/
structure OwnCall (signature signedInfo : XmlNode) (call : SignatureCall) : Prop where
  certificate : call.certificate = (embeddedCertificate signature).bytes
  mode : (call.mode, call.withComments) = signedInfoMode signedInfo
  octets : ∃ octets, env.lib.c14nSubtrees doc [signedInfo] call.mode call.withComments = some octets ∧
    call.signedInfo = textBytes octets
  method : ∃ sm, findFirstElement (firstChild signedInfo) "SignatureMethod" = some sm ∧
    call.signatureMethod = getAttr sm "Algorithm"
  hash : ∃ alg, mapSignatureMethodUri call.signatureMethod = some alg ∧
    signedInfoHash env.crypto call.signatureMethod call.certificate alg call.signedInfo =
      .ok call.hash
  value : signatureValue signature = some call.signature

theorem OwnCall.of_signatureCall {call : SignatureCall} {signedInfo : XmlNode}
    (hcall : signatureCall env doc signatureNode position (embeddedCertificate signatureNode).bytes =
      .ok call)
    (hsi : findFirstElementInSubtree signatureNode "SignedInfo" = some signedInfo)
    (hwithin : elementsWithinSignature doc position "SignedInfo" = [signedInfo]) :
    OwnCall env doc signatureNode signedInfo call := by
  simp only [signatureCall, bind_eq_ok, orError_eq_ok, hsi, Option.some.injEq] at hcall
  obtain ⟨_, rfl, octets, hoctets, sm, hsm, alg, halg, hash, hhash, value, hvalue, hcall⟩ := hcall
  obtain rfl := Except.ok.inj hcall
  have hout := canonicalizeSubtreeWithinSignature_ok hoctets
  rw [hwithin] at hout
  exact ⟨rfl, rfl, ⟨octets, hout, rfl⟩, ⟨sm, hsm, rfl⟩, ⟨alg, halg, hhash⟩, hvalue⟩

/-- The octets whose hash is checked against the signature value are the canonical
form of the signature's own `ds:SignedInfo`. -/
theorem SingleSignature.signedInfo_octets (h : SingleSignature doc signatureNode)
    {call : SignatureCall} (hcall : signatureCall env doc signatureNode 1
      (embeddedCertificate signatureNode).bytes = .ok call) :
    ∃ signedInfo octets, findFirstElementInSubtree signatureNode "SignedInfo" = some signedInfo ∧
      env.lib.c14nSubtrees doc [signedInfo] call.mode call.withComments = some octets ∧
      call.signedInfo = textBytes octets := by
  obtain ⟨signedInfo, hsi⟩ : ∃ n, findFirstElementInSubtree signatureNode "SignedInfo" = some n := by
    simp only [signatureCall, bind_eq_ok, orError_eq_ok] at hcall
    exact ⟨_, hcall.choose_spec.1⟩
  obtain ⟨octets, hoctets⟩ := (OwnCall.of_signatureCall hcall hsi (h.elementsWithin hsi)).octets
  exact ⟨signedInfo, octets, hsi, hoctets⟩

/-! ### All signatures -/

variable (env doc external) in
/-- Everything that the report at a position rests on is taken from the element `signature`: its
references stand in the only `ds:SignedInfo` of that element and are digested under its certificate,
and the verdict on the signature value is that of the check which the element asks for. -/
structure TakenFrom
    (signature : XmlNode) (position : Nat) (r : XmlSignatureVerificationResult) : Prop where
  scope : dsigSignatureScope doc position = some signature
  value : ∃ value, signature.preorder.filter (matching (isElementNamed "SignatureValue")) = [value]
  parts : ∃ signedInfo refs,
    signature.preorder.filter (matching (isElementNamed "SignedInfo")) = [signedInfo] ∧
    extractReferencesFromSignedInfoNode signedInfo = .ok refs ∧
    r.referenceDetails = refs.map (fun ref =>
      (checkReference env doc external (embeddedCertificate signature).bytes ref).detail) ∧
    r.digestValid = r.referenceDetails.all (·.status == .ok) ∧
    if (embeddedCertificate signature).bytes = [] then
      r.signatureValid = false ∧ r.signatureValueError = "no certificate in KeyInfo"
    else ∃ call, OwnCall env doc signature signedInfo call ∧
      r.signatureValid = ((call.check env.crypto).executed && (call.check env.crypto).valid) ∧
      r.signedInfoHashHex = hexEncode call.hash

theorem applySignatureCheck_report : let r := applySignatureCheck call check result
    r.referenceDetails = result.referenceDetails ∧ r.signedInfoHashHex = result.signedInfoHashHex := by
  simp only [applySignatureCheck]
  cases mapRsaSignatureMethod call.signatureMethod <;> cases check.executed <;> exact ⟨rfl, rfl⟩

theorem TakenFrom.of_report
    (h : verifySignatureAtPosition env doc signatureNode position external = .ok r)
    (hvalue : countElementsInSubtree signatureNode "SignatureValue" = 1)
    (hnode : (collectTopLevelSignatureNodes doc.root).1[position - 1]? = some signatureNode) :
    TakenFrom env doc external signatureNode position r := by
  rw [verifySignatureAtPosition, bind_eq_ok] at h
  obtain ⟨refs, hrefs, h⟩ := h
  simp only [extractReferencesForSignature, bind_eq_ok, require_eq_ok, orError_eq_ok, hnode,
    Option.some.injEq] at hrefs
  obtain ⟨-, hnested, -, -, _, rfl, -, hcount, signedInfo, hsi, hread⟩ := hrefs
  have hscope : dsigSignatureScope doc position = some signatureNode := by
    rw [dsigSignatureScope, ← preorder_root, ← (collectTopLevelSignatureNodes_flat hnested).2]
    exact hnode
  rw [countElementsInSubtree, countElementsInSubtreeBy, Node.count_eq_countP] at hcount hvalue
  obtain ⟨hown, hwithin⟩ := elementsWithinSignature_eq hscope (Nat.le_of_eq hcount) hsi
  refine ⟨hscope, length_eq_one_iff.mp (countP_eq_length_filter ▸ hvalue), signedInfo, refs,
    hown, hread, ?_⟩
  by_cases hcert : (embeddedCertificate signatureNode).bytes = []
  · rw [if_pos hcert] at h ⊢
    obtain rfl := Except.ok.inj h
    simp [referenceResult, Function.comp_def]
  · rw [if_neg hcert, bind_eq_ok] at h
    rw [if_neg hcert]
    obtain ⟨call, hcall, h⟩ := h
    obtain rfl := Except.ok.inj h
    rw [callResult, (applySignatureCheck_report _ _ _).1, (applySignatureCheck_report _ _ _).2,
      applySignatureCheck_digestValid]
    refine ⟨by simp [referenceResult], by simp [referenceResult, Function.comp_def], call,
      .of_signatureCall hcall hsi hwithin, ?_, rfl⟩
    rw [Bool.eq_iff_iff, applySignatureCheck_valid call _ rfl, Bool.and_eq_true]

/-- **One signature at a time.**  `VerifyAll` fails where an element `Signature` stands in a
`ds:Signature`; otherwise there is a report for each `ds:Signature`, in document order, and
everything that it rests on is taken from that element. -/
theorem verifyAll_takenFrom (env : XmlEnv) (signedXml : String) (external : List (String × Bytes))
    (results : List XmlSignatureVerificationResult)
    (h : verifyAll env signedXml external = .ok results) :
    ∃ doc, parseHardened env.lib signedXml = .ok doc ∧
      let signatures := doc.elements.filter (matching (isDsigElementNamed "Signature"))
      (∀ s ∈ signatures, ∀ d ∈ s.descendants, isElementNamed "Signature" d.label = false) ∧
      results.length = signatures.length ∧
      ∀ i s, signatures[i]? = some s → ∃ r, results[i]? = some r ∧
        TakenFrom env doc external s (i + 1) r := by
  simp only [verifyAll, bind_eq_ok, require_eq_ok] at h
  obtain ⟨doc, hdoc, -, hnested, -, -, heach⟩ := h
  obtain ⟨hbelow, hflat⟩ := collectTopLevelSignatureNodes_flat hnested
  rw [preorder_root] at hflat
  obtain ⟨hlength, hreports⟩ := verifyEach_spec heach
  refine ⟨doc, hdoc, ?_⟩
  dsimp only
  rw [← hflat]
  refine ⟨hbelow, hlength, fun i s hs => ?_⟩
  obtain ⟨r, hr, hvalue, hreport⟩ := hreports i s hs
  rw [Nat.add_comm] at hreport
  exact ⟨r, hr, .of_report hreport hvalue hs⟩

/-- A look-alike, and two signatures with a value and a certificate each. -/
def twoSignatures : XmlDocument :=
  let signature (value : String) := dsElement "Signature" []
    [dsElement "SignedInfo" []
        [dsElement "SignatureMethod" [("Algorithm", "#rsa-sha256")] [], dsElement "Reference" [] []],
      dsText "SignatureValue" value,
      dsElement "KeyInfo" [] [dsText "X509Certificate" value]]
  { nodes := [elementTree none "root" []
      [elementTree none "Signature" [] [], signature "AQ==", signature "Ag=="]] }

/-- The canonical form of a node is its place in the document.  A value verifies under the
certificate with the same octets, and only over the `ds:SignedInfo` that stands beside it. -/
def twoSignaturesEnv : XmlEnv where
  lib := ⟨fun _ => some twoSignatures, fun _ _ => "",
    fun _ nodes _ _ => nodes.head?.map fun n => String.ofList (n.path.map fun i => Char.ofNat i),
    fun _ _ _ => none⟩
  crypto := ⟨fun _ data => .ok data, fun _ _ => .error "", fun certificate _ hash signature =>
    ⟨true, certificate == signature && hash.getD 1 0 == signature.headD 0, ""⟩,
    fun _ _ _ => ⟨false, false, ""⟩⟩

theorem verifyAll_takenFrom_two : ∃ results s r, verifyAll twoSignaturesEnv "-" [] = .ok results ∧
    results.map (·.signatureValid) = [true, true] ∧ results[1]? = some r ∧
    TakenFrom twoSignaturesEnv twoSignatures [] s 2 r := by
  obtain ⟨doc, hdoc, -, -, hall⟩ := verifyAll_takenFrom twoSignaturesEnv "-" [] _ rfl
  obtain rfl : twoSignatures = doc := Except.ok.inj hdoc
  obtain ⟨r, hr, htaken⟩ := hall 1 _ rfl
  exact ⟨_, _, r, rfl, by decide +kernel, hr, htaken⟩

end Tamga.XmlDsig
