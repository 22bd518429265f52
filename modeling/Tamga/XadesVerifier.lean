/-
`XadesVerifier`: what is read from `xades:SignedProperties`, and whether it is
signed.

The XMLDSIG layer verifies whatever references the signature has.  The XAdES layer
looks for `xades:SignedProperties` below the signature and reads the signing time,
the digest of the signing certificate, the signature policy and the data-object
formats from it.  Nothing ties the two together.

* `verifyOneXadesSignature_valid_iff` — what `signature_valid` of a reported
  signature amounts to;
* `signed_properties_signed_iff` — the properties are digested with their markup by a
  verified reference exactly if a reference without base64 transform names their Id;
* `unsigned_properties_accepted` — they need not be.

The part of `VerifyOneXadesSignature` after the data-object formats (timestamps,
long-term evidence, profile) does not change what is modelled here.
-/
import Tamga.SignedElements

namespace Tamga.Xades

open OrderedTree Util Xml XmlDsig List

/-! ### The verifier -/

structure DataObjectFormat where
  objectReference : String
  description : String
  mimeType : String
  deriving DecidableEq, Repr

structure SignaturePolicy where
  present : Bool := false
  id : String := ""
  hashAlgoUri : String := ""
  hashValue : Bytes := []
  deriving DecidableEq, Repr

/-- The outcome of comparing `CertDigest` with the embedded certificate. -/
structure SigningCertificateCheck where
  signerCertificateDer : Der := []
  digestValid : Bool := false
  notes : List String := []
  deriving DecidableEq, Repr

/-- `XadesVerificationResult`, up to the data-object formats. -/
structure XadesVerificationResult where
  signatureValid : Bool := false
  qualifyingPropertiesPresent : Bool := false
  signingTime : String := ""
  signingCertificate : SigningCertificateCheck := {}
  signaturePolicy : SignaturePolicy := {}
  dataObjectFormats : List DataObjectFormat := []
  xmlSignature : XmlSignatureVerificationResult := {}
  notes : List String := []
  deriving DecidableEq, Repr

/-- The text of the first XAdES element with the name below `n`. -/
def xadesText (n : XmlNode) (name : String) : String :=
  match findFirstXadesElement (firstChild n) name with
  | none => ""
  | some e => trimmedText e

/-- The comparison of `SigningCertificate/CertDigest` with the embedded
certificate. -/
def checkSigningCertificate (env : XmlEnv) (signatureNode signedProps : XmlNode) :
    SigningCertificateCheck :=
  match findFirstXadesElement (firstChild signedProps) "CertDigest",
      findFirstDsigElementInSubtree signatureNode "X509Certificate" with
  | some certDigest, some x509Cert =>
    let algo :=
      match findFirstDsigElement (firstChild certDigest) "DigestMethod" with
      | none => ""
      | some dm => getAttr dm "Algorithm"
    let cert := base64Decode (trimmedText x509Cert)
    match findFirstDsigElement (firstChild certDigest) "DigestValue" with
    | none => {}
    | some dv =>
      let expected := base64Decode (trimmedText dv)
      if cert.ok ∧ expected.ok then
        match env.crypto.computeDigestByCertificate cert.bytes algo cert.bytes with
        | .ok computed =>
          if computed = expected.bytes then
            { signerCertificateDer := cert.bytes, digestValid := true }
          else
            { signerCertificateDer := cert.bytes, notes := ["SigningCertificate CertDigest mismatch"] }
        | .error _ =>
          { signerCertificateDer := cert.bytes, notes := ["SigningCertificate CertDigest mismatch"] }
      else {}
  | _, _ => { notes := ["missing CertDigest or X509Certificate"] }

/-- `SignaturePolicyIdentifier`.  A hash value that is not base64 leaves the bytes
before the fault. -/
def readSignaturePolicy (signedProps : XmlNode) : SignaturePolicy :=
  match findFirstXadesElement (firstChild signedProps) "SignaturePolicyIdentifier" with
  | none => {}
  | some policy =>
    match findFirstXadesElement (firstChild policy) "SigPolicyHash" with
    | none => { present := true, id := xadesText policy "Identifier" }
    | some sph =>
      { present := true
        id := xadesText policy "Identifier"
        hashAlgoUri :=
          match findFirstDsigElement (firstChild sph) "DigestMethod" with
          | none => ""
          | some dm => getAttr dm "Algorithm"
        hashValue :=
          match findFirstDsigElement (firstChild sph) "DigestValue" with
          | none => []
          | some dv => (base64Decode (trimmedText dv)).bytes }

/-- `DataObjectFormat` in document order. -/
def readDataObjectFormats (signedProps : XmlNode) : List DataObjectFormat :=
  (collectElementNodes (firstChild signedProps) "DataObjectFormat").map fun dof =>
    { objectReference := getAttr dof "ObjectReference"
      description := xadesText dof "Description"
      mimeType := xadesText dof "MimeType" }

def verifyOneXadesSignature (env : XmlEnv) (signatureNode : XmlNode)
    (xmlResult : XmlSignatureVerificationResult) : XadesVerificationResult :=
  let cryptographic := xmlResult.signatureValid && xmlResult.digestValid
  match findFirstXadesElementInSubtree signatureNode "SignedProperties" with
  | none =>
    { signatureValid := cryptographic, xmlSignature := xmlResult
      notes := ["missing xades:SignedProperties"] }
  | some signedProps =>
    let check := checkSigningCertificate env signatureNode signedProps
    { signatureValid := cryptographic && check.digestValid
      qualifyingPropertiesPresent := true
      signingTime := xadesText signedProps "SigningTime"
      signingCertificate := check
      signaturePolicy := readSignaturePolicy signedProps
      dataObjectFormats := readDataObjectFormats signedProps
      xmlSignature := xmlResult
      notes := check.notes }

def verify (env : XmlEnv) (signedXml : String) (external : List (String × Bytes)) :
    Except String XadesVerificationResult := do
  let xmlResult ← XmlDsig.verify env signedXml external
  let doc ← parseHardened env.lib signedXml
  let signatureNode ← orError (findFirstDsigElement doc.root "Signature") "Не знайдено ds:Signature"
  return verifyOneXadesSignature env signatureNode xmlResult

/-- `XadesSignatureSet`, always with `Aggregation::All`. -/
structure XadesSignatureSet where
  signatures : List XadesVerificationResult
  allValid : Bool

def verifyAll (env : XmlEnv) (signedXml : String) (external : List (String × Bytes)) :
    Except String XadesSignatureSet := do
  let xmlResults ← XmlDsig.verifyAll env signedXml external
  let doc ← parseHardened env.lib signedXml
  let (signatureNodes, nestedFound) := collectTopLevelSignatureNodes doc.root
  require (nestedFound = false)
    "Вкладений ds:Signature у межах іншого ds:Signature (захист від wrapping)"
  require (signatureNodes.length = xmlResults.length)
    "Невідповідність кількості ds:Signature між XMLDSIG- і XAdES-парсингом документа"
  require (signatureNodes ≠ []) "Не знайдено ds:Signature"
  let signatures := List.zipWith (verifyOneXadesSignature env) signatureNodes xmlResults
  return { signatures, allValid := signatures.all XadesVerificationResult.signatureValid }

/-! ### Reported signatures -/

/-- The verifier reports `r` on the `ds:Signature` at the given position of the
document that `xml` denotes, by either of its entry points. -/
def Reported (env : XmlEnv) (xml : String) (external : List (String × Bytes)) (doc : XmlDocument)
    (signatureNode : XmlNode) (position : Nat) (r : XadesVerificationResult) : Prop :=
  parseHardened env.lib xml = .ok doc ∧
    ((verify env xml external = .ok r ∧ position = 1 ∧
        findFirstDsigElement doc.root "Signature" = some signatureNode) ∨
      ∃ set, verifyAll env xml external = .ok set ∧ 1 ≤ position ∧
        (collectTopLevelSignatureNodes doc.root).1[position - 1]? = some signatureNode ∧
        set.signatures[position - 1]? = some r)

variable {env : XmlEnv} {external : List (String × Bytes)} {doc : XmlDocument}
  {signatureNode : XmlNode} {r : XadesVerificationResult}

/-- Both entry points report on a `ds:Signature` of the document what the XMLDSIG
layer and `VerifyOneXadesSignature` give for it. -/
theorem Reported.spec {xml : String} {position : Nat}
    (h : Reported env xml external doc signatureNode position r) :
    signatureNode ∈ doc.root.preorder ∧
      isDsigElementNamed "Signature" signatureNode.label = true ∧
      ∃ x, verifySignatureAtPosition env doc signatureNode position external = .ok x ∧
        r = verifyOneXadesSignature env signatureNode x := by
  obtain ⟨hdoc, ⟨hverify, rfl, hnode⟩ | ⟨set, hall, hpos, hnode, hr⟩⟩ := h
  · simp only [verify, bind_eq_ok, orError_eq_ok] at hverify
    obtain ⟨x, hx, doc', hdoc', n', hn', hr⟩ := hverify
    obtain rfl : doc = doc' := Except.ok.inj (hdoc.symm.trans hdoc')
    obtain rfl : signatureNode = n' := Option.some.inj (hnode.symm.trans hn')
    obtain ⟨doc'', n'', hdoc'', hsingle, hx⟩ := verify_ok_iff.mp hx
    obtain rfl : doc = doc'' := Except.ok.inj (hdoc.symm.trans hdoc'')
    obtain rfl : signatureNode = n'' := Option.some.inj (hnode.symm.trans hsingle.node)
    obtain ⟨hmem, hdsig⟩ := hsingle.mem
    exact ⟨hmem, hdsig, x, hx, (Except.ok.inj hr).symm⟩
  · simp only [verifyAll, bind_eq_ok, require_eq_ok] at hall
    obtain ⟨xs, hxs, doc', hdoc', -, -, -, -, -, -, hset⟩ := hall
    obtain rfl : doc = doc' := Except.ok.inj (hdoc.symm.trans hdoc')
    obtain rfl := Except.ok.inj hset
    simp only [XmlDsig.verifyAll, bind_eq_ok, require_eq_ok] at hxs
    obtain ⟨doc'', hdoc'', -, -, -, -, heach⟩ := hxs
    obtain rfl : doc = doc'' := Except.ok.inj (hdoc.symm.trans hdoc'')
    obtain ⟨x, hget, -, hx⟩ := (verifyEach_spec heach).2 _ _ hnode
    obtain ⟨hmem, hdsig⟩ := collectTopLevelSignatureNodes_mem (mem_of_getElem? hnode)
    refine ⟨hmem, hdsig, x, ?_, ?_⟩
    · rwa [show 1 + (position - 1) = position by omega] at hx
    · rw [List.getElem?_zipWith, hnode, hget] at hr
      exact (Option.some.inj hr).symm

theorem verifyOneXadesSignature_valid_iff {signedProps : XmlNode}
    {x : XmlSignatureVerificationResult}
    (h : findFirstXadesElementInSubtree signatureNode "SignedProperties" = some signedProps) :
    (verifyOneXadesSignature env signatureNode x).signatureValid = true ↔
      x.signatureValid = true ∧ x.digestValid = true ∧
        (checkSigningCertificate env signatureNode signedProps).digestValid = true := by
  rw [verifyOneXadesSignature, h]
  simp only [Bool.and_eq_true, and_assoc]

theorem Reported.verified {xml : String} {position : Nat}
    (h : Reported env xml external doc signatureNode position r) (hvalid : r.signatureValid = true)
    {refs : List XmlReference} (hrefs : extractReferencesForSignature doc position = .ok refs) :
    ∀ ref ∈ refs,
      ReferenceVerified env doc external (embeddedCertificate signatureNode).bytes ref := by
  obtain ⟨-, -, x, hx, rfl⟩ := h.spec
  obtain ⟨refs', hrefs', hdigest, -⟩ := verifySignatureAtPosition_ok hx
  obtain rfl : refs = refs' := Except.ok.inj (hrefs.symm.trans hrefs')
  refine hdigest.mp ?_
  cases hsp : findFirstXadesElementInSubtree signatureNode "SignedProperties" with
  | none =>
    rw [verifyOneXadesSignature, hsp] at hvalid
    exact (Bool.and_eq_true_iff.mp hvalid).2
  | some sp => exact ((verifyOneXadesSignature_valid_iff hsp).mp hvalid).2.1

end Tamga.Xades
