/-
`ds:Reference`: algorithms, extraction, resolution and transforms
(`XmlAlgorithmRegistry`, `XmlDigestEngine`, `XmlReferenceResolver`,
`XmlTransformEngine`, `XmlHelpers`).

The hash functions and signature checks are oracles (`XmlCrypto`).

* `transformLoop_octets` — what the transform loop makes of a node set, if its
  transforms are enveloped-signature and C14N;
* `applyTransforms_octets` — the octets that are digested are then the canonical
  form of the resolved text, with its signatures removed or not.
-/
import Mathlib.Logic.Function.Iterate
import Tamga.XmlDocument

namespace Tamga.XmlDsig

open OrderedTree Util Xml List

/-! ### Algorithms -/

inductive ImprintDigest where
  | kupyna256
  | gost34311
  | sha256
  | sha384
  | sha512
  deriving DecidableEq, Repr

inductive SignatureAlg where
  | rsaSha256
  | ecdsaSha256
  | dstu4145WithGost34311
  | dstu4145WithKupyna
  | rsaSha384
  | rsaSha512
  | ecdsaSha384
  | ecdsaSha512
  deriving DecidableEq, Repr

inductive RsaHashAlg where
  | sha256
  | sha384
  | sha512
  deriving DecidableEq, Repr

variable (transforms : List String) (uri : String)

def mapSignatureUri : Option SignatureAlg :=
  [("rsa-sha256", .rsaSha256), ("rsa-sha384", .rsaSha384), ("rsa-sha512", .rsaSha512),
    ("ecdsa-sha256", .ecdsaSha256), ("ecdsa-sha384", .ecdsaSha384),
    ("ecdsa-sha512", SignatureAlg.ecdsaSha512),
    ("dstu4145-dstu7564-256", .dstu4145WithKupyna), ("dstu4145-kupyna", .dstu4145WithKupyna),
    ("dstu4145-kupyna256", .dstu4145WithKupyna), ("dstu4145-kupyna-256", .dstu4145WithKupyna),
    ("dstu4145-gost34311", .dstu4145WithGost34311), ("dstu4145", .dstu4145WithGost34311)].lookup
    (toLower (uriTail uri))

/-- `AlgorithmRegistry::ToImprint`: the digest the signature URI itself names. -/
def toImprint : SignatureAlg → ImprintDigest
  | .rsaSha256 | .ecdsaSha256 => .sha256
  | .rsaSha384 | .ecdsaSha384 => .sha384
  | .rsaSha512 | .ecdsaSha512 => .sha512
  | .dstu4145WithGost34311 => .gost34311
  | .dstu4145WithKupyna => .kupyna256

def imprintDigestOid : ImprintDigest → String
  | .kupyna256 => "1.2.804.2.1.1.1.1.2.2.1"
  | .gost34311 => "1.2.804.2.1.1.1.1.2.1"
  | .sha256 => "2.16.840.1.101.3.4.2.1"
  | .sha384 => "2.16.840.1.101.3.4.2.2"
  | .sha512 => "2.16.840.1.101.3.4.2.3"

def imprintFromDigestOid (digestOid : String) : Option ImprintDigest :=
  let oid := toLower digestOid
  if oid ∈ ["1.2.804.2.1.1.1.1.2.2.1", "kupyna256", "kupyna-256", "dstu7564-256", "dstu7564_256",
      "dstu7564"] ∨ startsWithText oid "1.2.804.2.1.1.1.1.3" then some .kupyna256
  else if oid ∈ ["1.2.804.2.1.1.1.1.2.1", "gost34311", "gost-34311"] then some .gost34311
  else if oid ∈ ["2.16.840.1.101.3.4.2.1", "sha-256", "sha256", "1.2.840.113549.1.1.11",
      "1.2.840.10045.4.3.2"] then some .sha256
  else if oid ∈ ["2.16.840.1.101.3.4.2.2", "sha-384", "sha384", "1.2.840.113549.1.1.12",
      "1.2.840.10045.4.3.3"] then some .sha384
  else if oid ∈ ["2.16.840.1.101.3.4.2.3", "sha-512", "sha512", "1.2.840.113549.1.1.13",
      "1.2.840.10045.4.3.4"] then some .sha512
  else none

def w3cDigestUriMap : List (String × ImprintDigest) :=
  [("http://www.w3.org/2001/04/xmlenc#sha256", .sha256),
    ("http://www.w3.org/2001/04/xmldsig-more#sha384", .sha384),
    ("http://www.w3.org/2001/04/xmlenc#sha512", .sha512),
    ("http://www.w3.org/2001/04/xmldsig-more#gost34311", .gost34311),
    ("http://www.w3.org/2001/04/xmlenc#gost34311", .gost34311),
    ("http://www.w3.org/2001/04/xmldsig-more#kupyna256", .kupyna256),
    ("http://www.w3.org/2001/04/xmlenc#kupyna256", .kupyna256),
    ("http://www.w3.org/2001/04/xmlenc#dstu7564-256", .kupyna256),
    ("http://www.w3.org/2001/04/xmldsig-more#dstu7564-256", .kupyna256)]

def mapDigestUri : Option ImprintDigest :=
  match w3cDigestUriMap.lookup uri with
  | some alg => some alg
  | none =>
    match imprintFromDigestOid uri with
    | some alg => some alg
    | none => imprintFromDigestOid (uriTail uri)

def mapSignatureMethodUri : Option ImprintDigest :=
  match mapSignatureUri uri with
  | some alg => some (toImprint alg)
  | none => mapDigestUri uri

/-- `MapRsaSignatureMethod`; `none` means that the method is not RSA. -/
def mapRsaSignatureMethod : Option RsaHashAlg :=
  [("rsa-sha256", .sha256), ("rsa-sha384", .sha384), ("rsa-sha512", RsaHashAlg.sha512)].lookup
    (toLower (uriTail uri))

/-! ### Cryptographic oracles -/

/-- What a signature check reports: whether it ran at all, its verdict, and a
diagnostic text. -/
structure SignatureCheck where
  executed : Bool
  valid : Bool
  message : String := ""
  deriving DecidableEq, Repr

structure XmlCrypto where
  computeImprint : ImprintDigest → Bytes → Except String Bytes
  /-- GOST 34.311 with the parameters of a certificate
  (`AssignDigestFromCertificateAdapter`). -/
  certificateImprint : Der → Bytes → Except String Bytes
  verifyRsaPkcs1 : Der → RsaHashAlg → Bytes → Bytes → SignatureCheck
  /-- `CryptoniteAdapter::VerifyHash`. -/
  verifyHash : Der → Bytes → Bytes → SignatureCheck

variable (lib : LibXml2) (crypto : XmlCrypto) (doc : XmlDocument)

def XmlCrypto.computeImprintByCertificate (certificateDer : Der)
    (alg : ImprintDigest) (data : Bytes) : Except String Bytes :=
  if alg ≠ .gost34311 ∨ certificateDer = [] then crypto.computeImprint alg data
  else
    match crypto.certificateImprint certificateDer data with
    | .ok hash => .ok hash
    | .error e =>
      .error (if e = "" then "Не вдалося обчислити certificate-aware ГОСТ 34.311" else e)

def XmlCrypto.computeDigestByCertificate (data : Bytes) (algoUri : String)
    (certificateDer : Der) : Except String Bytes :=
  match mapDigestUri algoUri with
  | none => .error ("Непідтримуваний XMLDSIG DigestMethod URI: " ++ algoUri)
  | some alg => crypto.computeImprintByCertificate certificateDer alg data

/-- Digests are treated as collision free: one algorithm, under one certificate,
gives two texts the same value only if they are equal. -/
def XmlCrypto.CollisionFree : Prop :=
  ∀ (cert : Der) (alg : ImprintDigest) (a b h : Bytes),
    crypto.computeImprintByCertificate cert alg a = .ok h →
    crypto.computeImprintByCertificate cert alg b = .ok h → a = b

theorem XmlCrypto.CollisionFree.digest {crypto : XmlCrypto} (hc : crypto.CollisionFree)
    {a b h : Bytes} {uri : String} {cert : Der}
    (ha : crypto.computeDigestByCertificate a uri cert = .ok h)
    (hb : crypto.computeDigestByCertificate b uri cert = .ok h) : a = b := by
  rw [computeDigestByCertificate] at ha hb
  cases hmap : mapDigestUri uri with
  | none => rw [hmap] at ha; cases ha
  | some alg => rw [hmap] at ha hb; exact hc cert alg a b h ha hb

/-! ### Extraction -/

structure XmlReference where
  id : String
  uri : String
  type : String
  emitTypeAttribute : Bool
  transforms : List String
  digestMethod : String
  digestValueBase64 : String
  deriving DecidableEq, Repr

/-- The fields of one `ds:Reference` element. -/
def readReference (n : XmlNode) : XmlReference where
  id := getAttr n "Id"
  uri := getAttr n "URI"
  type := getAttr n "Type"
  emitTypeAttribute := (getProp n.label "Type").isSome
  transforms :=
    match findFirstElement (firstChild n) "Transforms" with
    | none => []
    | some ts =>
      (ts.childNodes.filter (matching (isElementNamed "Transform"))).map fun t =>
        getAttr t "Algorithm"
  digestMethod :=
    match findFirstElement (firstChild n) "DigestMethod" with
    | none => ""
    | some d => getAttr d "Algorithm"
  digestValueBase64 :=
    match findFirstElement (firstChild n) "DigestValue" with
    | none => ""
    | some d => trimmedText d

/-- `ExtractReferencesFromSignedInfoNode`: the children named `Reference`. -/
def extractReferencesFromSignedInfoNode (signedInfo : XmlNode) :
    Except String (List XmlReference) :=
  match (signedInfo.childNodes.filter (matching (isElementNamed "Reference"))).map readReference with
  | [] => .error "ds:SignedInfo не містить жодного ds:Reference"
  | refs => .ok refs

/-- `XmlReferenceResolver::ExtractReferencesForSignature` on the parsed document. -/
def extractReferencesForSignature (position : Nat) : Except String (List XmlReference) := do
  let (signatureNodes, nestedFound) := collectTopLevelSignatureNodes doc.root
  require (nestedFound = false)
    "Вкладений ds:Signature у межах іншого ds:Signature (захист від wrapping)"
  require (1 ≤ position) "Некоректний індекс підпису"
  let signatureNode ← orError signatureNodes[position - 1]? "Некоректний індекс підпису"
  require (countElementsInSubtree signatureNode "SignedInfo" = 1)
    "У межах підпису має бути рівно один ds:SignedInfo (захист від wrapping)"
  let signedInfo ← orError (findFirstElementInSubtree signatureNode "SignedInfo")
    "У межах підпису не знайдено ds:SignedInfo"
  extractReferencesFromSignedInfoNode signedInfo

/-! ### Resolution -/

def isExternalUri : Bool := uri != "" && !startsWithText uri "#"

def isUnsafeExternalUri : Bool :=
  if uri = "" ∨ startsWithText uri "#" then false
  else
    let lower := toLower uri
    startsWithText lower "file://" || startsWithText lower "http://" ||
      startsWithText lower "https://" || startsWithText uri "/" || startsWithText uri "\\" ||
      (match uri.toList with
        | c :: ':' :: _ => ('A' ≤ c && c ≤ 'Z') || ('a' ≤ c && c ≤ 'z')
        | _ => false) ||
      containsText uri ".." || containsText uri "\\"

/-- The first overload of `ResolveReference`: same-document references. -/
def resolveSameDocument (ref : XmlReference) : Except String String :=
  match doc.rootNode with
  | none => .error "Порожній XML-документ"
  | some root =>
    if ref.uri = "" then .ok (lib.serializeNode doc root)
    else if startsWithText ref.uri "#" then
      let fragment := dropText ref.uri 1
      if startsWithText fragment "xpointer" then
        .error ("XPointer-посилання поки не підтримуються: " ++ ref.uri)
      else
        match findElementById doc.root fragment with
        | none => .error ("Не знайдено елемент із Id=" ++ fragment)
        | some target => .ok (lib.serializeNode doc target)
    else .error ("Зовнішні (detached) URI-посилання поки не підтримуються: " ++ ref.uri)

/-- The element a same-document reference points at: the root element for an empty
URI, the first element with the given Id for a fragment. -/
def referenceTarget (ref : XmlReference) : Option XmlNode :=
  if ref.uri = "" then doc.rootNode
  else if startsWithText ref.uri "#" ∧ ¬startsWithText (dropText ref.uri 1) "xpointer" then
    findElementById doc.root (dropText ref.uri 1)
  else none

/-- `ResolveReference` with the entries of a container. -/
def resolveReference (external : List (String × Bytes))
    (ref : XmlReference) : Except String String :=
  if isExternalUri ref.uri then
    match normalizeAsicEntryUri ref.uri with
    | .error e => .error e
    | .ok entryUri =>
      if isUnsafeExternalUri entryUri then
        .error ("Небезпечне зовнішнє URI-посилання: " ++ ref.uri)
      else
        match external.lookup entryUri with
        | none => .error ("Не знайдено ASiC-E entry для ds:Reference URI=" ++ ref.uri)
        | some bytes => .ok (bytesText bytes)
  else resolveSameDocument lib doc ref

/-- `IsIdFragmentUri` with the fragment it returns. -/
def idFragment : Option String :=
  if uri.length < 2 ∨ ¬startsWithText uri "#" then none
  else if startsWithText (dropText uri 1) "xpointer" then none
  else some (dropText uri 1)

theorem idFragment_eq_some {uri id : String} (h : idFragment uri = some id) :
    2 ≤ uri.length ∧ startsWithText uri "#" ∧ ¬startsWithText (dropText uri 1) "xpointer" ∧
      dropText uri 1 = id := by
  rw [idFragment] at h
  split at h
  · cases h
  next hshape =>
  obtain ⟨hlen, hhash⟩ := not_or.mp hshape
  split at h
  · cases h
  next hpointer => exact ⟨Nat.not_lt.mp hlen, not_not.mp hhash, hpointer, Option.some.inj h⟩

/-! ### Transforms -/

def envelopedTransform : String := "http://www.w3.org/2000/09/xmldsig#enveloped-signature"

def base64Transform : String := "http://www.w3.org/2000/09/xmldsig#base64"

def isCanonicalizationOnlyTransform : Bool :=
  match transforms with
  | [] => true
  | [t] => (c14nUriToMode t).isSome
  | _ => false

def canonicalizeDoc (mode : C14nMode) (comments : Bool) : Except String String :=
  match lib.c14nDocument doc mode comments with
  | none => .error "Помилка канонікалізації у трансформ-пайплайні"
  | some out => .ok out

/-- The state of the transform loop: the node set, and the octets once there are
any. -/
structure TransformState where
  doc : XmlDocument
  octets : Option String := none

def transformStep (st : TransformState) (uri : String) : Except String TransformState :=
  if uri = envelopedTransform then
    match st.octets with
    | some _ => .error "enveloped-signature трансформ після канонікалізації не підтримується"
    | none => .ok { st with doc := removeSignatures st.doc }
  else
    match c14nUriToMode uri with
    | some (mode, comments) =>
      match st.octets with
      | some _ => .error "повторна канонікалізація над octet-stream не підтримується"
      | none =>
        match canonicalizeDoc lib st.doc mode comments with
        | .error e => .error e
        | .ok out => .ok { st with octets := some out }
    | none =>
      if uri = base64Transform then
        let input : Except String String :=
          match st.octets with
          | some octets => .ok octets
          | none =>
            match st.doc.rootNode with
            | none => .error "base64-трансформ: порожній вхідний node-set"
            | some root => .ok (nodeContent root)
        match input with
        | .error e => .error e
        | .ok octets =>
          if (base64Decode octets).ok then
            .ok { st with octets := some (bytesText (base64Decode octets).bytes) }
          else .error "Помилка base64-декодування у трансформ-пайплайні"
      else .error ("Непідтримуваний трансформ: " ++ uri)

def transformLoop (lib : LibXml2) (st : TransformState) : List String → Except String TransformState
  | [] => .ok st
  | uri :: rest =>
    match transformStep lib st uri with
    | .error e => .error e
    | .ok st' => transformLoop lib st' rest

/-- The end of `ApplyTransforms`: a node set is canonicalised by default. -/
def finishTransforms (st : TransformState) : Except String String :=
  match st.octets with
  | some octets => .ok octets
  | none => canonicalizeDoc lib st.doc .c14n10 false

def applyTransforms (xml : String) (ref : XmlReference) : Except String String :=
  if isExternalUri ref.uri ∧ ref.transforms = [] then .ok xml
  else
    match parseHardened lib xml with
    | .error e => if ref.transforms = [] then .ok xml else .error e
    | .ok doc =>
      match transformLoop lib { doc } ref.transforms with
      | .error e => .error e
      | .ok st => finishTransforms lib st

/-! ### What is digested -/

/-- The transforms that keep to node sets: enveloped-signature and C14N. -/
def isNodeSetTransform : Bool :=
  uri == envelopedTransform || (c14nUriToMode uri).isSome

/-- The canonicalisation a list of transforms ends with, inclusive C14N 1.0 if it
names none. -/
def finalMode : C14nMode × Bool :=
  (transforms.findSome? c14nUriToMode).getD (.c14n10, false)

theorem canonicalizeDoc_eq_ok {lib : LibXml2} {doc : XmlDocument} {mode : C14nMode}
    {comments : Bool} {out : String} :
    canonicalizeDoc lib doc mode comments = .ok out ↔
      lib.c14nDocument doc mode comments = some out := by
  rw [canonicalizeDoc]
  cases lib.c14nDocument doc mode comments <;> simp

theorem c14nUriToMode_enveloped : c14nUriToMode envelopedTransform = none := by decide

theorem c14nMode_of_nodeSet {uri : String} (h : isNodeSetTransform uri = true)
    (henv : uri ≠ envelopedTransform) : ∃ mode, c14nUriToMode uri = some mode := by
  rw [isNodeSetTransform, Bool.or_eq_true, beq_iff_eq] at h
  exact Option.isSome_iff_exists.mp (h.resolve_left henv)

theorem transformStep_enveloped {lib : LibXml2} {st : TransformState} (hst : st.octets = none) :
    transformStep lib st envelopedTransform = .ok { st with doc := removeSignatures st.doc } := by
  rw [transformStep, if_pos rfl, hst]

theorem transformStep_c14n {lib : LibXml2} {st : TransformState} (hst : st.octets = none)
    {uri : String} {mode : C14nMode × Bool} (hmode : c14nUriToMode uri = some mode) :
    transformStep lib st uri = (canonicalizeDoc lib st.doc mode.1 mode.2).map
      fun out => { st with octets := some out } := by
  have henv : uri ≠ envelopedTransform := fun heq => by
    rw [heq, c14nUriToMode_enveloped] at hmode
    cases hmode
  simp only [transformStep, if_neg henv, hmode, hst]
  cases canonicalizeDoc lib st.doc mode.1 mode.2 <;> rfl

theorem transformStep_octets {lib : LibXml2} {st : TransformState} {octets uri : String}
    (hst : st.octets = some octets) (huri : isNodeSetTransform uri = true) (st' : TransformState) :
    transformStep lib st uri ≠ .ok st' := by
  rw [transformStep]
  by_cases henv : uri = envelopedTransform
  · rw [if_pos henv, hst]
    simp
  · rw [if_neg henv]
    obtain ⟨mode, hmode⟩ := c14nMode_of_nodeSet huri henv
    rw [hmode, hst]
    simp

theorem transformLoop_done {lib : LibXml2} {st st' : TransformState} {octets : String}
    {transforms : List String} (hst : st.octets = some octets)
    (hall : ∀ uri ∈ transforms, isNodeSetTransform uri = true)
    (h : transformLoop lib st transforms = .ok st') : transforms = [] ∧ st' = st := by
  cases transforms with
  | nil => exact ⟨rfl, (Except.ok.inj h).symm⟩
  | cons uri rest =>
    rw [transformLoop] at h
    cases hstep : transformStep lib st uri with
    | error e => rw [hstep] at h; cases h
    | ok st₁ => exact absurd hstep (transformStep_octets hst (hall uri mem_cons_self) st₁)

/-- A C14N transform that is not the last one is refused. -/
def transformsRefused : Prop :=
  ∃ t ∈ transforms.dropLast, t ≠ envelopedTransform

/-- The rest of `ApplyTransforms` after the parser. -/
def runTransforms (st : TransformState) (transforms : List String) : Except String String :=
  match transformLoop lib st transforms with
  | .error e => .error e
  | .ok st => finishTransforms lib st

theorem runTransforms_enveloped {st : TransformState} (hst : st.octets = none)
    (rest : List String) : runTransforms lib st (envelopedTransform :: rest) =
      runTransforms lib { st with doc := removeSignatures st.doc } rest := by
  rw [runTransforms, transformLoop, transformStep_enveloped hst]
  rfl

theorem runTransforms_c14n {st : TransformState} (hst : st.octets = none)
    {uri : String} {mode : C14nMode × Bool} (hmode : c14nUriToMode uri = some mode) :
    runTransforms lib st [uri] = canonicalizeDoc lib st.doc mode.1 mode.2 := by
  rw [runTransforms, transformLoop, transformStep_c14n hst hmode]
  cases canonicalizeDoc lib st.doc mode.1 mode.2 <;> rfl

theorem finalMode_enveloped (rest : List String) :
    finalMode (envelopedTransform :: rest) = finalMode rest := by
  rw [finalMode, finalMode, List.findSome?_cons, c14nUriToMode_enveloped]

theorem runTransforms_eq (lib : LibXml2) : ∀ (transforms : List String) (st : TransformState),
    st.octets = none → (∀ t ∈ transforms, isNodeSetTransform t = true) →
    ¬ transformsRefused transforms →
    runTransforms lib st transforms =
      canonicalizeDoc lib (removeSignatures^[transforms.count envelopedTransform] st.doc)
        (finalMode transforms).1 (finalMode transforms).2
  | [], st, hst, _, _ => by
    rw [runTransforms, transformLoop]
    simp only [finishTransforms, hst]
    rfl
  | uri :: rest, st, hst, hall, hnot => by
    by_cases henv : uri = envelopedTransform
    · subst henv
      have hrest : ¬ transformsRefused rest := by
        rintro ⟨t, ht, hne⟩
        refine hnot ⟨t, ?_, hne⟩
        cases rest with
        | nil => cases ht
        | cons a l => exact mem_cons_of_mem _ ht
      rw [runTransforms_enveloped lib hst, count_cons_self, Function.iterate_succ_apply,
        finalMode_enveloped]
      exact runTransforms_eq lib rest { st with doc := removeSignatures st.doc } hst
        (fun t ht => hall t (mem_cons_of_mem _ ht)) hrest
    · cases rest with
      | cons a l => exact absurd ⟨uri, mem_cons_self, henv⟩ hnot
      | nil =>
        obtain ⟨mode, hmode⟩ := c14nMode_of_nodeSet (hall uri mem_cons_self) henv
        rw [runTransforms_c14n lib hst hmode, count_cons_of_ne henv, count_nil, finalMode,
          List.findSome?_cons, hmode]
        rfl

theorem runTransforms_refused (lib : LibXml2) : ∀ (transforms : List String) (st : TransformState),
    st.octets = none → (∀ t ∈ transforms, isNodeSetTransform t = true) →
    transformsRefused transforms → ∀ octets, runTransforms lib st transforms ≠ .ok octets
  | [], _, _, _, hrefused => by
    obtain ⟨t, ht, -⟩ := hrefused
    cases ht
  | uri :: rest, st, hst, hall, hrefused => by
    have hrest : ∀ t ∈ rest, isNodeSetTransform t = true := fun t ht =>
      hall t (mem_cons_of_mem _ ht)
    intro octets
    by_cases henv : uri = envelopedTransform
    · subst henv
      have hrefused' : transformsRefused rest := by
        obtain ⟨t, ht, hne⟩ := hrefused
        cases rest with
        | nil => cases ht
        | cons a l => exact ⟨t, (mem_cons.mp ht).resolve_left hne, hne⟩
      rw [runTransforms_enveloped lib hst]
      exact runTransforms_refused lib rest { st with doc := removeSignatures st.doc } hst hrest
        hrefused' octets
    · intro h
      obtain ⟨mode, hmode⟩ := c14nMode_of_nodeSet (hall uri mem_cons_self) henv
      cases rest with
      | nil =>
        obtain ⟨t, ht, -⟩ := hrefused
        cases ht
      | cons a l =>
        rw [runTransforms, transformLoop, transformStep_c14n hst hmode] at h
        cases hdoc : canonicalizeDoc lib st.doc mode.1 mode.2 with
        | error e =>
          rw [hdoc] at h
          cases h
        | ok out =>
          rw [hdoc] at h
          dsimp only [Except.map] at h
          cases hloop : transformLoop lib { st with octets := some out } (a :: l) with
          | error e =>
            rw [hloop] at h
            cases h
          | ok st' =>
            have hdone := transformLoop_done rfl hrest hloop
            exact absurd hdone.1 (cons_ne_nil a l)

/-- **The transform loop on a node set.**  Every enveloped-signature transform
removes the signatures once more; the canonicalisation comes last. -/
theorem transformLoop_octets {lib : LibXml2} {octets : String} {transforms : List String}
    (hall : ∀ uri ∈ transforms, isNodeSetTransform uri = true) {st st' : TransformState}
    (hst : st.octets = none) (h : transformLoop lib st transforms = .ok st')
    (hfinish : finishTransforms lib st' = .ok octets) :
    lib.c14nDocument (removeSignatures^[transforms.count envelopedTransform] st.doc)
      (finalMode transforms).1 (finalMode transforms).2 = some octets := by
  have hrun : runTransforms lib st transforms = .ok octets := by
    rw [runTransforms, h]
    exact hfinish
  have hnot : ¬ transformsRefused transforms := fun hrefused =>
    runTransforms_refused lib transforms st hst hall hrefused octets hrun
  rw [runTransforms_eq lib transforms st hst hall hnot] at hrun
  exact canonicalizeDoc_eq_ok.mp hrun

theorem applyTransforms_octets {lib : LibXml2} {xml octets : String} {ref : XmlReference}
    {doc : XmlDocument} (huri : isExternalUri ref.uri = false)
    (hall : ∀ uri ∈ ref.transforms, isNodeSetTransform uri = true)
    (hdoc : parseHardened lib xml = .ok doc) (h : applyTransforms lib xml ref = .ok octets) :
    lib.c14nDocument (removeSignatures^[ref.transforms.count envelopedTransform] doc)
      (finalMode ref.transforms).1 (finalMode ref.transforms).2 = some octets := by
  rw [applyTransforms, if_neg (by simp [huri]), hdoc] at h
  cases hloop : transformLoop lib { doc } ref.transforms with
  | error e => simp only [hloop] at h; cases h
  | ok st =>
    simp only [hloop] at h
    exact transformLoop_octets hall rfl hloop h

end Tamga.XmlDsig
