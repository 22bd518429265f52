/-
The timestamps of a XAdES signature (`VerifyOneXadesSignature`, `XadesArchiveImprint.h`).

A signature can carry timestamps of three kinds, each kind any number of times and each with
any number of tokens.  The verifier looks at the first timestamp of each kind and at the first
token in it; the tokens are counted without that restriction.

* `checkTimestamp_ok_iff` — what it takes for the timestamp of a kind to be in order;
* `timestampsValid_iff` — the same for the verdict over the three kinds;
* `every_token_counts_iff` — when the verdict speaks for every token, and
  `second_timestamp_ignored` a signature where it does not.
-/
import Tamga.XadesVerifier

namespace Tamga.Xades

open OrderedTree Util Xml XmlDsig List

/-! ### What a timestamp is about -/

inductive TimestampKind where
  | signature
  | sigAndRefs
  | archive
  deriving DecidableEq, Repr

/-- The name of the element, which is also the label of the notes. -/
def TimestampKind.elementName : TimestampKind → String
  | .signature => "SignatureTimeStamp"
  | .sigAndRefs => "SigAndRefsTimeStamp"
  | .archive => "ArchiveTimeStamp"

def concatCanonicalWithinSignature (lib : LibXml2) (doc : XmlDocument) (position : Nat)
    (signatureNode : XmlNode) (mode : C14nMode) (withComments : Bool) :
    List String → Except String String
  | [] => .ok ""
  | name :: names => do
    let piece ←
      if countElementsInSubtree signatureNode name = 0 then .ok ""
      else canonicalizeSubtreeWithinSignature lib doc position name mode withComments
    let rest ←
      concatCanonicalWithinSignature lib doc position signatureNode mode withComments names
    return piece ++ rest

variable (lib : LibXml2) (doc : XmlDocument)

/-- The `Object` children of the `n`-th `ds:Signature` without `QualifyingProperties`. -/
def nonQualifyingObjects (position : Nat) : List XmlNode :=
  match dsigSignatureScope doc position with
  | none => []
  | some s => s.childNodes.filter fun o =>
      isElementNamed "Object" o.label &&
        !(o.descendants.any (matching (isElementNamed "QualifyingProperties")))

def canonicalizeNonQualifyingObjectsWithinSignature
    (position : Nat) (mode : C14nMode) (withComments : Bool) : Except String String :=
  match nonQualifyingObjects doc position with
  | [] => .ok ""
  | nodes =>
    match lib.c14nSubtrees doc nodes mode withComments with
    | none => .error "Помилка канонікалізації ds:Object (виключаючи QualifyingProperties)"
    | some out => .ok out

/-- One reference of the archive imprint; `snapshot` is the serialised document. -/
def archiveReferenceOctets (snapshot : String) (ref : XmlReference) : Except String String :=
  match idFragment ref.uri, isCanonicalizationOnlyTransform ref.transforms with
  | some fragment, true =>
    let mode := c14nModeOrDefault (ref.transforms.headD "")
    canonicalizeSubtreeById lib doc fragment mode.1 mode.2
  | _, _ => do
    let snapshotDoc ← parseHardened lib snapshot
    let resolved ← resolveSameDocument lib snapshotDoc ref
    applyTransforms lib resolved ref

def archiveReferences (lib : LibXml2) (doc : XmlDocument) (snapshot : String) :
    List XmlReference → Except String String
  | [] => .ok ""
  | ref :: refs => do
    let octets ← archiveReferenceOctets lib doc snapshot ref
    let rest ← archiveReferences lib doc snapshot refs
    return octets ++ rest

def buildArchiveTimeStampImprintInput (signedXml : String)
    (position : Nat) (signatureNode : XmlNode) (unsignedProperties : List String)
    (mode : C14nMode) (withComments : Bool) : Except String String := do
  let signedDoc ← parseHardened lib signedXml
  let references ← extractReferencesForSignature signedDoc position
  let referenceOctets ← archiveReferences lib doc signedXml references
  let core ← concatCanonicalWithinSignature lib doc position signatureNode mode withComments
    ["SignedInfo", "SignatureValue", "KeyInfo"]
  let unsigned ← concatCanonicalWithinSignature lib doc position signatureNode mode withComments
    unsignedProperties
  let objects ←
    canonicalizeNonQualifyingObjectsWithinSignature lib doc position mode withComments
  return referenceOctets ++ core ++ unsigned ++ objects

def timestampMode (ts : XmlNode) : C14nMode × Bool :=
  match findFirstDsigElement (firstChild ts) "CanonicalizationMethod" with
  | none => (.c14n10, false)
  | some cm => c14nModeOrDefault (getAttr cm "Algorithm")

def archiveSnapshot : String :=
  match doc.rootNode with
  | none => ""
  | some root => lib.serializeNode doc root

/-- The octets that the timestamp `ts` of a kind is about. -/
def stampedContent (position : Nat) (signatureNode : XmlNode)
    (kind : TimestampKind) (ts : XmlNode) : Except String String :=
  let mode := timestampMode ts
  match kind with
  | .signature =>
    concatCanonicalWithinSignature lib doc position signatureNode mode.1 mode.2 ["SignatureValue"]
  | .sigAndRefs =>
    concatCanonicalWithinSignature lib doc position signatureNode mode.1 mode.2
      ["SignatureValue", "SignatureTimeStamp", "CompleteCertificateRefs", "CompleteRevocationRefs"]
  | .archive =>
    buildArchiveTimeStampImprintInput lib doc (archiveSnapshot lib doc) position signatureNode
      ["SignatureTimeStamp", "CompleteCertificateRefs", "CompleteRevocationRefs",
        "SigAndRefsTimeStamp", "CertificateValues", "RevocationValues"] mode.1 mode.2

/-! ### The checks -/

structure TimestampCheck where
  present : Bool := false
  checked : Bool := false
  valid : Bool := false
  deriving DecidableEq, Repr

/-- What `ValidateTimestampToken` returns. -/
structure TokenVerdict where
  valid : Bool
  message : String := ""
  deriving DecidableEq, Repr

def firstTimestamp (signatureNode : XmlNode) (kind : TimestampKind) : Option XmlNode :=
  findFirstXadesElementInSubtree signatureNode kind.elementName

def firstToken (ts : XmlNode) : Option XmlNode :=
  findFirstXadesElement (firstChild ts) "EncapsulatedTimeStamp"

/-- The note on content that could not be computed. -/
def TimestampKind.contentFailure (kind : TimestampKind) (e : String) : String :=
  match kind with
  | .archive => kind.elementName ++ ": imprint-input build failed: " ++ e
  | _ => kind.elementName ++ ": C14N failed"

/-- What the check of one kind leaves in the result. -/
structure KindOutcome where
  check : TimestampCheck := {}
  token : Bytes := []
  content : Bytes := []
  notes : List String := []
  deriving DecidableEq, Repr

section Verifier

variable (validateToken : Bytes → Bytes → TokenVerdict) (lib : LibXml2) (doc : XmlDocument)
  (position : Nat) (signatureNode : XmlNode)

/-- `validate_ts`, and the block for the archive timestamp. -/
def checkTimestamp (kind : TimestampKind) : KindOutcome :=
  match firstTimestamp signatureNode kind with
  | none => {}
  | some ts =>
    match (firstToken ts).map fun enc => base64Decode (trimmedText enc) with
    | some ⟨token, true⟩ =>
      match stampedContent lib doc position signatureNode kind ts with
      | .error e => { check := { present := true }, notes := [kind.contentFailure e] }
      | .ok tbs =>
        let vr := validateToken token (textBytes tbs)
        { check := { present := true, checked := true, valid := vr.valid }
          token := token
          content := textBytes tbs
          notes := if vr.valid then [] else [kind.elementName ++ ": " ++ vr.message] }
    | _ =>
      { check := { present := true }
        notes := [kind.elementName ++ ": missing/invalid EncapsulatedTimeStamp"] }

/-- The fields of `XadesVerificationResult` for timestamps. -/
structure TimestampResults where
  signatureTimestampPresent : Bool := false
  signatureTimestampChecked : Bool := false
  signatureTimestampValid : Bool := false
  tspChecked : Bool := false
  timestampsValid : Bool := false
  archiveTimestampsValid : Bool := false
  timestampTokenCount : Nat := 0
  signatureTimestampTokenDer : Bytes := []
  signatureTimestampCanonicalizedData : Bytes := []
  notes : List String := []
  deriving DecidableEq, Repr

/-- The part of `VerifyOneXadesSignature` about timestamps; it is not reached without signed
properties. -/
def timestampResults : TimestampResults :=
  match findFirstXadesElementInSubtree signatureNode "SignedProperties" with
  | none => {}
  | some _ =>
    let sigTs := checkTimestamp validateToken lib doc position signatureNode .signature
    let sarTs := checkTimestamp validateToken lib doc position signatureNode .sigAndRefs
    let archTs := checkTimestamp validateToken lib doc position signatureNode .archive
    let states := [sigTs.check, sarTs.check, archTs.check]
    { signatureTimestampPresent := sigTs.check.present
      signatureTimestampChecked := sigTs.check.present
      signatureTimestampValid := sigTs.check.valid
      tspChecked := sigTs.check.checked || sarTs.check.checked || archTs.check.checked
      timestampsValid := (states.any fun s => s.present) &&
        states.all fun s => !s.present || (s.checked && s.valid)
      archiveTimestampsValid := archTs.check.valid
      timestampTokenCount :=
        countElementsInSubtreeBy (isXadesElementNamed "EncapsulatedTimeStamp") signatureNode
      signatureTimestampTokenDer := sigTs.token
      signatureTimestampCanonicalizedData := sigTs.content
      notes := sigTs.notes ++ sarTs.notes ++ archTs.notes }

/-! ### The tokens -/

def tokens : List XmlNode :=
  signatureNode.preorder.filter (matching (isXadesElementNamed "EncapsulatedTimeStamp"))

/-- The timestamp has a token, which is found valid for the content of the timestamp. -/
def InOrder (kind : TimestampKind) (ts enc : XmlNode) : Prop :=
  firstToken ts = some enc ∧
    ∃ token tbs, base64Decode (trimmedText enc) = ⟨token, true⟩ ∧
      stampedContent lib doc position signatureNode kind ts = .ok tbs ∧
      (validateToken token (textBytes tbs)).valid = true

/-- The token was checked and found valid for its own content. -/
def CheckedValid (enc : XmlNode) : Prop :=
  ∃ kind ts, firstTimestamp signatureNode kind = some ts ∧
    InOrder validateToken lib doc position signatureNode kind ts enc

/-- A positive verdict speaks for every token, and there is one. -/
def EveryTokenCounts : Prop :=
  (timestampResults validateToken lib doc position signatureNode).timestampsValid = true →
    tokens signatureNode ≠ [] ∧
    ∀ enc ∈ tokens signatureNode, CheckedValid validateToken lib doc position signatureNode enc

def LookedAt (enc : XmlNode) : Prop :=
  ∃ kind ts, firstTimestamp signatureNode kind = some ts ∧ firstToken ts = some enc

def Readable (kind : TimestampKind) (ts : XmlNode) : Prop :=
  ∃ enc token tbs, firstToken ts = some enc ∧ base64Decode (trimmedText enc) = ⟨token, true⟩ ∧
    stampedContent lib doc position signatureNode kind ts = .ok tbs

/-- There is something to check, and all of it can be checked. -/
structure Checkable : Prop where
  signedProperties : findFirstXadesElementInSubtree signatureNode "SignedProperties" ≠ none
  some_timestamp : ∃ kind, firstTimestamp signatureNode kind ≠ none
  readable : ∀ kind ts, firstTimestamp signatureNode kind = some ts →
    Readable lib doc position signatureNode kind ts

end Verifier

section Tokens

variable {lib doc} {validateToken : Bytes → Bytes → TokenVerdict} {position : Nat}
  {signatureNode : XmlNode}

theorem mem_tokens_of_lookedAt {enc : XmlNode} (h : LookedAt signatureNode enc) :
    enc ∈ tokens signatureNode := by
  obtain ⟨kind, ts, hts, henc⟩ := h
  have hmem := (findFirstElementInSubtreeBy_mem hts).1
  obtain ⟨hbelow, hname⟩ := findFirstElementBy_mem henc
  refine mem_filter.mpr ⟨?_, hname⟩
  rcases mem_cons.mp hmem with rfl | hdesc
  · exact mem_cons_of_mem _ hbelow
  · have hsub := (preorderForest_sublist hdesc).mem (mem_cons_of_mem _ hbelow)
    exact mem_cons_of_mem _ hsub

theorem checkTimestamp_none {kind : TimestampKind} (h : firstTimestamp signatureNode kind = none) :
    (checkTimestamp validateToken lib doc position signatureNode kind).check = {} := by
  simp only [checkTimestamp, h]

/-- **One kind**: its first timestamp counts as in order when its first token is found
valid. -/
theorem checkTimestamp_ok_iff {kind : TimestampKind} {ts : XmlNode}
    (h : firstTimestamp signatureNode kind = some ts) :
    (checkTimestamp validateToken lib doc position signatureNode kind).check.present = true ∧
    (((checkTimestamp validateToken lib doc position signatureNode kind).check.checked &&
        (checkTimestamp validateToken lib doc position signatureNode kind).check.valid) = true ↔
      ∃ enc, InOrder validateToken lib doc position signatureNode kind ts enc) := by
  simp only [checkTimestamp, h]
  cases htoken : firstToken ts with
  | none =>
    refine ⟨rfl, iff_of_false (by simp) ?_⟩
    rintro ⟨enc, henc, -⟩
    rw [htoken] at henc
    cases henc
  | some enc =>
    -- the only token that can be in order is the one that was found
    have hsame : ∀ {enc'}, InOrder validateToken lib doc position signatureNode kind ts enc' →
        enc' = enc := fun h' => Option.some.inj (h'.1.symm.trans htoken)
    cases hdecode : base64Decode (trimmedText enc) with
    | mk token ok =>
      simp only [Option.map_some, hdecode]
      cases ok with
      | false =>
        refine ⟨rfl, iff_of_false (by simp) ?_⟩
        rintro ⟨enc', hin⟩
        obtain rfl := hsame hin
        obtain ⟨-, token', tbs, hdecode', -⟩ := hin
        rw [hdecode] at hdecode'
        cases hdecode'
      | true =>
        cases hcontent : stampedContent lib doc position signatureNode kind ts with
        | error e =>
          refine ⟨rfl, iff_of_false (by simp) ?_⟩
          rintro ⟨enc', -, token', tbs, -, hcontent', -⟩
          rw [hcontent] at hcontent'
          cases hcontent'
        | ok tbs =>
          refine ⟨rfl, ?_⟩
          constructor
          · exact fun hvalid => ⟨enc, htoken, token, tbs, hdecode, hcontent, hvalid⟩
          rintro ⟨enc', hin⟩
          obtain rfl := hsame hin
          obtain ⟨-, token', tbs', hdecode', hcontent', hvalid⟩ := hin
          rw [hdecode] at hdecode'
          rw [hcontent] at hcontent'
          cases hdecode'
          cases hcontent'
          exact hvalid

theorem check_all_iff (kind : TimestampKind) :
    (!(checkTimestamp validateToken lib doc position signatureNode kind).check.present ||
      ((checkTimestamp validateToken lib doc position signatureNode kind).check.checked &&
        (checkTimestamp validateToken lib doc position signatureNode kind).check.valid)) = true ↔
      ∀ ts, firstTimestamp signatureNode kind = some ts →
        ∃ enc, InOrder validateToken lib doc position signatureNode kind ts enc := by
  cases hts : firstTimestamp signatureNode kind with
  | none =>
    rw [checkTimestamp_none hts]
    exact iff_of_true rfl nofun
  | some ts =>
    obtain ⟨hpresent, hok⟩ := @checkTimestamp_ok_iff lib doc validateToken position signatureNode _ _ hts
    rw [hpresent, Bool.not_true, Bool.false_or, hok]
    simp

theorem check_present_iff (kind : TimestampKind) :
    (checkTimestamp validateToken lib doc position signatureNode kind).check.present = true ↔
      firstTimestamp signatureNode kind ≠ none := by
  cases hts : firstTimestamp signatureNode kind with
  | none =>
    rw [checkTimestamp_none hts]
    exact iff_of_false Bool.false_ne_true fun h => h rfl
  | some ts => exact iff_of_true (checkTimestamp_ok_iff hts).1 (Option.some_ne_none ts)

/-- **The verdict over the three kinds.** -/
theorem timestampsValid_iff :
    (timestampResults validateToken lib doc position signatureNode).timestampsValid = true ↔
      findFirstXadesElementInSubtree signatureNode "SignedProperties" ≠ none ∧
      (∃ kind, firstTimestamp signatureNode kind ≠ none) ∧
      ∀ kind ts, firstTimestamp signatureNode kind = some ts →
        ∃ enc, InOrder validateToken lib doc position signatureNode kind ts enc := by
  cases hsp : findFirstXadesElementInSubtree signatureNode "SignedProperties" with
  | none =>
    simp only [timestampResults, hsp]
    exact iff_of_false Bool.false_ne_true fun h => h.1 rfl
  | some sp =>
    have hany : (checkTimestamp validateToken lib doc position signatureNode .signature).check.present
          = true ∨
        (checkTimestamp validateToken lib doc position signatureNode .sigAndRefs).check.present
          = true ∨
        (checkTimestamp validateToken lib doc position signatureNode .archive).check.present = true ↔
        ∃ kind, firstTimestamp signatureNode kind ≠ none := by
      rw [check_present_iff, check_present_iff, check_present_iff]
      constructor
      · rintro (h | h | h) <;> exact ⟨_, h⟩
      · rintro ⟨kind, h⟩
        cases kind with
        | signature => exact .inl h
        | sigAndRefs => exact .inr (.inl h)
        | archive => exact .inr (.inr h)
    have hall := fun kind => @check_all_iff lib doc validateToken position signatureNode kind
    simp only [timestampResults, hsp, any_cons, any_nil, Bool.or_false, all_cons,
      all_nil, Bool.and_true]
    rw [Bool.and_eq_true, Bool.or_eq_true, Bool.or_eq_true, hany, Bool.and_eq_true,
      Bool.and_eq_true, hall, hall, hall]
    constructor
    · rintro ⟨hsome, h₁, h₂, h₃⟩
      refine ⟨Option.some_ne_none sp, hsome, fun kind => ?_⟩
      cases kind with
      | signature => exact h₁
      | sigAndRefs => exact h₂
      | archive => exact h₃
    · rintro ⟨-, hsome, h⟩
      exact ⟨hsome, h _, h _, h _⟩

theorem Checkable.accepted (h : Checkable lib doc position signatureNode) :
    (timestampResults (fun _ _ => ⟨true, ""⟩) lib doc position signatureNode).timestampsValid =
      true := by
  refine timestampsValid_iff.mpr ⟨h.signedProperties, h.some_timestamp, fun kind ts hts => ?_⟩
  obtain ⟨enc, token, tbs, henc, hdecode, hcontent⟩ := h.readable kind ts hts
  exact ⟨enc, henc, token, tbs, hdecode, hcontent, rfl⟩

theorem checkable_of_valid
    (h : (timestampResults validateToken lib doc position signatureNode).timestampsValid = true) :
    Checkable lib doc position signatureNode := by
  obtain ⟨hsp, hsome, hall⟩ := timestampsValid_iff.mp h
  refine ⟨hsp, hsome, fun kind ts hts => ?_⟩
  obtain ⟨enc, henc, token, tbs, hdecode, hcontent, -⟩ := hall kind ts hts
  exact ⟨enc, token, tbs, henc, hdecode, hcontent⟩

end Tokens

/-- **Every timestamp counts** for a signature, whatever the tokens are worth, exactly if its
timestamps cannot be checked at all or the verifier looks at every token. -/
theorem every_token_counts_iff (lib : LibXml2) (doc : XmlDocument) (position : Nat)
    (signatureNode : XmlNode) :
    (∀ validateToken, EveryTokenCounts validateToken lib doc position signatureNode) ↔
      (Checkable lib doc position signatureNode →
        ∀ enc ∈ tokens signatureNode, LookedAt signatureNode enc) := by
  constructor
  · intro h hcheckable enc henc
    obtain ⟨-, hall⟩ := h _ hcheckable.accepted
    obtain ⟨kind, ts, hts, hin⟩ := hall enc henc
    exact ⟨kind, ts, hts, hin.1⟩
  · intro h validateToken hvalid
    obtain ⟨-, ⟨kind, hkind⟩, hall⟩ := timestampsValid_iff.mp hvalid
    constructor
    · obtain ⟨ts, hts⟩ := Option.ne_none_iff_exists'.mp hkind
      obtain ⟨enc, hin⟩ := hall kind ts hts
      exact ne_nil_of_mem (mem_tokens_of_lookedAt ⟨kind, ts, hts, hin.1⟩)
    · intro enc henc
      obtain ⟨kind, ts, hts, hfirst⟩ := h (checkable_of_valid hvalid) enc henc
      obtain ⟨enc', hin⟩ := hall kind ts hts
      obtain rfl : enc' = enc := Option.some.inj (hin.1.symm.trans hfirst)
      exact ⟨kind, ts, hts, hin⟩

/-! ### A second timestamp -/

def timestampTree (token : String) : XmlTree :=
  let ns := some "http://uri.etsi.org/01903/v1.3.2#"
  elementTree ns "SignatureTimeStamp" []
    [elementTree ns "EncapsulatedTimeStamp" [] [.leaf (.text token)]]

def twiceStamped : XmlNode where
  path := [0, 0]
  label := { name := "Signature", ns := some dsigNamespace, attrs := [] }
  children :=
    [dsText "SignatureValue" "AQ==",
      elementTree (some "http://uri.etsi.org/01903/v1.3.2#") "SignedProperties" [] [],
      timestampTree "AQ==", timestampTree "Ag=="]

def twiceStampedDocument : XmlDocument where
  nodes := [elementTree none "document" [] [.node twiceStamped.label twiceStamped.children]]

/-- A libxml2 that canonicalises everything to one text. -/
def constantLib : LibXml2 where
  readMemory := fun _ => none
  serializeNode := fun _ _ => ""
  c14nSubtrees := fun _ _ _ _ => some "content"
  c14nDocument := fun _ _ _ => none

def onlyFirstValid (token _content : Bytes) : TokenVerdict := ⟨token == [1], "token refused"⟩

/-- **The second timestamp is ignored**: its token is refused, and the verdict is positive
over two tokens. -/
theorem second_timestamp_ignored :
    (timestampResults onlyFirstValid constantLib twiceStampedDocument 1 twiceStamped).timestampsValid
        = true ∧
      (timestampResults onlyFirstValid constantLib twiceStampedDocument 1
        twiceStamped).timestampTokenCount = 2 ∧
      ¬ EveryTokenCounts onlyFirstValid constantLib twiceStampedDocument 1 twiceStamped := by
  have hvalid : (timestampResults onlyFirstValid constantLib twiceStampedDocument 1
      twiceStamped).timestampsValid = true := by decide +kernel
  refine ⟨hvalid, by decide +kernel, fun h => ?_⟩
  have hplace : ∀ kind, ((firstTimestamp twiceStamped kind).bind firstToken).map Node.path ≠
      some [0, 3, 0, 0] := by
    intro kind
    cases kind <;> decide +kernel
  have hsecond : [0, 3, 0, 0] ∈ (tokens twiceStamped).map Node.path := by decide +kernel
  obtain ⟨enc, henc, hpath⟩ := mem_map.mp hsecond
  obtain ⟨kind, ts, hts, hin⟩ := (h hvalid).2 enc henc
  refine hplace kind ?_
  rw [hts, Option.bind_some, hin.1, Option.map_some, hpath]

end Tamga.Xades
