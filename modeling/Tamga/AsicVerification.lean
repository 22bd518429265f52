/-
Verifying an ASiC-E container with CAdES signatures (`SessionAsicOps.ipp`:
`FindAsicEReferencedFiles`, `Session::VerifyFileAsicE`).

Each signature is resolved to the data objects it is about and to the octets it is
checked over: the manifest, if it lists digests, and otherwise the one data object.
The loop over the signatures keeps the first structural error, the files that
verified signatures cover, and the report of the last call of `VerifyData`.

* `resolveSignature_ok` — what a resolved signature refers to;
* `run_spec` — what the loop has established after any number of signatures;
* `verifyFileAsicE_valid_iff` — what a positive verdict says;
* `asicE_cades_sound_iff` — when a positive verdict binds the bytes of every data
  file;
* `report_speaks_for_all_iff` — when the published report speaks for every
  signature.
-/
import Tamga.AsicContainers
import Tamga.CmsVerification
import Tamga.SignerAggregation
import Tamga.XmlReference

namespace Tamga.Session

open Util Zip Xml XmlDsig Asic List

/-- The libraries that a container is verified with. -/
structure ContainerLib where
  xml : LibXml2
  crypto : XmlCrypto
  /-- `ValidateTimestampToken`, its `valid`. -/
  tokenValid : Bytes → Bytes → Bool

/-! ### References -/

/-- `META-INF/signatures*.xml`. -/
def isXadesSignature (name : String) : Bool :=
  startsWithText name "META-INF/signatures" && ".xml".toList.isSuffixOf name.toList

def containerHasXadesSignature (container : Container) : Bool :=
  (readEntries container).any fun e => isXadesSignature e.name

def xmlDsigUriToDigest (uri : String) : Option ImprintDigest :=
  if containsText uri "kupyna256" || containsText uri "kupyna-256" || containsText uri "dstu7564" then
    some .kupyna256
  else if containsText uri "gost34311" then some .gost34311
  else if containsText uri "sha256" then some .sha256
  else none

variable (lib : LibXml2) (crypto : XmlCrypto)

def asicManifestDigestMatches (ref : AsicDataObjectRef) (data : Bytes) : Except String Unit := do
  let alg ← orError (xmlDsigUriToDigest ref.digestUri)
    ("непідтримуваний DigestMethod: " ++ ref.digestUri)
  let expected := base64Decode ref.digestBase64
  require (expected.ok = true ∧ expected.bytes ≠ []) "DigestValue не є коректним base64"
  let actual ← crypto.computeImprint alg data
  require (actual = expected.bytes) "обчислений геш не збігається зі значенням у маніфесті"

def normalizeAsicReference (value : String) : String :=
  let decoded :=
    match normalizeAsicEntryUri value with
    | .ok decoded => decoded
    | .error _ => value
  String.ofList (decoded.toList.dropWhile (· == '/'))

/-- The loop that fills `normalized_to_raw`, for either way to normalize a name. -/
def indexNames (normalize : String → String) : List AsicFileEntry → List (String × String) →
    Except String (List (String × String))
  | [], index => .ok index
  | f :: rest, index => do
    let normalized := normalize f.name
    let existing := (index.lookup normalized).getD f.name
    require (existing = f.name)
      ("ASiC-E контейнер містить неоднозначні entry-імена: '" ++ existing ++ "' і '" ++ f.name ++
        "' нормалізуються до однакового URI '" ++ normalized ++ "'")
    indexNames normalize rest (index ++ [(normalized, f.name)])

/-- The loop over the references, with the names that were referenced before. -/
def resolveRefs (files : List AsicFileEntry) (index : List (String × String)) :
    List AsicDataObjectRef → List String → Except String (List AsicFileEntry)
  | [], _ => .ok []
  | ref :: rest, referencedNames => do
    let dataUri := normalizeAsicReference ref.uri
    let raw ← orError (index.lookup dataUri)
      ("ASiC-E manifest references a missing data object: " ++ dataUri)
    require (raw ∉ referencedNames)
      ("ASiC-E manifest references the same data object more than once: " ++ dataUri)
    let file ← orError (files.find? fun f => f.name = raw)
      ("ASiC-E manifest references a missing data object: " ++ dataUri)
    let later ← resolveRefs files index rest (raw :: referencedNames)
    .ok (file :: later)

/-- The signature that the manifest names is the one it stands beside. -/
def namesSignature (sigUri sigFilename : String) : Prop :=
  let uri := normalizeAsicReference sigUri
  let name := normalizeAsicReference sigFilename
  ¬ (uri ≠ "" ∧ uri ≠ name ∧ normalizeAsicReference ("META-INF/" ++ uri) ≠ name)

instance (sigUri sigFilename : String) : Decidable (namesSignature sigUri sigFilename) :=
  inferInstanceAs (Decidable (¬ _))

variable (content : AsicEContent) (s : Asic.SignatureEntry)

/-- The part of `FindAsicEReferencedFiles` for a signature with a manifest. -/
def manifestReferencedFiles : Except String (List AsicFileEntry) := do
  let manifest ← orError (parseAsicManifestXml lib s.manifestXml)
    "ASiC-E signature manifest cannot be parsed"
  require (namesSignature manifest.sigUri s.sigFilename)
    "ASiC-E manifest signature reference does not match signature entry"
  require (manifest.dataRefs ≠ [])
    "ASiC-E signature manifest must reference at least one signed data object"
  let index ← indexNames normalizeAsicReference content.files []
  resolveRefs content.files index manifest.dataRefs []

def findAsicEReferencedFiles : Except String (List AsicFileEntry) :=
  if s.signatureData = [] then .error "ASiC-E signature entry is empty"
  else if s.manifestXml = [] then
    match content.files with
    | [file] => .ok [file]
    | _ => .error "ASiC-E signature has no manifest for multi-file container"
  else manifestReferencedFiles lib content s

/-- What a signature is about, and what it is checked over.  Without digests there are
no references, and the octets are those of the data object. -/
structure SignedParts where
  files : List AsicFileEntry
  refs : List AsicDataObjectRef
  signedBytes : Bytes
  deriving DecidableEq, Repr

def manifestRefs : List AsicDataObjectRef :=
  ((parseAsicManifestXml lib s.manifestXml).map AsicManifest.dataRefs).getD []

def hasAnyDigest (refs : List AsicDataObjectRef) : Bool :=
  refs.any fun r => r.digestUri != "" || r.digestBase64 != ""

def hasAllDigests (refs : List AsicDataObjectRef) : Bool :=
  refs != [] && refs.all fun r => r.digestUri != "" && r.digestBase64 != ""

def firstData (files : List AsicFileEntry) : Bytes := (files.head?.map AsicFileEntry.data).getD []

/-- The part of the loop of `VerifyFileAsicE` before the signature is checked. -/
def resolveSignature : Except String SignedParts := do
  let files ← findAsicEReferencedFiles lib content s
  let refs := manifestRefs lib s
  require (¬ (hasAnyDigest refs = true ∧ hasAllDigests refs = false))
    "ASiC-E manifest must provide DigestMethod and DigestValue for every data object"
  require (hasAllDigests refs = true ∨ files.length = 1)
    "Legacy ASiC-E direct signature must reference exactly one data object"
  .ok (if hasAllDigests refs then ⟨files, refs, s.manifestXml⟩ else ⟨files, [], firstData files⟩)

def checkDigests (crypto : XmlCrypto) : List (AsicDataObjectRef × AsicFileEntry) → Except String Unit
  | [] => .ok ()
  | (ref, file) :: rest =>
    match asicManifestDigestMatches crypto ref file.data with
    | .error e =>
      .error ("ASiC-E manifest digest does not match the data object '" ++ file.name ++ "': " ++ e)
    | .ok _ => checkDigests crypto rest

def SignedParts.digests (parts : SignedParts) : Except String Unit :=
  checkDigests crypto (parts.refs.zip parts.files)

/-! ### The loop over the signatures -/

/-- The variables of the loop; the report is the one of the session. -/
structure LoopState where
  allValid : Bool := true
  structuralError : String := ""
  signatureEntries : List SignatureEntry := []
  validCount : Nat := 0
  coveredFiles : List String := []
  report : VerifyReport := {}

def LoopState.firstError (st : LoopState) (error : String) : String :=
  if st.structuralError = "" then error else st.structuralError

def LoopState.reject (st : LoopState) (error : String) : LoopState :=
  { st with
    allValid := false
    structuralError := st.firstError error
    signatureEntries := st.signatureEntries ++ [{ index := st.signatureEntries.length + 1 }] }

/-- The entry of a signature that was checked; its timestamps are those of the
report. -/
def checkedEntry (index : Nat) (valid : Bool) (call : VerifyCall) : SignatureEntry :=
  if call.executed then
    { index := index
      signatureValid := valid
      timestampChecked := call.report.timestampChecked
      timestampValid := call.report.timestampValid
      timestampStatus := call.report.timestampStatus
      timestampDetails := call.report.timestampDetails.map
        fun d => { d with signatureIndex := index } }
  else { index := index, signatureValid := valid }

/-- A signature that was checked.  The digests are looked at only if the signature
itself is valid. -/
def LoopState.record (st : LoopState) (files : List AsicFileEntry) (call : VerifyCall)
    (digests : Except String Unit) : LoopState :=
  let checked := call.executed && call.isValid
  let valid := checked && digests.toOption.isSome
  { allValid := st.allValid && valid
    structuralError :=
      match checked, digests with
      | true, .error e => st.firstError e
      | _, _ => st.structuralError
    signatureEntries :=
      st.signatureEntries ++ [checkedEntry (st.signatureEntries.length + 1) valid call]
    validCount := if valid then st.validCount + 1 else st.validCount
    coveredFiles :=
      if valid then st.coveredFiles ++ files.map AsicFileEntry.name else st.coveredFiles
    report := call.report }

section Verification

variable (T : ContainerLib) (env : VerifyEnv) (E : Engines) (content : AsicEContent)

def signatureStep (st : LoopState) (s : Asic.SignatureEntry) : LoopState :=
  match resolveSignature T.xml content s with
  | .error e => st.reject e
  | .ok parts =>
    st.record parts.files (verifyData env E parts.signedBytes s.signatureData)
      (parts.digests T.crypto)

def signatureLoop : LoopState := content.signatures.foldl (signatureStep T env E content) {}

/-! ### The verdict and the report -/

def uncoveredFiles (st : LoopState) : List String :=
  (content.files.map AsicFileEntry.name).filter fun name => name ∉ st.coveredFiles

def baseReport (st : LoopState) : VerifyReport :=
  if st.structuralError ≠ "" then
    { setVerifyReport "VerifyFileAsicE" true false .invalidArgument st.structuralError with
      containerMalformed := true }
  else if st.report.hasResult then { st.report with operation := "VerifyFileAsicE" }
  else st.report

def containerReport (st : LoopState) : VerifyReport :=
  let complete := (uncoveredFiles content st).isEmpty
  let r := aggregatePerSignerTimestamps
    { baseReport st with signatures := st.signatureEntries }
  { r with
    containerType := "ASiC-E"
    containerCoverageComplete := complete
    coverageStatus := if complete then "complete" else "container-object-not-signed"
    message := r.message ++ "; signaturesTotal=" ++ toString content.signatures.length ++
      "; signaturesValid=" ++ toString st.validCount ++ "; containerCoverageComplete=" ++
      (if complete then "true"
        else "false; uncovered=[" ++ ", ".intercalate (uncoveredFiles content st) ++ "]") }

/-- The timestamp of the container is checked against the first signature. -/
def applyContainerTimestamp (r : VerifyReport) : VerifyReport :=
  let signature := (content.signatures.head?.map Asic.SignatureEntry.signatureData).getD []
  let verdict := tryCanonicalTimestampVerdict env E content.timestampData signature "" {}
  let detail := { (verdict.map CanonicalVerdict.detail).getD {} with kind := "container" }
  let r := applyFormatTimestampVerdict
    { r with
      timestampChecked := true
      timestampDetails := r.timestampDetails ++ [detail]
      tspChecked := true }
    (T.tokenValid content.timestampData signature)
    ((verdict.map CanonicalVerdict.valid).getD false)
  appendContainerTimestampMessage ((verdict.map CanonicalVerdict.reason).getD "") r

/-- The part of `VerifyFileAsicE` after the container was unpacked. -/
def verifyContent : VerifyCall :=
  let st := signatureLoop T env E content
  let isValid := st.allValid && !content.signatures.isEmpty && (uncoveredFiles content st).isEmpty
  let report := containerReport content st
  ⟨true, isValid,
    if isValid ∧ content.timestampData ≠ [] then applyContainerTimestamp T env E content report
    else report⟩

end Verification

/-- `Session::VerifyFileAsicE` on the octets of the file; a container with XAdES
signatures takes the other route. -/
def verifyFileAsicE (T : ContainerLib) (env : VerifyEnv) (E : Engines)
    (verifyFileAsicEXades : Container → VerifyCall) (container : Container) : VerifyCall :=
  if env.initialized = false then
    ⟨false, false, setVerifyReport "VerifyFileAsicE" false false .notInitialized
      "Session is not initialized"⟩
  else if containerHasXadesSignature container then verifyFileAsicEXades container
  else match unpackE T.xml container with
  | .error e =>
    ⟨false, false, setVerifyReport "VerifyFileAsicE" false false .invalidArgument
      ("ASiC-E unpack failed: " ++ e)⟩
  | .ok content =>
    if content.files = [] ∨ content.signatures = [] then
      ⟨true, false, setVerifyReport "VerifyFileAsicE" true false .none
        (if content.files = [] then "ASiC-E container has no files to verify"
          else "ASiC-E container has no signatures to verify")⟩
    else verifyContent T env E content

/-! ### What a resolved signature refers to -/

theorem mem_of_lookup {index : List (String × String)} {key value : String}
    (h : index.lookup key = some value) : (key, value) ∈ index := by
  obtain ⟨before, after, rfl, -⟩ := lookup_eq_some_iff.mp h
  exact mem_append_right _ (mem_cons_self ..)

def Functional (index : List (String × String)) : Prop :=
  ∀ p ∈ index, ∀ q ∈ index, p.1 = q.1 → p.2 = q.2

def namePair (normalize : String → String) (f : AsicFileEntry) : String × String :=
  (normalize f.name, f.name)

theorem functional_snoc {index : List (String × String)} {key value : String}
    (h : Functional index) (hexisting : (index.lookup key).getD value = value) :
    Functional (index ++ [(key, value)]) := by
  have hold : ∀ p ∈ index, p.1 = key → p.2 = value := by
    rintro ⟨k, v⟩ hp rfl
    obtain ⟨w, hw⟩ := Option.isSome_iff_exists.mp
      (lookup_isSome_iff.mpr ⟨(k, v), hp, beq_self_eq_true k⟩)
    rw [hw] at hexisting
    obtain rfl : w = value := hexisting
    exact h _ hp _ (mem_of_lookup hw) rfl
  intro p hp q hq heq
  rw [mem_append, mem_singleton] at hp hq
  rcases hp with hp | rfl <;> rcases hq with hq | rfl
  · exact h p hp q hq heq
  · exact hold p hp heq
  · exact (hold q hq heq.symm).symm
  · rfl

theorem indexNames_ok {normalize : String → String} :
    ∀ {files : List AsicFileEntry} {index index' : List (String × String)},
      indexNames normalize files index = .ok index' → Functional index →
        index' = index ++ files.map (namePair normalize) ∧ Functional index' := by
  intro files
  induction files with
  | nil =>
    intro index index' h hfun
    obtain rfl := Except.ok.inj h
    exact ⟨by simp, hfun⟩
  | cons f rest ih =>
    intro index index' h hfun
    simp only [indexNames, bind_eq_ok, require_eq_ok] at h
    obtain ⟨-, hexisting, hrest⟩ := h
    obtain ⟨hindex, hfun'⟩ := ih hrest (functional_snoc hfun hexisting)
    refine ⟨?_, hfun'⟩
    rw [hindex, append_assoc]
    rfl

def RefersTo (ref : AsicDataObjectRef) (f : AsicFileEntry) : Prop :=
  f ∈ content.files ∧ normalizeAsicReference ref.uri = normalizeAsicReference f.name

variable {content}

theorem resolveRefs_ok :
    ∀ {refs : List AsicDataObjectRef} {seen : List String} {out : List AsicFileEntry},
      resolveRefs content.files (content.files.map (namePair normalizeAsicReference)) refs seen =
          .ok out →
        List.Forall₂ (RefersTo content) refs out ∧ (out.map AsicFileEntry.name).Nodup ∧
          ∀ f ∈ out, f.name ∉ seen := by
  intro refs
  induction refs with
  | nil =>
    intro seen out h
    obtain rfl := Except.ok.inj h
    exact ⟨.nil, nodup_nil, by simp⟩
  | cons ref rest ih =>
    intro seen out h
    simp only [resolveRefs, bind_eq_ok, orError_eq_ok, require_eq_ok] at h
    obtain ⟨raw, hlookup, -, hnew, file, hfind, later, hrest, hout⟩ := h
    obtain rfl := Except.ok.inj hout
    obtain ⟨hrefers, hnodup, hseen⟩ := ih hrest
    have hname : file.name = raw := by simpa using List.find?_some hfind
    -- the key of `raw` is its own normal form
    obtain ⟨g, -, hg⟩ := mem_map.mp (mem_of_lookup hlookup)
    obtain ⟨hkey, hraw⟩ := Prod.mk.inj hg
    refine ⟨.cons ⟨mem_of_find?_eq_some hfind, ?_⟩ hrefers, ?_, ?_⟩
    · rw [hname, ← hraw, hkey]
    · rw [map_cons, nodup_cons]
      refine ⟨?_, hnodup⟩
      rintro hmem
      obtain ⟨f, hf, hfname⟩ := mem_map.mp hmem
      exact hseen f hf (mem_cons.mpr (Or.inl (hfname.trans hname)))
    · intro f hf
      rcases mem_cons.mp hf with rfl | hf
      · rw [hname]
        exact hnew
      · exact fun hmem => hseen f hf (mem_cons_of_mem _ hmem)

/-- No reference of the manifest is ambiguous, dangling or repeated. -/
structure ReferencesResolve (content : AsicEContent) (refs : List AsicDataObjectRef) : Prop where
  unambiguous : ∀ f ∈ content.files, ∀ g ∈ content.files,
    normalizeAsicReference f.name = normalizeAsicReference g.name → f.name = g.name
  present : ∀ ref ∈ refs, ∃ f ∈ content.files,
    normalizeAsicReference ref.uri = normalizeAsicReference f.name
  once : (refs.map fun r => normalizeAsicReference r.uri).Nodup

/-- What the reference step has found for a signature. -/
inductive Referenced (lib : LibXml2) (content : AsicEContent) (s : Asic.SignatureEntry)
    (files : List AsicFileEntry) : Prop
  | sole (hnone : manifestRefs lib s = []) (f : AsicFileEntry) (hcontent : content.files = [f])
      (hfiles : files = [f])
  | listed (hresolve : ReferencesResolve content (manifestRefs lib s))
      (hfiles : List.Forall₂ (RefersTo content) (manifestRefs lib s) files)

theorem nodup_uris {refs : List AsicDataObjectRef} {out : List AsicFileEntry}
    (hrefers : List.Forall₂ (RefersTo content) refs out)
    (hnodup : (out.map AsicFileEntry.name).Nodup)
    (hunambiguous : ∀ f ∈ content.files, ∀ g ∈ content.files,
      normalizeAsicReference f.name = normalizeAsicReference g.name → f.name = g.name) :
    (refs.map fun r => normalizeAsicReference r.uri).Nodup := by
  have hkeys : (refs.map fun r => normalizeAsicReference r.uri) =
      (out.map AsicFileEntry.name).map normalizeAsicReference := by
    rw [map_map, ← forall₂_eq_eq_eq, forall₂_map_left_iff,
      forall₂_map_right_iff]
    exact hrefers.imp fun _ _ h => h.2
  rw [hkeys]
  refine hnodup.map_on fun x hx y hy heq => ?_
  obtain ⟨f, hf, rfl⟩ := mem_map.mp hx
  obtain ⟨g, hg, rfl⟩ := mem_map.mp hy
  obtain ⟨-, -, hf', -⟩ := exists_left hrefers hf
  obtain ⟨-, -, hg', -⟩ := exists_left hrefers hg
  exact hunambiguous f hf' g hg' heq

variable {s} {files : List AsicFileEntry}

theorem findAsicEReferencedFiles_ok {lib : LibXml2}
    (h : findAsicEReferencedFiles lib content s = .ok files) :
    Referenced lib content s files := by
  rw [findAsicEReferencedFiles] at h
  by_cases hdata : s.signatureData = []
  · rw [if_pos hdata] at h
    cases h
  rw [if_neg hdata] at h
  by_cases hxml : s.manifestXml = []
  · rw [if_pos hxml] at h
    split at h
    next f hf =>
      obtain rfl := Except.ok.inj h
      refine .sole ?_ f hf rfl
      rw [manifestRefs, hxml, parseAsicManifestXml_empty]
      rfl
    next => cases h
  · rw [if_neg hxml] at h
    simp only [manifestReferencedFiles, bind_eq_ok, orError_eq_ok, require_eq_ok] at h
    obtain ⟨manifest, hparse, -, -, -, -, index, hindex, hrefs⟩ := h
    have hlisted : manifestRefs lib s = manifest.dataRefs := by rw [manifestRefs, hparse]; rfl
    rw [← hlisted] at hrefs
    obtain ⟨rfl, hfun⟩ := indexNames_ok hindex (by intro p hp; cases hp)
    obtain ⟨hrefers, hnodup, -⟩ := resolveRefs_ok hrefs
    have hunambiguous : ∀ f ∈ content.files, ∀ g ∈ content.files,
        normalizeAsicReference f.name = normalizeAsicReference g.name → f.name = g.name :=
      fun f hf g hg heq => hfun _ (mem_map_of_mem hf) _ (mem_map_of_mem hg) heq
    refine .listed ⟨hunambiguous, ?_, nodup_uris hrefers hnodup hunambiguous⟩ hrefers
    intro ref href
    obtain ⟨f, -, hf⟩ := exists_right hrefers href
    exact ⟨f, hf⟩

/-- A resolved signature is checked over its manifest, whose references with their
digests stand for the files, or over the one file it is about. -/
inductive Resolved (lib : LibXml2) (content : AsicEContent) (s : Asic.SignatureEntry)
    (parts : SignedParts) : Prop
  | manifest (hrefs : List.Forall₂ (RefersTo content) parts.refs parts.files)
      (hlisted : parts.refs = manifestRefs lib s) (hne : parts.refs ≠ [])
      (hsigned : parts.signedBytes = s.manifestXml)
      (hresolve : ReferencesResolve content (manifestRefs lib s))
  | direct (f : AsicFileEntry) (hf : f ∈ content.files) (hfiles : parts.files = [f])
      (hrefs : parts.refs = []) (hsigned : parts.signedBytes = f.data)
      (hresolve : manifestRefs lib s ≠ [] → ReferencesResolve content (manifestRefs lib s))

theorem resolveSignature_ok {lib : LibXml2} {parts : SignedParts}
    (h : resolveSignature lib content s = .ok parts) : Resolved lib content s parts := by
  simp only [resolveSignature, bind_eq_ok, require_eq_ok] at h
  obtain ⟨files, hfiles, -, -, -, hone, hparts⟩ := h
  obtain rfl := Except.ok.inj hparts
  have hreferenced := findAsicEReferencedFiles_ok hfiles
  by_cases hall : hasAllDigests (manifestRefs lib s) = true
  · rw [if_pos hall]
    have hne : manifestRefs lib s ≠ [] := by
      rintro hnil
      rw [hnil] at hall
      cases hall
    cases hreferenced with
    | sole hnone f hcontent hsole => exact absurd hnone hne
    | listed hresolve hrefers => exact .manifest hrefers rfl hne rfl hresolve
  · rw [if_neg hall]
    obtain ⟨f, rfl⟩ := length_eq_one_iff.mp (hone.resolve_left hall)
    cases hreferenced with
    | sole hnone f' hcontent hsole =>
      obtain rfl : f = f' := singleton_inj.mp hsole
      have hmem : f ∈ content.files := hcontent ▸ mem_singleton_self f
      exact .direct f hmem rfl rfl rfl fun hne => absurd hnone hne
    | listed hresolve hrefers =>
      refine .direct f ?_ rfl rfl rfl fun _ => hresolve
      obtain ⟨ref, refs, hhead, -⟩ := forall₂_cons_right_iff.mp hrefers
      exact hhead.1

/-! ### The loop, signature by signature -/

theorem namedFailure_indexNames (normalize : String → String) :
    ∀ (files : List AsicFileEntry) (index : List (String × String)),
      NamedFailure (indexNames normalize files index) := by
  intro files
  induction files with
  | nil => exact fun index => namedFailure_ok index
  | cons f rest ih =>
    intro index
    refine (namedFailure_require ?_).bind fun _ => ih _
    simp only [String.append_assoc]
    exact append_ne_empty _ (by decide)

theorem namedFailure_resolveRefs (files : List AsicFileEntry) (index : List (String × String)) :
    ∀ (refs : List AsicDataObjectRef) (seen : List String),
      NamedFailure (resolveRefs files index refs seen) := by
  intro refs
  induction refs with
  | nil => exact fun seen => namedFailure_ok []
  | cons ref rest ih =>
    intro seen
    refine (namedFailure_orError (append_ne_empty _ (by decide))).bind fun raw => ?_
    refine (namedFailure_require (append_ne_empty _ (by decide))).bind fun _ => ?_
    refine (namedFailure_orError (append_ne_empty _ (by decide))).bind fun file => ?_
    exact (ih _).bind fun later => namedFailure_ok _

variable (content s) in
theorem namedFailure_findAsicEReferencedFiles :
    NamedFailure (findAsicEReferencedFiles lib content s) := by
  rw [findAsicEReferencedFiles]
  split
  · exact namedFailure_error (by decide)
  split
  · split
    · exact namedFailure_ok _
    · exact namedFailure_error (by decide)
  refine (namedFailure_orError (by decide)).bind fun manifest => ?_
  refine (namedFailure_require (by decide)).bind fun _ => ?_
  refine (namedFailure_require (by decide)).bind fun _ => ?_
  exact (namedFailure_indexNames _ _ _).bind fun index => namedFailure_resolveRefs _ _ _ _

variable (content s) in
theorem namedFailure_resolveSignature : NamedFailure (resolveSignature lib content s) := by
  refine (namedFailure_findAsicEReferencedFiles lib content s).bind fun files => ?_
  refine (namedFailure_require (by decide)).bind fun _ => ?_
  exact (namedFailure_require (by decide)).bind fun _ => namedFailure_ok _

theorem namedFailure_checkDigests :
    ∀ pairs : List (AsicDataObjectRef × AsicFileEntry), NamedFailure (checkDigests crypto pairs) := by
  intro pairs
  induction pairs with
  | nil => exact namedFailure_ok ()
  | cons pair rest ih =>
    rw [checkDigests]
    split
    · refine namedFailure_error ?_
      simp only [String.append_assoc]
      exact append_ne_empty _ (by decide)
    · exact ih

theorem checkDigests_ok {crypto : XmlCrypto} {u : Unit} :
    ∀ {pairs : List (AsicDataObjectRef × AsicFileEntry)}, checkDigests crypto pairs = .ok u ↔
      ∀ p ∈ pairs, asicManifestDigestMatches crypto p.1 p.2.data = .ok () := by
  intro pairs
  induction pairs with
  | nil => simp [checkDigests]
  | cons p rest ih =>
    rw [checkDigests, forall_mem_cons]
    cases hmatch : asicManifestDigestMatches crypto p.1 p.2.data with
    | error e => simp
    | ok v => simpa using ih

section Loop

variable (T : ContainerLib) (env : VerifyEnv) (E : Engines) (content : AsicEContent)

/-- `VerifyData` has run and accepts the signature over the octets. -/
def cmsVerified (data signature : Bytes) : Bool :=
  (verifyData env E data signature).executed && (verifyData env E data signature).isValid

/-- The signature resolves to the parts, its CMS is valid over them, and their digests
match. -/
structure VerifiesOver (s : Asic.SignatureEntry) (parts : SignedParts) : Prop where
  resolved : resolveSignature T.xml content s = .ok parts
  signed : cmsVerified env E parts.signedBytes s.signatureData = true
  digests : parts.digests T.crypto = .ok ()

def Verifies (s : Asic.SignatureEntry) : Prop := ∃ parts, VerifiesOver T env E content s parts

inductive Faulty (s : Asic.SignatureEntry) : Prop
  | unresolved (e : String) (h : resolveSignature T.xml content s = .error e)
  | mismatch (parts : SignedParts) (e : String) (h : resolveSignature T.xml content s = .ok parts)
      (hsigned : cmsVerified env E parts.signedBytes s.signatureData = true)
      (hdigests : parts.digests T.crypto = .error e)

structure LoopFacts (signatures : List Asic.SignatureEntry) (st : LoopState) : Prop where
  allValid : st.allValid = true ↔ ∀ s ∈ signatures, Verifies T env E content s
  noError : st.structuralError = "" ↔ ∀ s ∈ signatures, ¬ Faulty T env E content s
  covered : ∀ name, name ∈ st.coveredFiles ↔ ∃ s ∈ signatures, ∃ parts,
    VerifiesOver T env E content s parts ∧ name ∈ parts.files.map AsicFileEntry.name

variable {T env E content}

theorem firstError_eq_empty {st : LoopState} {e : String} (he : e ≠ "") : st.firstError e ≠ "" := by
  rw [LoopState.firstError]
  split
  · exact he
  · assumption

theorem LoopFacts.snoc {signatures : List Asic.SignatureEntry}
    {st st' : LoopState} (h : LoopFacts T env E content signatures st)
    (hvalid : st'.allValid = true ↔ st.allValid = true ∧ Verifies T env E content s)
    (herror : st'.structuralError = "" ↔ st.structuralError = "" ∧ ¬ Faulty T env E content s)
    (hcovered : ∀ name, name ∈ st'.coveredFiles ↔ name ∈ st.coveredFiles ∨ ∃ parts,
      VerifiesOver T env E content s parts ∧ name ∈ parts.files.map AsicFileEntry.name) :
    LoopFacts T env E content (signatures ++ [s]) st' := by
  refine ⟨?_, ?_, fun name => ?_⟩
  · rw [hvalid, h.allValid, forall_mem_append, forall_mem_singleton]
  · rw [herror, h.noError, forall_mem_append, forall_mem_singleton]
  · rw [hcovered, h.covered]
    simp only [mem_append, mem_singleton, or_and_right, exists_or, exists_eq_left]

section Resolved

variable {parts parts' : SignedParts} (h : resolveSignature T.xml content s = .ok parts)

include h

theorem verifiesOver_iff : VerifiesOver T env E content s parts' ↔
    parts' = parts ∧ cmsVerified env E parts.signedBytes s.signatureData = true ∧
      parts.digests T.crypto = .ok () := by
  constructor
  · rintro ⟨hresolved, hsigned, hdigests⟩
    obtain rfl := Except.ok.inj (hresolved.symm.trans h)
    exact ⟨rfl, hsigned, hdigests⟩
  · rintro ⟨rfl, hsigned, hdigests⟩
    exact ⟨h, hsigned, hdigests⟩

theorem faulty_iff : Faulty T env E content s ↔
    cmsVerified env E parts.signedBytes s.signatureData = true ∧
      ∃ e, parts.digests T.crypto = .error e := by
  constructor
  · rintro (⟨e, he⟩ | ⟨parts', e, hresolved, hsigned, hdigests⟩)
    · cases h.symm.trans he
    · obtain rfl := Except.ok.inj (hresolved.symm.trans h)
      exact ⟨hsigned, e, hdigests⟩
  · rintro ⟨hsigned, e, hdigests⟩
    exact .mismatch parts e h hsigned hdigests

end Resolved

/-- The ways in which the check of a signature can end: it cannot be resolved, its CMS
is not valid, a digest does not match, or it verifies. -/
theorem LoopFacts.step {signatures : List Asic.SignatureEntry} {st : LoopState}
    (h : LoopFacts T env E content signatures st) (s : Asic.SignatureEntry) :
    LoopFacts T env E content (signatures ++ [s]) (signatureStep T env E content st s) := by
  rw [signatureStep]
  cases hresolve : resolveSignature T.xml content s with
  | error e =>
    have hno : ∀ parts, ¬ VerifiesOver T env E content s parts := by
      intro parts hover
      cases hresolve.symm.trans hover.resolved
    refine h.snoc (by simp [LoopState.reject, Verifies, hno]) ?_ (by simp [LoopState.reject, hno])
    refine iff_of_false ?_ fun hv => hv.2 (.unresolved e hresolve)
    exact firstError_eq_empty (namedFailure_resolveSignature _ _ _ e hresolve)
  | ok parts =>
    have hfaulty := @faulty_iff s T env E content parts hresolve
    show LoopFacts T env E content _ (st.record parts.files
      (verifyData env E parts.signedBytes s.signatureData) (parts.digests T.crypto))
    cases hsigned : cmsVerified env E parts.signedBytes s.signatureData with
    | false =>
      have hchecked := hsigned
      rw [cmsVerified] at hchecked
      refine h.snoc ?_ ?_ fun name => ?_
      · simp [LoopState.record, hchecked, Verifies, verifiesOver_iff hresolve, hsigned]
      · simp [LoopState.record, hchecked, hfaulty, hsigned]
      · simp [LoopState.record, hchecked, verifiesOver_iff hresolve, hsigned]
    | true =>
      have hchecked := hsigned
      rw [cmsVerified] at hchecked
      cases hdigests : parts.digests T.crypto with
      | error e =>
        have hne := @firstError_eq_empty st e (namedFailure_checkDigests _ _ e hdigests)
        refine h.snoc ?_ ?_ fun name => ?_
        · simp [LoopState.record, hchecked, Except.toOption, Verifies, verifiesOver_iff hresolve,
            hdigests]
        · simp [LoopState.record, hchecked, hne, hfaulty, hsigned, hdigests]
        · simp [LoopState.record, hchecked, Except.toOption, verifiesOver_iff hresolve, hdigests]
      | ok u =>
        refine h.snoc ?_ ?_ fun name => ?_
        · simp [LoopState.record, hchecked, Except.toOption, Verifies, verifiesOver_iff hresolve,
            hsigned, hdigests]
        · simp [LoopState.record, hchecked, hfaulty, hdigests]
        · simp [LoopState.record, hchecked, Except.toOption, verifiesOver_iff hresolve, hsigned,
            hdigests]

theorem run_spec : ∀ (rest signatures : List Asic.SignatureEntry) (st : LoopState),
    LoopFacts T env E content signatures st →
      LoopFacts T env E content (signatures ++ rest)
        (rest.foldl (signatureStep T env E content) st) := by
  intro rest
  induction rest with
  | nil =>
    intro signatures st h
    rw [append_nil]
    exact h
  | cons s rest ih =>
    intro signatures st h
    have hstep := ih (signatures ++ [s]) _ (h.step s)
    rw [append_assoc] at hstep
    exact hstep

theorem signatureLoop_facts :
    LoopFacts T env E content content.signatures (signatureLoop T env E content) :=
  run_spec content.signatures [] {} ⟨by simp, by simp, by simp⟩

end Loop

/-! ### What a positive verdict says -/

section Verdict

variable {T : ContainerLib} {env : VerifyEnv} {E : Engines}
  {verifyFileAsicEXades : Container → VerifyCall} {container : Container}

theorem verifyContent_valid_iff (hne : content.signatures ≠ []) :
    (verifyContent T env E content).isValid = true ↔
      (∀ s ∈ content.signatures, Verifies T env E content s) ∧
        ∀ f ∈ content.files, ∃ s ∈ content.signatures, ∃ parts,
          VerifiesOver T env E content s parts ∧ f.name ∈ parts.files.map AsicFileEntry.name := by
  have hfacts := @signatureLoop_facts T env E content
  have hempty : content.signatures.isEmpty = false := by simpa using hne
  show (_ && _ && _) = true ↔ _
  rw [hempty, Bool.not_false, Bool.and_true, Bool.and_eq_true, hfacts.allValid,
    List.isEmpty_iff, uncoveredFiles, filter_eq_nil_iff]
  refine and_congr_right fun _ => ?_
  simp only [forall_mem_map, decide_eq_true_eq, not_not, hfacts.covered]

theorem verifyFileAsicE_of_unpack (hinit : env.initialized = true)
    (hcades : containerHasXadesSignature container = false)
    (hunpack : unpackE T.xml container = .ok content) :
    verifyFileAsicE T env E verifyFileAsicEXades container = verifyContent T env E content := by
  obtain ⟨-, -, -, -, -, -, hfiles, hsigs⟩ := unpackE_eq_ok.mp hunpack
  rw [verifyFileAsicE, hinit, if_neg (by decide), hcades, if_neg (by decide), hunpack]
  exact if_neg (not_or.mpr ⟨hfiles, hsigs⟩)

theorem verifyFileAsicE_valid_iff (hcades : containerHasXadesSignature container = false) :
    (verifyFileAsicE T env E verifyFileAsicEXades container).isValid = true ↔
      env.initialized = true ∧ ∃ content, unpackE T.xml container = .ok content ∧
        (∀ s ∈ content.signatures, Verifies T env E content s) ∧
        ∀ f ∈ content.files, ∃ s ∈ content.signatures, ∃ parts,
          VerifiesOver T env E content s parts ∧ f.name ∈ parts.files.map AsicFileEntry.name := by
  cases hinit : env.initialized with
  | false =>
    rw [verifyFileAsicE, if_pos hinit]
    simp
  | true =>
    cases hunpack : unpackE T.xml container with
    | error e =>
      rw [verifyFileAsicE, hinit, if_neg (by decide), hcades, if_neg (by decide), hunpack]
      simp
    | ok content =>
      obtain ⟨-, -, -, -, -, -, -, hsigs⟩ := unpackE_eq_ok.mp hunpack
      rw [verifyFileAsicE_of_unpack hinit hcades hunpack, verifyContent_valid_iff hsigs]
      simp only [true_and, Except.ok.injEq, exists_eq_left']

end Verdict

/-! ### Bytes bound by a signature -/

section Bound

variable (T : ContainerLib) (env : VerifyEnv) (E : Engines) (content : AsicEContent)

/-- The octets are what the signature was checked over, as the one file it is about;
or it was checked over its manifest, which lists them with their digest. -/
structure BoundBy (s : Asic.SignatureEntry) (parts : SignedParts) (name : String) (data : Bytes) :
    Prop where
  resolved : resolveSignature T.xml content s = .ok parts
  signed : cmsVerified env E parts.signedBytes s.signatureData = true
  binds :
    (parts.files.map AsicFileEntry.name = [name] ∧ parts.refs = [] ∧ parts.signedBytes = data) ∨
    (parts.signedBytes = s.manifestXml ∧ ∃ ref ∈ parts.refs,
      normalizeAsicReference ref.uri = normalizeAsicReference name ∧
      asicManifestDigestMatches T.crypto ref data = .ok ())

def Bound (name : String) (data : Bytes) : Prop :=
  ∃ s ∈ content.signatures, ∃ parts, BoundBy T env E content s parts name data

/-- What a positive verdict should mean for an archive and its content. -/
structure SoundVerdict (zip : Archive) : Prop where
  signed : content.signatures ≠ []
  verified : ∀ s ∈ content.signatures, ∃ parts, resolveSignature T.xml content s = .ok parts ∧
    cmsVerified env E parts.signedBytes s.signatureData = true
  references : ∀ s ∈ content.signatures, manifestRefs T.xml s ≠ [] →
    ReferencesResolve content (manifestRefs T.xml s)
  bound : ∀ e ∈ fileEntries zip.entries, entryKind e.statName = .document →
    ∃ data, e.extracted = some data ∧ Bound T env E content e.statName data

/-- Whatever the CMS checks say, only their outcome stands between the content and a
positive verdict: the signatures resolve, the digests match, all files are referred
to. -/
structure Coverable : Prop where
  resolved : ∀ s ∈ content.signatures, ∃ parts, resolveSignature T.xml content s = .ok parts ∧
    parts.digests T.crypto = .ok ()
  covered : ∀ f ∈ content.files, ∃ s ∈ content.signatures, ∃ parts,
    resolveSignature T.xml content s = .ok parts ∧ f.name ∈ parts.files.map AsicFileEntry.name

variable {T env E content}

theorem digest_injective (hfree : T.crypto.CollisionFree) {ref : AsicDataObjectRef} {a b : Bytes}
    (ha : asicManifestDigestMatches T.crypto ref a = .ok ())
    (hb : asicManifestDigestMatches T.crypto ref b = .ok ()) : a = b := by
  simp only [asicManifestDigestMatches, bind_eq_ok, orError_eq_ok, require_eq_ok] at ha hb
  obtain ⟨alg, halg, -, -, h, hdigest, rfl⟩ := ha
  obtain ⟨alg', halg', -, -, h', hdigest', rfl⟩ := hb
  obtain rfl : alg = alg' := Option.some.inj (halg.symm.trans halg')
  -- without a certificate the digest is the plain imprint
  have hplain : ∀ d, T.crypto.computeImprintByCertificate [] alg d = T.crypto.computeImprint alg d :=
    fun d => if_pos (Or.inr rfl)
  exact hfree [] alg a b _ ((hplain a).trans hdigest) ((hplain b).trans hdigest')

theorem eq_of_name {f g : AsicFileEntry} (hnodup : (content.files.map AsicFileEntry.name).Nodup)
    (hf : f ∈ content.files) (hg : g ∈ content.files) (h : f.name = g.name) : f = g := by
  have hfind := find?_name_of_mem hnodup hf
  rw [h, find?_name_of_mem hnodup hg] at hfind
  exact (Option.some.inj hfind).symm

theorem bound_of_covered (hnodup : (content.files.map AsicFileEntry.name).Nodup)
    {parts : SignedParts} {f : AsicFileEntry} (hf : f ∈ content.files)
    (hover : VerifiesOver T env E content s parts)
    (hname : f.name ∈ parts.files.map AsicFileEntry.name) :
    BoundBy T env E content s parts f.name f.data := by
  refine ⟨hover.resolved, hover.signed, ?_⟩
  obtain ⟨g, hg, hgname⟩ := mem_map.mp hname
  cases resolveSignature_ok hover.resolved with
  | manifest hrefs hlisted hne hsigned hresolve =>
    obtain ⟨ref, hpair, hrefers⟩ := exists_left hrefs hg
    have hmatch := checkDigests_ok.mp hover.digests _ hpair
    rw [eq_of_name hnodup hrefers.1 hf hgname] at hmatch
    refine Or.inr ⟨hsigned, ref, (of_mem_zip hpair).1, ?_, hmatch⟩
    rw [hrefers.2, hgname]
  | direct h hh hfiles hrefs hsigned hresolve =>
    rw [hfiles, mem_singleton] at hg
    obtain rfl : g = f := eq_of_name hnodup (hg ▸ hh) hf hgname
    refine Or.inl ⟨?_, hrefs, by rw [hsigned, hg]⟩
    rw [hfiles, ← hg]
    rfl

/-- In a coverable content nothing but the octets that were read for a file can be
bound under its name. -/
theorem eq_of_bound (hfree : T.crypto.CollisionFree)
    (hnodup : (content.files.map AsicFileEntry.name).Nodup) (hcov : Coverable T content)
    {f : AsicFileEntry} (hf : f ∈ content.files) {data : Bytes}
    (h : Bound T env E content f.name data) : data = f.data := by
  obtain ⟨s, hs, parts, hparts, -, hbinds⟩ := h
  obtain ⟨parts', hparts', hdigests⟩ := hcov.resolved s hs
  obtain rfl : parts = parts' := Except.ok.inj (hparts.symm.trans hparts')
  rcases hbinds with ⟨hname, hnone, rfl⟩ | ⟨-, ref, href, huri, hmatch⟩
  · cases resolveSignature_ok hparts with
    | manifest hrefs hlisted hne => exact absurd hnone hne
    | direct g hg hfiles hrefs hsigned hresolve =>
      rw [hfiles] at hname
      obtain rfl : g = f := eq_of_name hnodup hg hf (singleton_inj.mp hname)
      exact hsigned
  · cases resolveSignature_ok hparts with
    | direct g hg hfiles hrefs =>
      rw [hrefs] at href
      cases href
    | manifest hrefs hlisted hne hsigned hresolve =>
      obtain ⟨g, hpair, hrefers⟩ := exists_right hrefs href
      have hsame : g.name = f.name :=
        hresolve.unambiguous _ hrefers.1 _ hf (hrefers.2.symm.trans huri)
      have hread := checkDigests_ok.mp hdigests _ hpair
      rw [eq_of_name hnodup hrefers.1 hf hsame] at hread
      exact digest_injective hfree hmatch hread

end Bound

/-! ### CMS checks with given outcomes -/

/-- A session whose CMS checks end as `accept` says, for the data and the signature. -/
def outcomesEnv (accept : Bytes → Bytes → Bool) : VerifyEnv where
  initialized := true
  settings := {}
  cms :=
    { decode := fun _ => .ok ⟨[some []], []⟩
      verifySigner := fun data signature _ => .ok (accept data signature)
      rcError := id
      extractSigningTime := fun _ => none }
  enrichWithAiaIssuers := fun _ embedded => embedded
  timestampAnchors := {}

theorem cmsVerified_outcomesEnv {accept : Bytes → Bytes → Bool} {E : Engines}
    {data signature : Bytes} :
    cmsVerified (outcomesEnv accept) E data signature = accept data signature := by
  have hverify : verifyCms (outcomesEnv accept).cms data signature =
      .ok (cmsVerdict ⟨[some []], []⟩ [] [⟨1, accept data signature, []⟩]) := rfl
  have hinit : ¬ (outcomesEnv accept).initialized = false := by simp [outcomesEnv]
  rw [cmsVerified, verifyData, if_neg hinit, hverify]
  cases h : accept data signature <;> rfl

def silentEngines : Engines := ⟨fun _ _ _ => {}, fun _ => {}⟩

/-! ### Soundness of the verdict -/

section Soundness

variable {T : ContainerLib} {container : Container} {zip : Archive}
  (hload : loadFromBuffer container = .ok zip) (hunpack : unpackE T.xml container = .ok content)

include hload hunpack

theorem nodup_files : (content.files.map AsicFileEntry.name).Nodup := by
  obtain ⟨zip', entries, hload', -, hfiles, rfl, -, -⟩ := unpackE_eq_ok.mp hunpack
  obtain rfl : zip = zip' := Except.ok.inj (hload.symm.trans hload')
  exact (nodup_of_getFiles (loadFromBuffer_eq_ok.mp hload).2.2 hfiles).sublist
    (filter_sublist.map _)

theorem document_of_entry {e : ZipEntry} (he : e ∈ fileEntries zip.entries)
    (hkind : entryKind e.statName = .document) :
    ∃ f ∈ content.files, f.name = e.statName ∧
      ∃ g, zip.locator.locateFile e.statName = some g ∧ g.extracted = some f.data := by
  obtain ⟨zip', entries, hload', -, hfiles, rfl, -, -⟩ := unpackE_eq_ok.mp hunpack
  obtain rfl : zip = zip' := Except.ok.inj (hload.symm.trans hload')
  obtain ⟨f, hf, hname, hdata⟩ := file_of_entry hfiles he
  rw [extractFile_eq_ok, cString_statName] at hdata
  exact ⟨f, mem_ofKind.mpr ⟨hf, hname ▸ hkind⟩, hname, hdata⟩

theorem sound_of_valid {env : VerifyEnv} {E : Engines}
    (hall : ∀ s ∈ content.signatures, Verifies T env E content s)
    (hcovered : ∀ f ∈ content.files, ∃ s ∈ content.signatures, ∃ parts,
      VerifiesOver T env E content s parts ∧ f.name ∈ parts.files.map AsicFileEntry.name)
    (hown : ∀ e ∈ fileEntries zip.entries, entryKind e.statName = .document →
      ∃ g, zip.locator.locateFile e.statName = some g ∧ g.extracted = e.extracted) :
    SoundVerdict T env E content zip where
  signed := (unpackE_eq_ok.mp hunpack).choose_spec.choose_spec.2.2.2.2.2
  verified s hs := by
    obtain ⟨parts, hover⟩ := hall s hs
    exact ⟨parts, hover.resolved, hover.signed⟩
  references s hs hne := by
    obtain ⟨parts, hover⟩ := hall s hs
    cases resolveSignature_ok hover.resolved with
    | manifest hrefs hlisted hne' hsigned hresolve => exact hresolve
    | direct f hf hfiles hrefs hsigned hresolve => exact hresolve hne
  bound e he hkind := by
    obtain ⟨f, hf, hname, g, hlocate, hdata⟩ := document_of_entry hload hunpack he hkind
    obtain ⟨g', hlocate', hsame⟩ := hown e he hkind
    obtain rfl : g = g' := Option.some.inj (hlocate.symm.trans hlocate')
    obtain ⟨s, hs, parts, hover, hmem⟩ := hcovered f hf
    refine ⟨f.data, hsame.symm.trans hdata, s, hs, parts, ?_⟩
    rw [← hname]
    exact bound_of_covered (nodup_files hload hunpack) hf hover hmem

end Soundness

/-- With a XAdES signature in the container, the other route may accept whatever the CAdES
signatures are. -/
theorem no_xades_of_sound {T : ContainerLib} {container : Container}
    (h : ∀ verifyFileAsicEXades env E,
      (verifyFileAsicE T env E verifyFileAsicEXades container).isValid = true →
        ∃ zip content, loadFromBuffer container = .ok zip ∧ unpackE T.xml container = .ok content ∧
          SoundVerdict T env E content zip) :
    containerHasXadesSignature container = false := by
  by_contra hxades
  rw [Bool.not_eq_false] at hxades
  have hvalid : (verifyFileAsicE T (outcomesEnv fun _ _ => false) silentEngines
      (fun _ => ⟨true, true, {}⟩) container).isValid = true := by
    rw [verifyFileAsicE, if_neg (by decide), if_pos hxades]
  obtain ⟨zip, content, -, -, hsound⟩ := h _ _ _ hvalid
  obtain ⟨s, hs⟩ := exists_mem_of_ne_nil _ hsound.signed
  obtain ⟨parts, -, hcms⟩ := hsound.verified s hs
  rw [cmsVerified_outcomesEnv] at hcms
  cases hcms

/-- **Soundness of the ASiC-E CAdES verdict.**  Whatever the CMS checks and the XAdES route say, a
positive verdict binds the bytes of every data file exactly if there is no XAdES signature in the
container, and the content cannot be covered or every data entry is read with its own bytes. -/
theorem asicE_cades_sound_iff (T : ContainerLib) (container : Container)
    (hfree : T.crypto.CollisionFree) :
    (∀ verifyFileAsicEXades env E,
      (verifyFileAsicE T env E verifyFileAsicEXades container).isValid = true →
        ∃ zip content, loadFromBuffer container = .ok zip ∧ unpackE T.xml container = .ok content ∧
          SoundVerdict T env E content zip) ↔
    containerHasXadesSignature container = false ∧
    ∀ zip content, loadFromBuffer container = .ok zip → unpackE T.xml container = .ok content →
      Coverable T content → ∀ e ∈ fileEntries zip.entries, entryKind e.statName = .document →
        ∃ f, zip.locator.locateFile e.statName = some f ∧ f.extracted = e.extracted := by
  constructor
  · intro h
    have hcades := no_xades_of_sound h
    refine ⟨hcades, fun zip content hload hunpack hcov e he hkind => ?_⟩
    -- all CMS checks succeed
    have hover : ∀ s ∈ content.signatures, ∀ parts,
        resolveSignature T.xml content s = .ok parts →
          VerifiesOver T (outcomesEnv fun _ _ => true) silentEngines content s parts := by
      intro s hs parts hparts
      obtain ⟨parts', hparts', hdigests⟩ := hcov.resolved s hs
      obtain rfl : parts = parts' := Except.ok.inj (hparts.symm.trans hparts')
      exact ⟨hparts, cmsVerified_outcomesEnv, hdigests⟩
    have hvalid : (verifyFileAsicE T (outcomesEnv fun _ _ => true) silentEngines
        (fun _ => ⟨false, false, {}⟩) container).isValid = true := by
      refine (verifyFileAsicE_valid_iff hcades).mpr ⟨rfl, content, hunpack, ?_, ?_⟩
      · intro s hs
        obtain ⟨parts, hparts, -⟩ := hcov.resolved s hs
        exact ⟨parts, hover s hs parts hparts⟩
      · intro f hf
        obtain ⟨s, hs, parts, hparts, hmem⟩ := hcov.covered f hf
        exact ⟨s, hs, parts, hover s hs parts hparts, hmem⟩
    obtain ⟨zip', content', hload', hunpack', hsound⟩ := h _ _ _ hvalid
    obtain rfl : zip = zip' := Except.ok.inj (hload.symm.trans hload')
    obtain rfl : content = content' := Except.ok.inj (hunpack.symm.trans hunpack')
    obtain ⟨f, hf, hname, g, hlocate, hdata⟩ := document_of_entry hload hunpack he hkind
    obtain ⟨data, hown, hbound⟩ := hsound.bound e he hkind
    rw [← hname] at hbound
    have heq := eq_of_bound hfree (nodup_files hload hunpack) hcov hf hbound
    exact ⟨g, hlocate, by rw [hdata, hown, heq]⟩
  · rintro ⟨hcades, h⟩ xades env E hvalid
    obtain ⟨-, content, hunpack, hall, hcovered⟩ := (verifyFileAsicE_valid_iff hcades).mp hvalid
    obtain ⟨zip, -, hload, -⟩ := unpackE_eq_ok.mp hunpack
    refine ⟨zip, content, hload, hunpack, sound_of_valid hload hunpack hall hcovered ?_⟩
    refine h zip content hload hunpack ⟨fun s hs => ?_, fun f hf => ?_⟩
    · obtain ⟨parts, hover⟩ := hall s hs
      exact ⟨parts, hover.resolved, hover.digests⟩
    · obtain ⟨s, hs, parts, hover, hmem⟩ := hcovered f hf
      exact ⟨s, hs, parts, hover.resolved, hmem⟩

/-- Digests are the octets themselves, and no token is valid. -/
def identityLib (known : List (String × XmlDocument)) : ContainerLib where
  xml := manifestLib known
  crypto :=
    { computeImprint := fun _ data => .ok data
      certificateImprint := fun _ data => .ok data
      verifyRsaPkcs1 := fun _ _ _ _ => ⟨false, false, ""⟩
      verifyHash := fun _ _ _ => ⟨false, false, ""⟩ }
  tokenValid _ _ := false

theorem identityLib_collisionFree (known : List (String × XmlDocument)) :
    (identityLib known).crypto.CollisionFree := by
  have hplain : ∀ (cert : Der) (alg : ImprintDigest) (data : Bytes),
      (identityLib known).crypto.computeImprintByCertificate cert alg data = .ok data := by
    intro cert alg data
    rw [XmlCrypto.computeImprintByCertificate]
    split <;> rfl
  intro cert alg a b h ha hb
  rw [hplain] at ha hb
  exact (Except.ok.inj ha).trans (Except.ok.inj hb).symm

def digestRef (uri : String) (data : Bytes) : AsicDataObjectRef :=
  ⟨uri, "", "http://www.w3.org/2001/04/xmlenc#sha256", base64Encode data⟩

/-- A container of the given data files with one signature over the manifest. -/
def oneSignature (files : List ZipEntry) : List ZipEntry :=
  storedEntry "mimetype" (textBytes "application/vnd.etsi.asic-e+zip") :: files ++
    [storedEntry "META-INF/ASiCManifest001.xml" (textBytes "one"),
      storedEntry "META-INF/signature001.p7s" [11]]

def oneSignatureLib (refs : List AsicDataObjectRef) : ContainerLib :=
  identityLib [("one", manifestDocument "META-INF/signature001.p7s" refs)]

def plainContainer : Container := reopened (oneSignature [storedEntry "a.txt" [1]]) (.ofScan _)

def plainLib : ContainerLib := oneSignatureLib [digestRef "a.txt" [1]]

def plainContent : AsicEContent where
  files := [⟨"a.txt", [1]⟩]
  signatures := [⟨"META-INF/signature001.p7s", [11], "META-INF/ASiCManifest001.xml",
    textBytes "one"⟩]

theorem plain_cades : containerHasXadesSignature plainContainer = false := by decide +kernel

theorem plain_unpack : unpackE plainLib.xml plainContainer = .ok plainContent := by decide +kernel

def noRoute (_ : Container) : VerifyCall := ⟨false, false, {}⟩

/-- The verdict on one listed file is positive, and it is sound. -/
theorem asicE_cades_sound_plain :
    (verifyFileAsicE plainLib (outcomesEnv fun _ _ => true) silentEngines noRoute
      plainContainer).isValid = true ∧
    ∀ route env E, (verifyFileAsicE plainLib env E route plainContainer).isValid = true →
      ∃ zip content, loadFromBuffer plainContainer = .ok zip ∧
        unpackE plainLib.xml plainContainer = .ok content ∧
        SoundVerdict plainLib env E content zip := by
  constructor
  · rw [verifyFileAsicE_of_unpack rfl plain_cades plain_unpack]
    decide +kernel
  · refine (asicE_cades_sound_iff plainLib plainContainer
      (identityLib_collisionFree _)).mpr ⟨plain_cades, ?_⟩
    intro zip content hload _ _ e he _
    obtain rfl := Option.some.inj (loadFromBuffer_eq_ok.mp hload).2.1
    exact namesSeparate_iff.mp (by decide) _ e he

/-- Two data files whose names differ in case only. -/
def signedTwins : List ZipEntry :=
  oneSignature [storedEntry "a.txt" [1], storedEntry "A.txt" [2]]

/-- The index as the heap sort of miniz leaves it. -/
def signedTwinsIndex : SortedIndex signedTwins where
  table := [storedEntry "a.txt" [1], storedEntry "A.txt" [2],
    storedEntry "META-INF/ASiCManifest001.xml" (textBytes "one"),
    storedEntry "META-INF/signature001.p7s" [11],
    storedEntry "mimetype" (textBytes "application/vnd.etsi.asic-e+zip")]
  perm := by decide
  ordered := by decide

/-- The manifest lists both twins with the digest of the first. -/
def twinsLib : ContainerLib := oneSignatureLib [digestRef "a.txt" [1], digestRef "A.txt" [1]]

def twinsContent : AsicEContent :=
  { plainContent with files := [⟨"a.txt", [1]⟩, ⟨"A.txt", [1]⟩] }

/-- The verdict is positive, and the bytes of the second twin match no digest. -/
theorem unbound_twin_accepted :
    (verifyFileAsicE twinsLib (outcomesEnv fun _ _ => true) silentEngines noRoute
      (reopened signedTwins (.ofIndex signedTwinsIndex))).isValid = true ∧
    ⟨"A.txt", [2]⟩ ∈ ownFiles signedTwins ∧
    (asicManifestDigestMatches twinsLib.crypto (digestRef "A.txt" [1]) [2]).toOption = none := by
  refine ⟨?_, by decide +kernel, by decide +kernel⟩
  have hunpack : unpackE twinsLib.xml (reopened signedTwins (.ofIndex signedTwinsIndex)) =
      .ok twinsContent := by decide +kernel
  rw [verifyFileAsicE_of_unpack rfl (by decide +kernel) hunpack]
  decide +kernel

/-! ### The report speaks for the last call -/

theorem verifyData_signatureValid {env : VerifyEnv} {E : Engines} {data signature : Bytes} :
    (verifyData env E data signature).report.signatureValid =
      cmsVerified env E data signature := by
  rw [cmsVerified, verifyData]
  split
  · rfl
  · split
    · rfl
    · rw [dataReport_signatureValid, Bool.true_and]

section Report

variable (T : ContainerLib) {env : VerifyEnv} {E : Engines} (content : AsicEContent)

theorem applyContainerTimestamp_core (r : VerifyReport) :
    (applyContainerTimestamp T env E content r).core = r.core := by
  exact (appendVerifyReportNote_core _ _ _).trans (applyFormatTimestampVerdict_core _ _ _)

theorem containerReport_signatureValid (st : LoopState) :
    (containerReport content st).signatureValid = (baseReport st).signatureValid :=
  aggregatePerSignerTimestamps_signatureValid _

theorem baseReport_signatureValid {st : LoopState} : (baseReport st).signatureValid = true ↔
      st.structuralError = "" ∧ st.report.signatureValid = true := by
  rw [baseReport]
  by_cases h : st.structuralError = ""
  · rw [if_neg (not_not.mpr h)]
    split <;> simp [h]
  · rw [if_pos h]
    simp [setVerifyReport, h]

theorem verifyContent_signatureValid : (verifyContent T env E content).report.signatureValid =
      (baseReport (signatureLoop T env E content)).signatureValid := by
  rw [verifyContent]
  split
  · exact (congrArg ReportCore.signatureValid (applyContainerTimestamp_core T content _)).trans
      (containerReport_signatureValid content _)
  · exact containerReport_signatureValid content _

/-- The octets and the signature that `VerifyData` is called with. -/
def signedCall (s : Asic.SignatureEntry) : Option (Bytes × Bytes) :=
  (resolveSignature T.xml content s).toOption.map fun parts => (parts.signedBytes, s.signatureData)

def digestsMatch (s : Asic.SignatureEntry) : Bool :=
  ((resolveSignature T.xml content s).toOption.bind fun parts =>
    (parts.digests T.crypto).toOption).isSome

def lastCall : Option (Bytes × Bytes) := content.signatures.getLast?.bind (signedCall T content)

variable {T content}

theorem signedCall_eq_some {call : Bytes × Bytes} :
    signedCall T content s = some call ↔ ∃ parts, resolveSignature T.xml content s = .ok parts ∧
      (parts.signedBytes, s.signatureData) = call := by
  rw [signedCall]
  cases resolveSignature T.xml content s <;> simp [Except.toOption]

theorem signedCall_eq_none :
    signedCall T content s = none ↔ ∃ e, resolveSignature T.xml content s = .error e := by
  rw [signedCall]
  cases resolveSignature T.xml content s <;> simp [Except.toOption]

theorem digestsMatch_iff {parts : SignedParts} (h : resolveSignature T.xml content s = .ok parts) :
    digestsMatch T content s = true ↔ parts.digests T.crypto = .ok () := by
  rw [digestsMatch, h]
  cases hdigests : parts.digests T.crypto <;> simp [Except.toOption, hdigests]

/-- Where no signature left a structural error, the last one was resolved, and the report of the
loop is the one of its call. -/
theorem lastCall_of_faultless (hne : content.signatures ≠ [])
    (hfaults : ∀ s ∈ content.signatures, ¬ Faulty T env E content s) :
    ∃ last data, content.signatures.getLast? = some last ∧
      lastCall T content = some (data, last.signatureData) ∧
      (signatureLoop T env E content).report = (verifyData env E data last.signatureData).report := by
  obtain ⟨before, last, hsplit⟩ := eq_nil_or_concat content.signatures |>.resolve_left hne
  rw [concat_eq_append] at hsplit
  have hlast : content.signatures.getLast? = some last := by rw [hsplit, List.getLast?_concat]
  cases hresolve : resolveSignature T.xml content last with
  | error e => exact absurd (.unresolved e hresolve) (hfaults last (mem_of_getLast? hlast))
  | ok parts =>
    refine ⟨last, parts.signedBytes, hlast, ?_, ?_⟩
    · rw [lastCall, hlast, Option.bind_some]
      exact signedCall_eq_some.mpr ⟨parts, hresolve, rfl⟩
    · rw [signatureLoop, hsplit, foldl_append, foldl_cons, foldl_nil, signatureStep,
        hresolve]
      rfl

theorem reported_valid_iff (hne : content.signatures ≠ []) :
    (verifyContent T env E content).report.signatureValid = true ↔
      (∀ s ∈ content.signatures, ¬ Faulty T env E content s) ∧
        ∃ data signature, lastCall T content = some (data, signature) ∧
          cmsVerified env E data signature = true := by
  rw [verifyContent_signatureValid, baseReport_signatureValid, signatureLoop_facts.noError]
  refine and_congr_right fun hfaults => ?_
  obtain ⟨last, data, -, hcall, hreport⟩ := lastCall_of_faultless hne hfaults
  rw [hreport, verifyData_signatureValid, hcall]
  simp

variable (T content) in
/-- The call of every signature is that of the last, or the report is not positive
anyway: a signature cannot be resolved, or one with the last call has a digest that
does not match. -/
def LastCallSpeaks : Prop :=
  (∃ s ∈ content.signatures, signedCall T content s = none) ∨
  (∃ s ∈ content.signatures, signedCall T content s = lastCall T content ∧
    digestsMatch T content s = false) ∨
  ∀ s ∈ content.signatures, signedCall T content s = lastCall T content

variable (T content) in
/-- Outcomes in which the last call succeeds and no other does. -/
def onlyLast : VerifyEnv :=
  outcomesEnv fun data signature => decide (some (data, signature) = lastCall T content)

theorem report_of_onlyLast (hne : content.signatures ≠ []) (h : ¬ LastCallSpeaks T content) :
    (verifyContent T (onlyLast T content) silentEngines content).report.signatureValid = true := by
  rw [LastCallSpeaks, not_or, not_or] at h
  obtain ⟨hresolved, hmatch, -⟩ := h
  have hcms : ∀ data signature, cmsVerified (onlyLast T content) silentEngines data signature =
      decide (some (data, signature) = lastCall T content) :=
    fun data signature => cmsVerified_outcomesEnv
  refine (reported_valid_iff hne).mpr ⟨?_, ?_⟩
  · rintro s hs (⟨e, he⟩ | ⟨parts, e, hparts, hsigned, hdigests⟩)
    · exact hresolved ⟨s, hs, signedCall_eq_none.mpr ⟨e, he⟩⟩
    · rw [hcms, decide_eq_true_eq] at hsigned
      refine hmatch ⟨s, hs, (signedCall_eq_some.mpr ⟨parts, hparts, rfl⟩).trans hsigned, ?_⟩
      rw [Bool.eq_false_iff, Ne, digestsMatch_iff hparts, hdigests]
      simp
  · have hlast : ∃ call, lastCall T content = some call := by
      rw [lastCall, List.getLast?_eq_some_getLast hne, Option.bind_some]
      refine Option.ne_none_iff_exists'.mp fun hnone => ?_
      exact hresolved ⟨_, getLast_mem hne, hnone⟩
    obtain ⟨⟨data, signature⟩, hcall⟩ := hlast
    exact ⟨data, signature, hcall, by rw [hcms, hcall]; simp⟩

/-- **The published report** speaks for every signature, whatever the CMS checks say,
exactly if the last call speaks for all. -/
theorem report_speaks_for_all_iff (T : ContainerLib)
    (verifyFileAsicEXades : Container → VerifyCall) (container : Container)
    (content : AsicEContent) (hcades : containerHasXadesSignature container = false)
    (hunpack : unpackE T.xml container = .ok content) :
    (∀ env E, (verifyFileAsicE T env E verifyFileAsicEXades container).report.signatureValid = true →
      ∀ s ∈ content.signatures, Verifies T env E content s) ↔
    LastCallSpeaks T content := by
  obtain ⟨-, -, -, -, -, -, -, hne⟩ := unpackE_eq_ok.mp hunpack
  constructor
  · intro h
    by_contra hspeaks
    -- only the last call succeeds: the report is positive, and so all calls are the last
    have hreport := report_of_onlyLast hne hspeaks
    have hall := h (onlyLast T content) silentEngines
      (by rw [verifyFileAsicE_of_unpack rfl hcades hunpack]; exact hreport)
    refine hspeaks (Or.inr (Or.inr fun s hs => ?_))
    obtain ⟨parts, hparts, hsigned, -⟩ := hall s hs
    rw [onlyLast, cmsVerified_outcomesEnv, decide_eq_true_eq] at hsigned
    exact (signedCall_eq_some.mpr ⟨parts, hparts, rfl⟩).trans hsigned
  · intro hspeaks env E hreport s hs
    cases hinit : env.initialized with
    | false =>
      rw [verifyFileAsicE, if_pos hinit] at hreport
      cases hreport
    | true =>
      rw [verifyFileAsicE_of_unpack hinit hcades hunpack, reported_valid_iff hne] at hreport
      obtain ⟨hfaults, data, signature, hcall, hcms⟩ := hreport
      have hverifies : ∀ x ∈ content.signatures, signedCall T content x = lastCall T content →
          Verifies T env E content x := by
        intro x hx hsame
        obtain ⟨parts, hparts, heq⟩ := signedCall_eq_some.mp (hsame.trans hcall)
        obtain ⟨rfl, rfl⟩ := Prod.mk.inj heq
        cases hdigests : parts.digests T.crypto with
        | error e => exact absurd (.mismatch parts e hparts hcms hdigests) (hfaults x hx)
        | ok u => exact ⟨parts, hparts, hcms, hdigests⟩
      rcases hspeaks with ⟨x, hx, hnone⟩ | ⟨x, hx, hsame, hmismatch⟩ | hall
      · obtain ⟨e, he⟩ := signedCall_eq_none.mp hnone
        exact absurd (.unresolved e he) (hfaults x hx)
      · obtain ⟨parts, hover⟩ := hverifies x hx hsame
        rw [(digestsMatch_iff hover.resolved).mpr hover.digests] at hmismatch
        cases hmismatch
      · exact hverifies s hs (hall s hs)

end Report

/-- Two signatures of the same data file, the second with the given octets. -/
def twoSignatures (second : Bytes) : Container :=
  reopened [storedEntry "mimetype" (textBytes "application/vnd.etsi.asic-e+zip"),
    storedEntry "a.txt" [1],
    storedEntry "META-INF/ASiCManifest001.xml" (textBytes "one"),
    storedEntry "META-INF/signature001.p7s" [11],
    storedEntry "META-INF/ASiCManifest002.xml" (textBytes "two"),
    storedEntry "META-INF/signature002.p7s" second] (.ofScan _)

def twoSignaturesLib (ref : AsicDataObjectRef) : ContainerLib :=
  identityLib [("one", manifestDocument "META-INF/signature001.p7s" [ref]),
    ("two", manifestDocument "META-INF/signature002.p7s" [ref])]

def twoSignaturesContent (second : Bytes) : AsicEContent where
  files := [⟨"a.txt", [1]⟩]
  signatures := [
    ⟨"META-INF/signature001.p7s", [11], "META-INF/ASiCManifest001.xml", textBytes "one"⟩,
    ⟨"META-INF/signature002.p7s", second, "META-INF/ASiCManifest002.xml", textBytes "two"⟩]

/-- The first signature fails and the verdict is negative, but the report, left behind
by the second, calls the signature valid. -/
theorem failed_signature_reported_valid :
    let call := verifyFileAsicE (twoSignaturesLib (digestRef "a.txt" [1]))
      (outcomesEnv fun _ signature => signature == [12]) silentEngines noRoute (twoSignatures [12])
    call.isValid = false ∧ call.report.signatureValid = true ∧
      call.report.signatures.map (·.signatureValid) = [false, true] := by
  have hunpack : unpackE (twoSignaturesLib (digestRef "a.txt" [1])).xml (twoSignatures [12]) =
      .ok (twoSignaturesContent [12]) := by decide +kernel
  rw [verifyFileAsicE_of_unpack rfl (by decide +kernel) hunpack]
  decide +kernel

/-- Two copies of one signature of the file itself: their calls are the same, and the report speaks
for both. -/
theorem report_speaks_copies :
    let T := twoSignaturesLib ⟨"a.txt", "", "", ""⟩
    let content := twoSignaturesContent [11]
    LastCallSpeaks T content ∧ ∀ env E,
      (verifyFileAsicE T env E noRoute (twoSignatures [11])).report.signatureValid = true →
        ∀ s ∈ content.signatures, Verifies T env E content s := by
  have hlast : LastCallSpeaks (twoSignaturesLib ⟨"a.txt", "", "", ""⟩) (twoSignaturesContent [11]) :=
    Or.inr (Or.inr (by decide +kernel))
  exact ⟨hlast, (report_speaks_for_all_iff _ noRoute (twoSignatures [11]) _ (by decide +kernel)
    (by decide +kernel)).mpr hlast⟩

end Tamga.Session
