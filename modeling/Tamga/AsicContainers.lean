/-
ASiC-S and ASiC-E containers (`asic/AsicContainers.cpp`): packing, unpacking, and
adding a signature.

`Pack` writes the parts of a content value as entries of an archive; `Unpack` reads
the entries and sorts them by name into documents, manifests, signatures and the
timestamp.  In ASiC-E a signature is found through a manifest that names it; only
when no manifest can be read are the signature entries taken by themselves.

* `packS_ok`, `packE_ok` — what a successful `Pack` has written;
* `unpackS_eq_ok`, `unpackE_eq_ok` — what unpacking has established;
* `unpack_keeps_signatures_iff` — which signature entries the unpacked content
  still has.
-/
import Tamga.AsicManifest
import Tamga.AsicWriter

namespace Tamga.Asic

open Util Zip Xml List

/-! ### Contents -/

structure AsicSContent where
  filename : String := ""
  fileData : Bytes := []
  signatureData : Bytes := []
  timestampData : Bytes := []
  deriving DecidableEq, Repr

/-- `AsicEContent::SignatureEntry`; the manifest is kept as its bytes. -/
structure SignatureEntry where
  sigFilename : String
  signatureData : Bytes
  manifestFilename : String := ""
  manifestXml : Bytes := []
  deriving DecidableEq, Repr

/-- `AsicEContent`; its `FileEntry` has the two fields of `AsicFileEntry`. -/
structure AsicEContent where
  files : List AsicFileEntry := []
  signatures : List SignatureEntry := []
  timestampData : Bytes := []
  deriving DecidableEq, Repr

/-! ### ASiC-S -/

variable (lib : LibXml2) (deflate : Bytes → Nat)

/-- `AsicSContainer::Pack`; the result is the directory of the archive. -/
def packS (content : AsicSContent) : Except String (List ZipEntry) := do
  require (content.filename ≠ "" ∧ content.fileData ≠ [])
    "ASiC-S requires a non-empty document name and data"
  require (content.signatureData ≠ []) "ASiC-S requires a non-empty CAdES signature"
  require (content.timestampData = [])
    ("ASiC-S CAdES must not carry META-INF/timestamp.tst beside " ++
      "META-INF/signature.p7s; the timestamp belongs inside CAdES")
  let writer : AsicWriter := { type := .asicS }
  let writer ← writer.addFile deflate ⟨content.filename, content.fileData, true⟩
    "Failed to add document to ASiC-S container"
  let writer ← writer.addFile deflate ⟨"META-INF/signature.p7s", content.signatureData, false⟩
    "Failed to add signature to ASiC-S container"
  writer.finalize deflate

/-- The data of the last entry whose name passes the test. -/
def lastData (test : String → Bool) (entries : List AsicFileEntry) : Bytes :=
  ((entries.filter fun e => test e.name).getLast?.map AsicFileEntry.data).getD []

def isMetaInf (name : String) : Bool := startsWithText name "META-INF/"

def isAsicSSignature (name : String) : Bool :=
  name == "META-INF/signatures.p7s" || name == "META-INF/signature.p7s"

def isTimestampEntry (name : String) : Bool := name == "META-INF/timestamp.tst"

/-- The entries that are neither `mimetype` nor below `META-INF/`. -/
def isDocument (name : String) : Bool := name != "mimetype" && !isMetaInf name

def documents (entries : List AsicFileEntry) : List AsicFileEntry :=
  entries.filter fun e => isDocument e.name

/-- The loop of `AsicSContainer::Unpack`. -/
def assembleS (entries : List AsicFileEntry) : AsicSContent where
  filename := ((documents entries).head?.map AsicFileEntry.name).getD ""
  fileData := ((documents entries).head?.map AsicFileEntry.data).getD []
  signatureData := lastData isAsicSSignature entries
  timestampData := lastData isTimestampEntry entries

/-- The test of the `mimetype` entry, with the label of the profile. -/
def requireMimetype (zip : Archive) (type : AsicType) (label : String) : Except String Unit :=
  require (getMimetype zip = some (textBytes type.mimetype))
    ("Invalid or missing mimetype in " ++ label ++ " container: " ++
      bytesText ((getMimetype zip).getD []))

/-- `AsicSContainer::Unpack`. -/
def unpackS (container : Container) : Except String AsicSContent := do
  let zip ← loadFromBuffer container
  requireMimetype zip .asicS "ASiC-S"
  let entries ← getFiles zip
  let content := assembleS entries
  require ((documents entries).length ≤ 1)
    ("ASiC-S container must contain exactly one data object (ETSI TS 102 918), found " ++
      toString (documents entries).length ++ ": '" ++ content.filename ++ "', '" ++
      (((documents entries)[1]?.map AsicFileEntry.name).getD "") ++ "'")
  require (¬ (content.signatureData ≠ [] ∧ content.timestampData ≠ []))
    ("ASiC-S container carries both META-INF/signature.p7s and " ++
      "META-INF/timestamp.tst; ETSI EN 319 162-1 clause 4.3.3.2 allows only one " ++
      "of them (a CAdES-T timestamp belongs inside the signature)")
  require (content.filename ≠ "" ∧ content.fileData ≠ [])
    "ASiC-S container does not contain original document"
  require (content.signatureData ≠ []) "ASiC-S container does not contain signature"
  .ok content

/-! ### ASiC-E -/

/-- The loop of `AsicEContainer::Pack` over the documents. -/
def packFiles (deflate : Bytes → Nat) : List AsicFileEntry → AsicWriter → Except String AsicWriter
  | [], writer => .ok writer
  | f :: rest, writer => do
    let writer ← writer.addFile deflate ⟨f.name, f.data, true⟩
      ("Failed to add file to ASiC-E: " ++ f.name)
    packFiles deflate rest writer

/-- Its loop over the signatures: the manifest, then the signature. -/
def packSignatures (deflate : Bytes → Nat) :
    List SignatureEntry → AsicWriter → Except String AsicWriter
  | [], writer => .ok writer
  | s :: rest, writer => do
    require (s.manifestXml ≠ [])
      ("ASiC-E signature entry has no manifest: the manifest must be built " ++
        "and signed before packing (" ++ s.sigFilename ++ ")")
    let writer ← writer.addFile deflate ⟨s.manifestFilename, s.manifestXml, true⟩
      ("Failed to add manifest to ASiC-E: " ++ s.manifestFilename)
    let writer ← writer.addFile deflate ⟨s.sigFilename, s.signatureData, true⟩
      ("Failed to add signature to ASiC-E: " ++ s.sigFilename)
    packSignatures deflate rest writer

def packTimestamp (timestamp : Bytes) (writer : AsicWriter) : Except String AsicWriter :=
  if timestamp = [] then .ok writer
  else writer.addFile deflate ⟨"META-INF/timestamp.tst", timestamp, false⟩
    "Failed to add timestamp to ASiC-E container"

/-- `AsicEContainer::Pack`. -/
def packE (content : AsicEContent) : Except String (List ZipEntry) := do
  require (content.files ≠ []) "ASiC-E requires at least one document"
  require (content.signatures ≠ []) "ASiC-E requires at least one signature"
  let writer ← packFiles deflate content.files { type := .asicE }
  let writer ← packSignatures deflate content.signatures writer
  let writer ← packTimestamp deflate content.timestampData writer
  writer.finalize deflate

/-- How `AsicEContainer::Unpack` sorts an entry. -/
inductive EntryKind where
  | mimetype
  | timestamp
  | manifest
  | signature
  | document
  deriving DecidableEq, Repr

def entryKind (name : String) : EntryKind :=
  if name = "mimetype" then .mimetype
  else if name = "META-INF/timestamp.tst" then .timestamp
  else if startsWithText name "META-INF/ASiCManifest" then .manifest
  else if startsWithText name "META-INF/" then .signature
  else .document

def ofKind (kind : EntryKind) (entries : List AsicFileEntry) : List AsicFileEntry :=
  entries.filter fun e => entryKind e.name = kind

/-- A name below `META-INF/`, whether or not it says so itself. -/
def metaInfName (name : String) : String := if isMetaInf name then name else "META-INF/" ++ name

/-- The data of the first entry of the name, empty if there is none. -/
def dataNamed (entries : List AsicFileEntry) (name : String) : Bytes :=
  ((entries.find? fun e => e.name = name).map AsicFileEntry.data).getD []

/-- The two loops that look a signature up. -/
def signatureNamed (signatures : List AsicFileEntry) (sigUri : String) : Bytes :=
  if dataNamed signatures sigUri = [] then dataNamed signatures (metaInfName sigUri)
  else dataNamed signatures sigUri

/-- The signatures that the readable manifests name. -/
def manifestSignatures (manifests signatures : List AsicFileEntry) : List SignatureEntry :=
  manifests.filterMap fun m => (parseAsicManifestXml lib m.data).map fun manifest =>
    ⟨manifest.sigUri, signatureNamed signatures manifest.sigUri, m.name, m.data⟩

/-- The content that `AsicEContainer::Unpack` makes of the entries. -/
def assembleE (entries : List AsicFileEntry) : AsicEContent where
  files := ofKind .document entries
  signatures :=
    let named := manifestSignatures lib (ofKind .manifest entries) (ofKind .signature entries)
    if named = [] then (ofKind .signature entries).map fun s => ⟨s.name, s.data, "", []⟩
    else named
  timestampData := lastData isTimestampEntry entries

/-- `AsicEContainer::Unpack`. -/
def unpackE (container : Container) : Except String AsicEContent := do
  let zip ← loadFromBuffer container
  requireMimetype zip .asicE "ASiC-E"
  let entries ← getFiles zip
  let content := assembleE lib entries
  require (content.files ≠ []) "ASiC-E container does not contain any document files"
  require (content.signatures ≠ []) "ASiC-E container does not contain any signatures"
  .ok content

def addSignature (container : Container)
    (signatureData : Bytes) (sigFilename manifestFilename : String) (manifestXml : Bytes) :
    Except String (List ZipEntry) := do
  let content ← unpackE lib container
  require (∀ s ∈ content.signatures,
      ¬ (s.sigFilename = sigFilename ∨ s.sigFilename = "META-INF/" ++ sigFilename))
    ("Signature with name " ++ sigFilename ++ " already exists in container")
  packE deflate { content with
    signatures := content.signatures ++ [⟨metaInfName sigFilename, signatureData,
      metaInfName manifestFilename, manifestXml⟩] }

/-! ### What packing writes -/

def AsicSContent.items (content : AsicSContent) : List WriteItem :=
  [mimetypeItem .asicS, ⟨content.filename, content.fileData, true⟩,
    ⟨"META-INF/signature.p7s", content.signatureData, false⟩]

def fileItem (f : AsicFileEntry) : WriteItem := ⟨f.name, f.data, true⟩

def SignatureEntry.items (s : SignatureEntry) : List WriteItem :=
  [⟨s.manifestFilename, s.manifestXml, true⟩, ⟨s.sigFilename, s.signatureData, true⟩]

def timestampItems (timestamp : Bytes) : List WriteItem :=
  if timestamp = [] then [] else [⟨"META-INF/timestamp.tst", timestamp, false⟩]

def AsicEContent.items (content : AsicEContent) : List WriteItem :=
  mimetypeItem .asicE :: (content.files.map fileItem ++
    (content.signatures.flatMap SignatureEntry.items ++ timestampItems content.timestampData))

section Pack

variable {deflate}

theorem packS_ok {content : AsicSContent} {out : List ZipEntry}
    (h : packS deflate content = .ok out) :
    out = content.items.map (WriteItem.entry deflate) ∧ content.filename ≠ "" ∧
      content.fileData ≠ [] ∧ content.signatureData ≠ [] ∧ content.timestampData = [] := by
  simp only [packS, bind_eq_ok, require_eq_ok] at h
  obtain ⟨-, ⟨hname, hdata⟩, -, hsig, -, hts, w₁, h₁, w₂, h₂, hout⟩ := h
  rw [finalize_of_ne_nil (entries_ne_nil_of_addFile h₂), Except.ok.injEq,
    (started_addFile h₂).2, (started_addFile h₁).2] at hout
  exact ⟨hout.symm, hname, hdata, hsig, hts⟩

theorem packFiles_ok {files : List AsicFileEntry} :
    ∀ {w w' : AsicWriter}, packFiles deflate files w = .ok w' →
      w'.started deflate = w.started deflate ++ (files.map fileItem).map (WriteItem.entry deflate) ∧
      (files ≠ [] → w'.entries ≠ []) ∧ (w.entries ≠ [] → w'.entries ≠ []) := by
  induction files with
  | nil =>
    intro w w' h
    rw [packFiles, Except.ok.injEq] at h
    subst h
    simp
  | cons f rest ih =>
    intro w w' h
    simp only [packFiles, bind_eq_ok] at h
    obtain ⟨w₁, h₁, hrest⟩ := h
    obtain ⟨hstart, -, hkeep⟩ := ih hrest
    have hne := hkeep (entries_ne_nil_of_addFile h₁)
    refine ⟨?_, fun _ => hne, fun _ => hne⟩
    rw [hstart, (started_addFile h₁).2, append_assoc]
    rfl

theorem packSignatures_ok {signatures : List SignatureEntry} :
    ∀ {w w' : AsicWriter}, packSignatures deflate signatures w = .ok w' →
      w'.started deflate = w.started deflate ++
        (signatures.flatMap SignatureEntry.items).map (WriteItem.entry deflate) ∧
      (w.entries ≠ [] → w'.entries ≠ []) ∧ ∀ s ∈ signatures, s.manifestXml ≠ [] := by
  induction signatures with
  | nil =>
    intro w w' h
    rw [packSignatures, Except.ok.injEq] at h
    subst h
    simp
  | cons s rest ih =>
    intro w w' h
    simp only [packSignatures, bind_eq_ok, require_eq_ok] at h
    obtain ⟨-, hxml, w₁, h₁, w₂, h₂, hrest⟩ := h
    obtain ⟨hstart, hkeep, hall⟩ := ih hrest
    refine ⟨?_, fun _ => hkeep (entries_ne_nil_of_addFile h₂), ?_⟩
    · rw [hstart, (started_addFile h₂).2, (started_addFile h₁).2]
      simp [SignatureEntry.items]
    · exact forall_mem_cons.mpr ⟨hxml, hall⟩

theorem packE_ok {content : AsicEContent} {out : List ZipEntry}
    (h : packE deflate content = .ok out) :
    out = content.items.map (WriteItem.entry deflate) ∧ content.files ≠ [] ∧
      content.signatures ≠ [] ∧ ∀ s ∈ content.signatures, s.manifestXml ≠ [] := by
  simp only [packE, bind_eq_ok, require_eq_ok] at h
  obtain ⟨-, hfiles, -, hsigs, w₁, h₁, w₂, h₂, w₃, h₃, hout⟩ := h
  obtain ⟨hstart₁, hne₁, -⟩ := packFiles_ok h₁
  obtain ⟨hstart₂, hne₂, hxml⟩ := packSignatures_ok h₂
  have hne₂ := hne₂ (hne₁ hfiles)
  refine ⟨?_, hfiles, hsigs, hxml⟩
  have hinit : AsicWriter.started deflate { type := .asicE } =
      [(mimetypeItem .asicE).entry deflate] := rfl
  rw [packTimestamp] at h₃
  rw [AsicEContent.items, timestampItems]
  by_cases hts : content.timestampData = []
  · rw [if_pos hts, Except.ok.injEq] at h₃
    subst h₃
    rw [finalize_of_ne_nil hne₂, Except.ok.injEq, hstart₂, hstart₁, hinit] at hout
    simp [← hout, hts]
  · rw [if_neg hts] at h₃
    rw [finalize_of_ne_nil (entries_ne_nil_of_addFile h₃), Except.ok.injEq,
      (started_addFile h₃).2, hstart₂, hstart₁, hinit] at hout
    simp [← hout, hts]

theorem packFiles_of_writable {files : List AsicFileEntry} :
    ∀ w : AsicWriter, (∀ f ∈ files, (fileItem f).Writable) →
      ∃ w', packFiles deflate files w = .ok w' := by
  induction files with
  | nil => exact fun w _ => ⟨w, rfl⟩
  | cons f rest ih =>
    intro w h
    obtain ⟨w', hrest⟩ := ih _ fun g hg => h g (mem_cons_of_mem _ hg)
    refine ⟨w', bind_eq_ok.mpr ⟨_, addFile_eq_ok.mpr ⟨h f mem_cons_self, rfl⟩, hrest⟩⟩

theorem packSignatures_of_writable {signatures : List SignatureEntry} :
    ∀ w : AsicWriter, (∀ s ∈ signatures, s.manifestXml ≠ [] ∧ ∀ i ∈ s.items, i.Writable) →
      ∃ w', packSignatures deflate signatures w = .ok w' := by
  induction signatures with
  | nil => exact fun w _ => ⟨w, rfl⟩
  | cons s rest ih =>
    intro w h
    obtain ⟨hxml, hitems⟩ := h s mem_cons_self
    obtain ⟨w', hrest⟩ := ih _ fun t ht => h t (mem_cons_of_mem _ ht)
    refine ⟨w', bind_eq_ok.mpr ⟨(), require_eq_ok.mpr hxml, bind_eq_ok.mpr ⟨_,
      addFile_eq_ok.mpr ⟨hitems _ (by simp [SignatureEntry.items]), rfl⟩,
      bind_eq_ok.mpr ⟨_, addFile_eq_ok.mpr ⟨hitems _ (by simp [SignatureEntry.items]), rfl⟩,
        hrest⟩⟩⟩⟩

theorem packE_of_writable {content : AsicEContent} (hfiles : content.files ≠ [])
    (hsigs : content.signatures ≠ []) (hxml : ∀ s ∈ content.signatures, s.manifestXml ≠ [])
    (h : ∀ i ∈ content.items, i.Writable) :
    packE deflate content = .ok (content.items.map (WriteItem.entry deflate)) := by
  have hdocs : ∀ f ∈ content.files, (fileItem f).Writable := fun f hf =>
    h _ (mem_cons_of_mem _ (mem_append_left _ (mem_map_of_mem hf)))
  have hitems : ∀ s ∈ content.signatures, ∀ i ∈ s.items, i.Writable := fun s hs i hi =>
    h _ (mem_cons_of_mem _ (mem_append_right _ (mem_append_left _
      (mem_flatMap.mpr ⟨s, hs, hi⟩))))
  obtain ⟨w₁, h₁⟩ := packFiles_of_writable { type := .asicE } hdocs
  obtain ⟨w₂, h₂⟩ := packSignatures_of_writable w₁ fun s hs => ⟨hxml s hs, hitems s hs⟩
  obtain ⟨w₃, h₃⟩ : ∃ w₃, packTimestamp deflate content.timestampData w₂ = .ok w₃ := by
    rw [packTimestamp]
    by_cases hts : content.timestampData = []
    · exact ⟨w₂, if_pos hts⟩
    · rw [if_neg hts]
      refine ⟨_, addFile_eq_ok.mpr ⟨h _ ?_, rfl⟩⟩
      simp [AsicEContent.items, timestampItems, hts]
  obtain ⟨out, hfinal⟩ : ∃ out, w₃.finalize deflate = .ok out := by
    by_cases hnil : w₃.entries = []
    · rw [AsicWriter.finalize, if_pos hnil]
      exact ⟨_, bind_eq_ok.mpr ⟨_, addFile_eq_ok.mpr ⟨by decide, rfl⟩, rfl⟩⟩
    · exact ⟨_, finalize_of_ne_nil hnil⟩
  have hout : packE deflate content = .ok out := by
    simp only [packE, bind_eq_ok, require_eq_ok]
    exact ⟨(), hfiles, (), hsigs, w₁, h₁, w₂, h₂, w₃, h₃, hfinal⟩
  rw [hout, (packE_ok hout).1]

end Pack

/-! ### What unpacking has established -/

theorem requireMimetype_eq_ok {zip : Archive} {type : AsicType} {label : String} {u : Unit} :
    requireMimetype zip type label = .ok u ↔ getMimetype zip = some (textBytes type.mimetype) :=
  require_eq_ok

variable {container : Container} {name : String} {entries : List AsicFileEntry} {e : AsicFileEntry}

theorem unpackS_eq_ok {content : AsicSContent} : unpackS container = .ok content ↔
      ∃ zip entries, loadFromBuffer container = .ok zip ∧
        getMimetype zip = some (textBytes AsicType.asicS.mimetype) ∧
        getFiles zip = .ok entries ∧ content = assembleS entries ∧
        (documents entries).length ≤ 1 ∧
        ¬ (content.signatureData ≠ [] ∧ content.timestampData ≠ []) ∧
        (content.filename ≠ "" ∧ content.fileData ≠ []) ∧ content.signatureData ≠ [] := by
  simp only [unpackS, bind_eq_ok, require_eq_ok, requireMimetype_eq_ok, exists_and_left,
    exists_const, Except.ok.injEq]
  constructor
  · rintro ⟨zip, hload, hmime, entries, hfiles, hone, hboth, hdoc, hsig, rfl⟩
    exact ⟨zip, hload, hmime, entries, hfiles, rfl, hone, hboth, hdoc, hsig⟩
  · rintro ⟨zip, hload, hmime, entries, hfiles, rfl, hone, hboth, hdoc, hsig⟩
    exact ⟨zip, hload, hmime, entries, hfiles, hone, hboth, hdoc, hsig, rfl⟩

theorem unpackE_eq_ok {lib : LibXml2} {content : AsicEContent} :
    unpackE lib container = .ok content ↔
      ∃ zip entries, loadFromBuffer container = .ok zip ∧
        getMimetype zip = some (textBytes AsicType.asicE.mimetype) ∧
        getFiles zip = .ok entries ∧ content = assembleE lib entries ∧
        content.files ≠ [] ∧ content.signatures ≠ [] := by
  simp only [unpackE, bind_eq_ok, require_eq_ok, requireMimetype_eq_ok, exists_and_left,
    exists_const, Except.ok.injEq]
  constructor
  · rintro ⟨zip, hload, hmime, entries, hfiles, hdocs, hsigs, rfl⟩
    exact ⟨zip, hload, hmime, entries, hfiles, rfl, hdocs, hsigs⟩
  · rintro ⟨zip, hload, hmime, entries, hfiles, rfl, hdocs, hsigs⟩
    exact ⟨zip, hload, hmime, entries, hfiles, hdocs, hsigs, rfl⟩

/-! ### Kinds of names -/

theorem startsWithText_trans {a b : String} (hab : startsWithText b a = true)
    (h : startsWithText name b = true) : startsWithText name a = true := by
  rw [startsWithText, isPrefixOf_iff_prefix] at *
  exact List.IsPrefix.trans hab h

theorem isMetaInf_of_kind (hm : entryKind name ≠ .mimetype) (hd : entryKind name ≠ .document) :
    isMetaInf name = true := by
  rw [entryKind] at hm hd
  by_cases h₁ : name = "mimetype"
  · simp [h₁] at hm
  by_cases h₂ : name = "META-INF/timestamp.tst"
  · rw [h₂]
    decide
  by_cases h₃ : startsWithText name "META-INF/ASiCManifest" = true
  · exact startsWithText_trans (by decide) h₃
  by_cases h₄ : startsWithText name "META-INF/" = true
  · exact h₄
  · simp [h₁, h₂, h₃, h₄] at hd

theorem isMetaInf_of_signature (h : entryKind name = .signature) : isMetaInf name = true :=
  isMetaInf_of_kind (by rw [h]; decide) (by rw [h]; decide)

theorem kind_of_isMetaInf (h : isMetaInf name = true) :
    entryKind name ≠ .mimetype ∧ entryKind name ≠ .document := by
  have hne : name ≠ "mimetype" := by
    rintro rfl
    exact absurd h (by decide)
  have h' : startsWithText name "META-INF/" = true := h
  rw [entryKind, if_neg hne]
  by_cases h₂ : name = "META-INF/timestamp.tst"
  · rw [if_pos h₂]
    exact ⟨by decide, by decide⟩
  rw [if_neg h₂]
  by_cases h₃ : startsWithText name "META-INF/ASiCManifest" = true
  · rw [if_pos h₃]
    exact ⟨by decide, by decide⟩
  · rw [if_neg h₃, if_pos h']
    exact ⟨by decide, by decide⟩

theorem kind_eq_document : entryKind name = .document ↔ isDocument name = true := by
  rw [isDocument, Bool.and_eq_true, bne_iff_ne, Bool.not_eq_true']
  constructor
  · intro h
    refine ⟨?_, ?_⟩
    · rintro rfl
      exact absurd h (by decide)
    · rw [Bool.eq_false_iff]
      exact fun hm => (kind_of_isMetaInf hm).2 h
  · rintro ⟨hne, hm⟩
    by_contra hd
    refine absurd (isMetaInf_of_kind ?_ hd) (by simp [hm])
    rw [entryKind, if_neg hne]
    repeat' split
    all_goals decide

theorem kind_eq_timestamp : entryKind name = .timestamp ↔ name = "META-INF/timestamp.tst" := by
  rw [entryKind]
  by_cases h₁ : name = "mimetype"
  · rw [if_pos h₁, h₁]
    decide
  by_cases h₂ : name = "META-INF/timestamp.tst"
  · simp [h₂]
  · rw [if_neg h₂]
    refine iff_of_false ?_ h₂
    repeat' split
    all_goals decide

theorem kind_mimetype (h : entryKind name = .mimetype) : name = "mimetype" := by
  by_contra hne
  rw [entryKind, if_neg hne] at h
  revert h
  repeat' split
  all_goals decide

theorem metaInfName_of_isMetaInf (h : isMetaInf name = true) : metaInfName name = name := if_pos h

theorem mem_ofKind {kind : EntryKind} :
    e ∈ ofKind kind entries ↔ e ∈ entries ∧ entryKind e.name = kind := by
  simp [ofKind]

/-! ### Looking signatures up -/

theorem find?_name_of_mem (hnodup : (entries.map AsicFileEntry.name).Nodup) (he : e ∈ entries) :
    entries.find? (fun f => f.name = e.name) = some e := by
  induction entries with
  | nil => cases he
  | cons f rest ih =>
    rw [map_cons, nodup_cons] at hnodup
    rcases mem_cons.mp he with rfl | hmem
    · exact List.find?_cons_of_pos (by simp)
    · have hne : f.name ≠ e.name := by
        intro heq
        exact hnodup.1 (heq ▸ mem_map_of_mem hmem)
      rw [List.find?_cons_of_neg (by simpa using hne)]
      exact ih hnodup.2 hmem

theorem dataNamed_of_mem (hnodup : (entries.map AsicFileEntry.name).Nodup) (he : e ∈ entries) :
    dataNamed entries e.name = e.data := by
  rw [dataNamed, find?_name_of_mem hnodup he]
  rfl

theorem dataNamed_of_forall_ne (h : ∀ e ∈ entries, e.name ≠ name) :
    dataNamed entries name = [] := by
  rw [dataNamed, List.find?_eq_none.mpr (by simpa using h)]
  rfl

theorem nodup_ofKind {kind : EntryKind} (h : (entries.map AsicFileEntry.name).Nodup) :
    ((ofKind kind entries).map AsicFileEntry.name).Nodup :=
  h.sublist (filter_sublist.map _)

theorem signatureNamed_eq (entries : List AsicFileEntry) (sigUri : String) :
    signatureNamed (ofKind .signature entries) sigUri =
      dataNamed (ofKind .signature entries) (metaInfName sigUri) := by
  rw [signatureNamed]
  by_cases h : isMetaInf sigUri = true
  · rw [metaInfName_of_isMetaInf h, ite_self]
  · refine if_pos (dataNamed_of_forall_ne fun e he heq => h ?_)
    rw [← heq]
    exact isMetaInf_of_signature (mem_ofKind.mp he).2

theorem signatureNamed_of_mem (hnodup : (entries.map AsicFileEntry.name).Nodup) (he : e ∈ entries)
    {sigUri : String} (hname : metaInfName sigUri = e.name) :
    signatureNamed (ofKind .signature entries) sigUri =
      if entryKind e.name = .signature then e.data else [] := by
  rw [signatureNamed_eq, hname]
  by_cases hkind : entryKind e.name = .signature
  · rw [if_pos hkind]
    exact dataNamed_of_mem (nodup_ofKind hnodup) (mem_ofKind.mpr ⟨he, hkind⟩)
  · rw [if_neg hkind]
    refine dataNamed_of_forall_ne fun f hf heq => hkind ?_
    rw [← heq]
    exact (mem_ofKind.mp hf).2

theorem mem_manifestSignatures {lib : LibXml2} {manifests signatures : List AsicFileEntry}
    {s : SignatureEntry} :
    s ∈ manifestSignatures lib manifests signatures ↔
      ∃ m ∈ manifests, ∃ manifest, parseAsicManifestXml lib m.data = some manifest ∧
        s = ⟨manifest.sigUri, signatureNamed signatures manifest.sigUri, m.name, m.data⟩ := by
  simp only [manifestSignatures, mem_filterMap, Option.map_eq_some_iff]
  constructor
  · rintro ⟨m, hm, manifest, hparse, rfl⟩
    exact ⟨m, hm, manifest, hparse, rfl⟩
  · rintro ⟨m, hm, manifest, hparse, rfl⟩
    exact ⟨m, hm, manifest, hparse, rfl⟩

theorem manifestSignatures_eq_nil {lib : LibXml2} {manifests signatures : List AsicFileEntry} :
    manifestSignatures lib manifests signatures = [] ↔
      ∀ m ∈ manifests, parseAsicManifestXml lib m.data = none := by
  simp [manifestSignatures, filterMap_eq_nil_iff]

/-! ### Signature entries that survive unpacking -/

/-- What `GetFiles` returns for a container. -/
def readEntries (container : Container) : List AsicFileEntry :=
  match loadFromBuffer container with
  | .error _ => []
  | .ok zip => (getFiles zip).toOption.getD []

/-- A CAdES signature by its name: `META-INF/….p7s`. -/
def isCadesSignature (name : String) : Bool :=
  isMetaInf name && ".p7s".toList.isSuffixOf name.toList

/-- The content has a signature with this name and these bytes. -/
def Kept (content : AsicEContent) (e : AsicFileEntry) : Prop :=
  ∃ s ∈ content.signatures, metaInfName s.sigFilename = e.name ∧ s.signatureData = e.data

theorem kept_iff {lib : LibXml2} {name : String} {data : Bytes} :
    Kept (assembleE lib entries) ⟨name, data⟩ ↔
      ((∀ m ∈ ofKind .manifest entries, parseAsicManifestXml lib m.data = none) ∧
        ⟨name, data⟩ ∈ ofKind .signature entries) ∨
      (∃ m ∈ ofKind .manifest entries, ∃ manifest, parseAsicManifestXml lib m.data = some manifest ∧
        metaInfName manifest.sigUri = name) ∧ dataNamed (ofKind .signature entries) name = data := by
  rw [Kept, assembleE]
  by_cases hnone : ∀ m ∈ ofKind .manifest entries, parseAsicManifestXml lib m.data = none
  · -- no manifest can be read: the signature entries themselves
    simp only [manifestSignatures_eq_nil.mpr hnone, if_true]
    constructor
    · rintro ⟨s, hs, hname, hdata⟩
      obtain ⟨f, hf, rfl⟩ := mem_map.mp hs
      simp only [metaInfName_of_isMetaInf (isMetaInf_of_signature (mem_ofKind.mp hf).2)] at hname
      obtain rfl : f = ⟨name, data⟩ := by rw [← hname, ← hdata]
      exact Or.inl ⟨hnone, hf⟩
    · rintro (⟨-, hmem⟩ | ⟨⟨m, hm, manifest, hparse, -⟩, -⟩)
      · exact ⟨_, mem_map_of_mem hmem,
          metaInfName_of_isMetaInf (isMetaInf_of_signature (mem_ofKind.mp hmem).2), rfl⟩
      · rw [hnone m hm] at hparse
        cases hparse
  · have hne : manifestSignatures lib (ofKind .manifest entries) (ofKind .signature entries) ≠ [] :=
      fun h => hnone (manifestSignatures_eq_nil.mp h)
    simp only [if_neg hne]
    constructor
    · rintro ⟨s, hs, rfl, rfl⟩
      obtain ⟨m, hm, manifest, hparse, rfl⟩ := mem_manifestSignatures.mp hs
      exact Or.inr ⟨⟨m, hm, manifest, hparse, rfl⟩, (signatureNamed_eq _ _).symm⟩
    · rintro (⟨hall, -⟩ | ⟨⟨m, hm, manifest, hparse, rfl⟩, rfl⟩)
      · exact absurd hall hnone
      · exact ⟨_, mem_manifestSignatures.mpr ⟨m, hm, manifest, hparse, rfl⟩, rfl,
          signatureNamed_eq _ _⟩

/-- The entry is sorted as a signature and listed under its own name.  A name that begins with
`META-INF/ASiCManifest` is sorted as a manifest, and one of more than 511 octets is cut. -/
def Listed (e : ZipEntry) : Prop :=
  entryKind e.filename = .signature ∧ e.statName = e.filename

/-- The search by name returns an entry with the same bytes. -/
def OwnBytes (zip : Archive) (e : ZipEntry) : Prop :=
  ∃ f, zip.locator.locateFile e.filename = some f ∧ f.extracted = e.extracted

/-- No manifest can be read, or one that can be read names the entry; and the entry is listed and
found with its own bytes, or else it is empty and named. -/
def Claimed (lib : LibXml2) (zip : Archive) (manifests : List AsicFileEntry) (e : ZipEntry) : Prop :=
  ((∀ m ∈ manifests, parseAsicManifestXml lib m.data = none) ∧ Listed e ∧ OwnBytes zip e) ∨
    (∃ m ∈ manifests, ∃ manifest, parseAsicManifestXml lib m.data = some manifest ∧
      metaInfName manifest.sigUri = e.filename) ∧
        (Listed e ∧ OwnBytes zip e ∨ ¬ Listed e ∧ e.extracted = some [])

theorem nodup_of_getFiles {zip : Archive} (hsafe : SafeArchive zip.entries)
    (h : getFiles zip = .ok entries) : (entries.map AsicFileEntry.name).Nodup := by
  have hread := getFiles_eq_ok.mp h
  have hnames : entries.map AsicFileEntry.name =
      (fileEntries zip.entries).map ZipEntry.statName := by
    clear h
    generalize fileEntries zip.entries = listed at hread
    induction hread with
    | nil => rfl
    | cons hhead _ ih => rw [map_cons, map_cons, hhead.1, ih]
  rw [hnames]
  exact hsafe.distinct.sublist (filter_sublist.map _)

theorem readEntries_of_ok {zip : Archive} (hload : loadFromBuffer container = .ok zip)
    (hfiles : getFiles zip = .ok entries) : readEntries container = entries := by
  rw [readEntries, hload]
  simp [hfiles, Except.toOption]

/-- What the entries sorted as signatures hold under the name of an entry: the bytes that the search
found, if the entry is listed, and nothing otherwise. -/
theorem listed_entry {zip : Archive} (hsafe : SafeArchive zip.entries)
    (hfiles : getFiles zip = .ok entries) {e : ZipEntry} (he : e ∈ fileEntries zip.entries)
    (data : Bytes) (hown : e.extracted = some data) :
    (⟨e.filename, data⟩ ∈ ofKind .signature entries ↔ Listed e ∧ OwnBytes zip e) ∧
    (dataNamed (ofKind .signature entries) e.filename = data ↔
      Listed e ∧ OwnBytes zip e ∨ ¬ Listed e ∧ data = []) := by
  have hnodup := nodup_of_getFiles hsafe hfiles
  by_cases hlisted : Listed e
  · obtain ⟨g, hg, hname, hread⟩ := file_of_entry hfiles he
    rw [extractFile_eq_ok, cString_statName, hlisted.2] at hread
    rw [hlisted.2] at hname
    obtain ⟨f, hlocate, hfound⟩ := hread
    have hbytes : OwnBytes zip e ↔ g.data = data := by
      rw [OwnBytes, hown]
      constructor
      · rintro ⟨f', hf', hsame⟩
        obtain rfl := Option.some.inj (hlocate.symm.trans hf')
        exact Option.some.inj (hfound.symm.trans hsame)
      · rintro rfl
        exact ⟨f, hlocate, hfound⟩
    have hmem : g ∈ ofKind .signature entries := mem_ofKind.mpr ⟨hg, hname ▸ hlisted.1⟩
    have hdata := dataNamed_of_mem (nodup_ofKind hnodup) hmem
    rw [hname] at hdata
    refine ⟨?_, by simp [hlisted, hbytes, hdata]⟩
    rw [and_iff_right hlisted, hbytes]
    constructor
    · intro h
      rw [← hdata]
      exact dataNamed_of_mem (nodup_ofKind hnodup) h
    · rintro rfl
      rw [← hname]
      exact hmem
  · -- no entry is listed under a name that is cut
    have habsent : ∀ f ∈ ofKind .signature entries, f.name ≠ e.filename := by
      rintro f hf heq
      obtain ⟨hf, hkind⟩ := mem_ofKind.mp hf
      obtain ⟨e', he', hname⟩ := entry_of_file hfiles hf
      refine hlisted ⟨heq ▸ hkind, ?_⟩
      have hplain := statName_plain e'
      rw [← hname, heq] at hplain
      exact statName_eq_self hplain.1 hplain.2
    rw [dataNamed_of_forall_ne habsent]
    refine ⟨iff_of_false (fun h => habsent _ h rfl) fun h => hlisted h.1, ?_⟩
    simp [hlisted, eq_comm]

/-- **No signature is silently ignored** exactly when every signature entry of the archive is named
by a readable manifest, or no manifest can be read, and it is found with its own bytes. -/
theorem unpack_keeps_signatures_iff (lib : LibXml2) (container : Container) (zip : Archive)
    (content : AsicEContent) (hzip : container.archive = some zip)
    (h : unpackE lib container = .ok content) :
    (∀ e ∈ fileEntries zip.entries, isCadesSignature e.filename = true →
        ∃ data, e.extracted = some data ∧ Kept content ⟨e.filename, data⟩) ↔
      ∀ e ∈ fileEntries zip.entries, isCadesSignature e.filename = true →
        Claimed lib zip (ofKind .manifest (readEntries container)) e := by
  obtain ⟨zip', entries, hload, -, hfiles, rfl, -, -⟩ := unpackE_eq_ok.mp h
  obtain rfl := Option.some.inj (hzip.symm.trans (loadFromBuffer_eq_ok.mp hload).2.1)
  rw [readEntries_of_ok hload hfiles]
  refine forall₂_congr fun e he => forall_congr' fun _ => ?_
  have hlisted := listed_entry (loadFromBuffer_eq_ok.mp hload).2.2 hfiles he
  constructor
  · rintro ⟨data, hown, hkept⟩
    rw [kept_iff, (hlisted data hown).1, (hlisted data hown).2] at hkept
    rw [Claimed, hown, Option.some.injEq]
    exact hkept
  · intro hclaimed
    obtain ⟨data, hown⟩ : ∃ data, e.extracted = some data := by
      -- the reader has extracted what it has found
      have hread : Listed e → OwnBytes zip e → ∃ data, e.extracted = some data := by
        rintro hname ⟨f, hlocate, hsame⟩
        obtain ⟨g, -, -, hread⟩ := file_of_entry hfiles he
        rw [extractFile_eq_ok, cString_statName, hname.2, hlocate] at hread
        obtain ⟨f', hf', hfound⟩ := hread
        obtain rfl := Option.some.inj hf'
        exact ⟨g.data, hsame ▸ hfound⟩
      rcases hclaimed with ⟨-, hname, hbytes⟩ | ⟨-, ⟨hname, hbytes⟩ | ⟨-, hempty⟩⟩
      · exact hread hname hbytes
      · exact hread hname hbytes
      · exact ⟨[], hempty⟩
    refine ⟨data, hown, ?_⟩
    rw [kept_iff, (hlisted data hown).1, (hlisted data hown).2]
    rw [Claimed, hown, Option.some.injEq] at hclaimed
    exact hclaimed

/-- A manifest as libxml2 presents it: a `SigReference`, and a `DataObjectReference`
with its digest for each data object. -/
def manifestDocument (sigUri : String) (refs : List AsicDataObjectRef) : XmlDocument where
  nodes := [elementTree (some kAsicManifestNamespace) "ASiCManifest" []
    (elementTree (some kAsicManifestNamespace) "SigReference" [("URI", sigUri)] [] ::
      refs.map fun r => elementTree (some kAsicManifestNamespace) "DataObjectReference"
        [("URI", r.uri), ("MimeType", r.mimeType)]
        [dsElement "DigestMethod" [("Algorithm", r.digestUri)] [], dsText "DigestValue" r.digestBase64])]

def manifestLib (known : List (String × XmlDocument)) : LibXml2 where
  readMemory text := known.lookup text
  serializeNode _ _ := ""
  c14nSubtrees _ _ _ _ := none
  c14nDocument _ _ _ := none

/-- Two signatures, of which the manifest names the first. -/
def unnamedSignature : List ZipEntry :=
  [storedEntry "mimetype" (textBytes "application/vnd.etsi.asic-e+zip"),
    storedEntry "a.txt" [1], storedEntry "META-INF/ASiCManifest001.xml" (textBytes "one"),
    storedEntry "META-INF/signature001.p7s" [11], storedEntry "META-INF/signature002.p7s" [12]]

def oneManifestLib : LibXml2 :=
  manifestLib [("one", manifestDocument "META-INF/signature001.p7s" [⟨"a.txt", "", "", ""⟩])]

def firstSignature : AsicEContent where
  files := [⟨"a.txt", [1]⟩]
  signatures :=
    [⟨"META-INF/signature001.p7s", [11], "META-INF/ASiCManifest001.xml", textBytes "one"⟩]

/-- The container is unpacked, and its second signature is not mentioned. -/
theorem unnamed_signature_ignored :
    (unpackE oneManifestLib (reopened unnamedSignature (.ofScan _))).toOption =
      some firstSignature ∧
    storedEntry "META-INF/signature002.p7s" [12] ∈ fileEntries unnamedSignature ∧
    isCadesSignature "META-INF/signature002.p7s" = true := by
  decide +kernel

/-- With the first signature alone, nothing is ignored. -/
theorem named_signature_kept :
    unpackE oneManifestLib (reopened (unnamedSignature.take 4) (.ofScan _)) = .ok firstSignature ∧
    ∀ e ∈ fileEntries (unnamedSignature.take 4), isCadesSignature e.filename = true →
      ∃ data, e.extracted = some data ∧ Kept firstSignature ⟨e.filename, data⟩ := by
  have hunpack : unpackE oneManifestLib (reopened (unnamedSignature.take 4) (.ofScan _)) =
      .ok firstSignature := by decide +kernel
  refine ⟨hunpack, (unpack_keeps_signatures_iff oneManifestLib _ _ firstSignature rfl hunpack).mpr
    fun e he hname => ?_⟩
  obtain rfl : e = storedEntry "META-INF/signature001.p7s" [11] := by
    revert e
    decide
  obtain ⟨manifest, hparse, hnamed⟩ := Option.map_eq_some_iff.mp
    (show (parseAsicManifestXml oneManifestLib (textBytes "one")).map
      (fun m => metaInfName m.sigUri) = some "META-INF/signature001.p7s" by decide +kernel)
  refine Or.inr ⟨⟨⟨"META-INF/ASiCManifest001.xml", textBytes "one"⟩, by decide +kernel, manifest,
    hparse, hnamed⟩, Or.inl ⟨⟨by decide, by decide⟩, _, by decide +kernel, rfl⟩⟩

end Tamga.Asic
