/-
Packing and unpacking ASiC containers, together.

`Pack` takes any names its zip library accepts, while the reader refuses names and
sizes that look dangerous and `Unpack` sorts by name alone.  A content therefore
survives when its entries are readable (`ReadableItems`) and every name sorts its
entry back into the place it came from (`SortedBack`).

* `assembleE_eq_iff`, `assembleS_eq_iff` — the contents that are assembled again from
  their own entries;
* `pack_unpack_iff` — the contents that survive packing and unpacking.
-/
import Tamga.AsicContainers

namespace Tamga.Asic

open Util Zip Xml List

/-! ### Sorting the entries back -/

/-- The names of an ASiC-E content are sorted back into their places, and each
manifest names its signature. -/
structure SortedBack (lib : LibXml2) (content : AsicEContent) : Prop where
  documents : ∀ f ∈ content.files, entryKind f.name = .document
  manifests : ∀ s ∈ content.signatures, entryKind s.manifestFilename = .manifest
  named : ∀ s ∈ content.signatures, ∃ refs,
    parseAsicManifestXml lib s.manifestXml = some ⟨s.sigFilename, refs⟩
  /-- An empty signature entry is as good as none, so only its not being a document
  matters. -/
  signatures : ∀ s ∈ content.signatures, entryKind s.sigFilename = .signature ∨
    (s.signatureData = [] ∧ entryKind s.sigFilename ≠ .document)

/-- The entries of the content as a reader should return them. -/
def AsicEContent.entries (content : AsicEContent) : List AsicFileEntry :=
  content.items.map WriteItem.file

def SignatureEntry.entries (s : SignatureEntry) : List AsicFileEntry :=
  [⟨s.manifestFilename, s.manifestXml⟩, ⟨s.sigFilename, s.signatureData⟩]

theorem AsicEContent.entries_eq (content : AsicEContent) :
    content.entries = (mimetypeItem .asicE).file :: (content.files ++
      (content.signatures.flatMap SignatureEntry.entries ++
        (timestampItems content.timestampData).map WriteItem.file)) := by
  have hfiles : (content.files.map fileItem).map WriteItem.file = content.files := by
    rw [map_map]
    exact map_id _
  have hsigs : (content.signatures.flatMap SignatureEntry.items).map WriteItem.file =
      content.signatures.flatMap SignatureEntry.entries := by
    rw [map_flatMap]
    rfl
  rw [AsicEContent.entries, AsicEContent.items, map_cons, map_append, map_append,
    hfiles, hsigs]

section SortBack

variable {lib : LibXml2} {content : AsicEContent}

variable {kind : EntryKind}

theorem timestampItems_kind (h : kind ≠ .timestamp) (timestamp : Bytes) :
    ofKind kind ((timestampItems timestamp).map WriteItem.file) = [] := by
  rw [timestampItems]
  by_cases hts : timestamp = []
  · rw [if_pos hts]
    rfl
  · rw [if_neg hts]
    refine filter_cons_of_neg ?_
    have hkind : entryKind "META-INF/timestamp.tst" = .timestamp := by decide
    rw [decide_eq_true_eq]
    exact fun heq => h (heq.symm.trans hkind)

theorem ofKind_entries (hm : kind ≠ .mimetype) (ht : kind ≠ .timestamp) :
    ofKind kind content.entries = ofKind kind content.files ++
      content.signatures.flatMap fun s => ofKind kind s.entries := by
  have hmime : ofKind kind [(mimetypeItem .asicE).file] = [] := by
    refine filter_cons_of_neg ?_
    rw [decide_eq_true_eq]
    exact fun heq => hm (heq.symm.trans (by decide))
  rw [AsicEContent.entries_eq, ← singleton_append, ofKind, filter_append]
  show ofKind kind _ ++ _ = _
  rw [hmime, nil_append, filter_append, filter_append]
  show _ ++ (_ ++ ofKind kind _) = _
  rw [timestampItems_kind ht, append_nil, filter_flatMap]
  rfl

theorem ofKind_self {files : List AsicFileEntry}
    (h : ∀ f ∈ files, entryKind f.name = kind) : ofKind kind files = files :=
  filter_eq_self.mpr (by simpa using h)

theorem ofKind_nil {files : List AsicFileEntry}
    (h : ∀ f ∈ files, entryKind f.name ≠ kind) : ofKind kind files = [] :=
  filter_eq_nil_iff.mpr (by simpa using h)

theorem assembleE_files (h : SortedBack lib content) :
    (assembleE lib content.entries).files = content.files := by
  show ofKind .document content.entries = _
  rw [ofKind_entries (by decide) (by decide), ofKind_self h.documents,
    flatMap_eq_nil_iff.mpr, append_nil]
  intro s hs
  refine ofKind_nil fun e he => ?_
  rcases mem_cons.mp he with rfl | he
  · show entryKind s.manifestFilename ≠ .document
    rw [h.manifests s hs]
    decide
  · obtain rfl := mem_singleton.mp he
    show entryKind s.sigFilename ≠ .document
    rcases h.signatures s hs with hkind | ⟨-, hkind⟩
    · rw [hkind]
      decide
    · exact hkind

/-- The manifests of the content, read against any lookup, give its signatures one
by one: a signature entry that is sorted as a manifest is empty and cannot be read. -/
theorem manifestSignatures_entries (h : SortedBack lib content) (signatures : List AsicFileEntry) :
    manifestSignatures lib (ofKind .manifest content.entries) signatures =
      content.signatures.map fun s =>
        ⟨s.sigFilename, signatureNamed signatures s.sigFilename, s.manifestFilename, s.manifestXml⟩ := by
  rw [ofKind_entries (by decide) (by decide), ofKind_nil, nil_append, manifestSignatures,
    filterMap_flatMap, map_eq_flatMap]
  · refine flatMap_congr fun s hs => ?_
    obtain ⟨refs, hparse⟩ := h.named s hs
    have hman := h.manifests s hs
    by_cases hkind : entryKind s.sigFilename = .manifest
    · have hdata : s.signatureData = [] := by
        rcases h.signatures s hs with hsig | ⟨hdata, -⟩
        · rw [hsig] at hkind
          cases hkind
        · exact hdata
      simp [ofKind, SignatureEntry.entries, hman, hkind, hparse, hdata,
        parseAsicManifestXml_empty]
    · simp [ofKind, SignatureEntry.entries, hman, hkind, hparse]
  · intro f hf
    rw [h.documents f hf]
    decide

theorem lastData_timestamp {entries : List AsicFileEntry}
    (hnodup : (entries.map AsicFileEntry.name).Nodup) :
    lastData isTimestampEntry entries = dataNamed entries "META-INF/timestamp.tst" := by
  rw [lastData]
  cases hlast : (entries.filter fun e => isTimestampEntry e.name).getLast? with
  | none =>
    rw [List.getLast?_eq_none_iff, filter_eq_nil_iff] at hlast
    rw [dataNamed_of_forall_ne fun e he => by simpa [isTimestampEntry] using hlast e he]
    rfl
  | some e =>
    obtain ⟨he, hname⟩ := mem_filter.mp (mem_of_getLast? hlast)
    rw [← show e.name = "META-INF/timestamp.tst" by simpa [isTimestampEntry] using hname,
      dataNamed_of_mem hnodup he]
    rfl

variable {s : SignatureEntry}

theorem mem_entries_of_signature (hs : s ∈ content.signatures)
    {e : AsicFileEntry} (he : e ∈ s.entries) : e ∈ content.entries := by
  rw [AsicEContent.entries_eq]
  refine mem_cons_of_mem _ (mem_append_right _ (mem_append_left _ ?_))
  exact mem_flatMap.mpr ⟨s, hs, he⟩

theorem sigFilename_kind_ne_mimetype (hnodup : (content.entries.map AsicFileEntry.name).Nodup)
    (hs : s ∈ content.signatures) : entryKind s.sigFilename ≠ .mimetype := by
  intro hkind
  rw [AsicEContent.entries_eq, map_cons, nodup_cons] at hnodup
  refine hnodup.1 (mem_map.mpr ⟨⟨s.sigFilename, s.signatureData⟩, ?_, kind_mimetype hkind⟩)
  refine mem_append_right _ (mem_append_left _ (mem_flatMap.mpr ⟨s, hs, ?_⟩))
  simp [SignatureEntry.entries]

theorem signatureNamed_entries (hnodup : (content.entries.map AsicFileEntry.name).Nodup)
    (hs : s ∈ content.signatures)
    (hdoc : entryKind s.sigFilename ≠ .document) :
    signatureNamed (ofKind .signature content.entries) s.sigFilename =
      if entryKind s.sigFilename = .signature then s.signatureData else [] := by
  have hmem : ⟨s.sigFilename, s.signatureData⟩ ∈ content.entries :=
    mem_entries_of_signature hs (by simp [SignatureEntry.entries])
  have hmeta := isMetaInf_of_kind (sigFilename_kind_ne_mimetype hnodup hs) hdoc
  exact signatureNamed_of_mem hnodup hmem (metaInfName_of_isMetaInf hmeta)

theorem not_document_of_sortedBack (h : SortedBack lib content)
    (hs : s ∈ content.signatures) : entryKind s.sigFilename ≠ .document := by
  rcases h.signatures s hs with hkind | ⟨-, hkind⟩
  · rw [hkind]
    decide
  · exact hkind

section

variable (hnodup : (content.entries.map AsicFileEntry.name).Nodup)

include hnodup

theorem assembleE_signatures (hne : content.signatures ≠ []) (h : SortedBack lib content) :
    (assembleE lib content.entries).signatures = content.signatures := by
  have hsame : (content.signatures.map fun s =>
      (⟨s.sigFilename, signatureNamed (ofKind .signature content.entries) s.sigFilename,
        s.manifestFilename, s.manifestXml⟩ : SignatureEntry)) = content.signatures := by
    refine (map_congr_left fun s hs => ?_).trans (map_id _)
    rw [signatureNamed_entries hnodup hs (not_document_of_sortedBack h hs)]
    rcases h.signatures s hs with hkind | ⟨hdata, -⟩
    · rw [if_pos hkind]
      rfl
    · rw [hdata, ite_self, ← hdata]
      rfl
  show (if _ then _ else _) = _
  rw [manifestSignatures_entries h, hsame, if_neg hne]

theorem assembleE_timestamp (h : SortedBack lib content) :
    (assembleE lib content.entries).timestampData = content.timestampData := by
  show lastData _ _ = _
  rw [lastData_timestamp hnodup]
  by_cases hts : content.timestampData = []
  · -- only a signature without data can have the name of the timestamp
    by_cases hany : ∃ e ∈ content.entries, e.name = "META-INF/timestamp.tst"
    · obtain ⟨e, he, hname⟩ := hany
      rw [← hname, dataNamed_of_mem hnodup he, hts]
      have hkind : entryKind e.name = .timestamp := kind_eq_timestamp.mpr hname
      rw [AsicEContent.entries_eq, timestampItems, if_pos hts, map_nil, append_nil] at he
      rcases mem_cons.mp he with rfl | he
      · exact absurd hkind (by decide)
      rcases mem_append.mp he with he | he
      · rw [h.documents e he] at hkind
        cases hkind
      obtain ⟨s, hs, he⟩ := mem_flatMap.mp he
      rcases mem_cons.mp he with rfl | he
      · rw [show entryKind s.manifestFilename = .manifest from h.manifests s hs] at hkind
        cases hkind
      · obtain rfl := mem_singleton.mp he
        rcases h.signatures s hs with hsig | ⟨hdata, -⟩
        · rw [show entryKind s.sigFilename = .signature from hsig] at hkind
          cases hkind
        · exact hdata
    · rw [hts]
      exact dataNamed_of_forall_ne fun e he hname => hany ⟨e, he, hname⟩
  · have hmem : ⟨"META-INF/timestamp.tst", content.timestampData⟩ ∈ content.entries := by
      rw [AsicEContent.entries_eq, timestampItems, if_neg hts]
      exact mem_cons_of_mem _ (mem_append_right _ (mem_append_right _ (by
        simp [WriteItem.file])))
    exact dataNamed_of_mem hnodup hmem

theorem sortedBack_of_assembleE
    (hne : content.signatures ≠ []) (hxml : ∀ s ∈ content.signatures, s.manifestXml ≠ [])
    (h : assembleE lib content.entries = content) : SortedBack lib content := by
  have hfiles : ofKind .document content.entries = content.files :=
    congrArg AsicEContent.files h
  -- the fallback is ruled out: its signatures have no manifest
  have hsigs : manifestSignatures lib (ofKind .manifest content.entries)
      (ofKind .signature content.entries) = content.signatures := by
    have hsig := congrArg AsicEContent.signatures h
    simp only [assembleE] at hsig
    by_cases hnone : manifestSignatures lib (ofKind .manifest content.entries)
        (ofKind .signature content.entries) = []
    · rw [if_pos hnone] at hsig
      obtain ⟨s, hs⟩ := exists_mem_of_ne_nil _ hne
      have hs' := hs
      rw [← hsig] at hs'
      obtain ⟨f, -, rfl⟩ := mem_map.mp hs'
      exact absurd rfl (hxml _ hs)
    · rwa [if_neg hnone] at hsig
  have hread : ∀ s ∈ content.signatures, ∃ m ∈ ofKind .manifest content.entries, ∃ manifest,
      parseAsicManifestXml lib m.data = some manifest ∧
        s = ⟨manifest.sigUri, signatureNamed (ofKind .signature content.entries) manifest.sigUri,
          m.name, m.data⟩ := by
    intro s hs
    rw [← hsigs] at hs
    exact mem_manifestSignatures.mp hs
  have hdocument : ∀ s ∈ content.signatures, entryKind s.sigFilename ≠ .document := by
    intro s hs hkind
    have hnil : (content.signatures.flatMap fun s => ofKind .document s.entries) = [] := by
      have hlen := congrArg List.length hfiles
      have hall : ofKind .document content.files = content.files := by
        refine ofKind_self fun f hf => ?_
        rw [← hfiles] at hf
        exact (mem_ofKind.mp hf).2
      rw [ofKind_entries (by decide) (by decide), hall, length_append] at hlen
      exact eq_nil_of_length_eq_zero (by omega)
    have hmem : ⟨s.sigFilename, s.signatureData⟩ ∈ ofKind .document s.entries :=
      mem_ofKind.mpr ⟨by simp [SignatureEntry.entries], hkind⟩
    rw [flatMap_eq_nil_iff.mp hnil s hs] at hmem
    cases hmem
  refine ⟨fun f hf => ?_, fun s hs => ?_, fun s hs => ?_, fun s hs => ?_⟩
  · rw [← hfiles] at hf
    exact (mem_ofKind.mp hf).2
  · obtain ⟨m, hm, manifest, -, rfl⟩ := hread s hs
    exact (mem_ofKind.mp hm).2
  · obtain ⟨m, -, manifest, hparse, rfl⟩ := hread s hs
    exact ⟨manifest.dataRefs, hparse⟩
  · by_cases hkind : entryKind s.sigFilename = .signature
    · exact Or.inl hkind
    · refine Or.inr ⟨?_, hdocument s hs⟩
      have hlookup := signatureNamed_entries hnodup hs (hdocument s hs)
      rw [if_neg hkind] at hlookup
      obtain ⟨m, -, manifest, -, rfl⟩ := hread s hs
      exact hlookup

theorem assembleE_eq_iff
    (hne : content.signatures ≠ []) (hxml : ∀ s ∈ content.signatures, s.manifestXml ≠ []) :
    assembleE lib content.entries = content ↔ SortedBack lib content := by
  refine ⟨sortedBack_of_assembleE hnodup hne hxml, fun h => ?_⟩
  calc assembleE lib content.entries
      = ⟨(assembleE lib content.entries).files, (assembleE lib content.entries).signatures,
          (assembleE lib content.entries).timestampData⟩ := rfl
    _ = content := by
        rw [assembleE_files h, assembleE_signatures hnodup hne h, assembleE_timestamp hnodup h]

end

end SortBack

theorem assembleS_eq_iff {content : AsicSContent} (hname : content.filename ≠ "")
    (hts : content.timestampData = [])
    (hnodup : ((content.items.map WriteItem.file).map AsicFileEntry.name).Nodup) :
    (assembleS (content.items.map WriteItem.file) = content ∧
        (documents (content.items.map WriteItem.file)).length ≤ 1) ↔
      isMetaInf content.filename = false := by
  have hmime : content.filename ≠ "mimetype" := by
    intro h
    simp [AsicSContent.items, WriteItem.file, mimetypeItem, h] at hnodup
  have hdocs : documents (content.items.map WriteItem.file) =
      if isMetaInf content.filename = true then [] else [⟨content.filename, content.fileData⟩] := by
    have hs : isMetaInf "META-INF/signature.p7s" = true := by decide
    by_cases h : isMetaInf content.filename = true
    · simp [documents, AsicSContent.items, WriteItem.file, mimetypeItem, isDocument, hs, h]
    · simp [documents, AsicSContent.items, WriteItem.file, mimetypeItem, isDocument, hs, h, hmime]
  constructor
  · rintro ⟨h, -⟩
    by_contra hmeta
    rw [Bool.not_eq_false] at hmeta
    have hfile := congrArg AsicSContent.filename h
    simp only [assembleS, hdocs, if_pos hmeta] at hfile
    exact hname hfile.symm
  · intro h
    have hne : isTimestampEntry content.filename = false := by
      rw [isTimestampEntry, beq_eq_false_iff_ne]
      intro heq
      rw [heq] at h
      exact absurd h (by decide)
    have hsig : lastData isAsicSSignature (content.items.map WriteItem.file) =
        content.signatureData := by
      have hs : isAsicSSignature "META-INF/signature.p7s" = true := by decide
      show ((List.filter _ ([_, _] ++ [_])).getLast?.map _).getD _ = _
      simp [WriteItem.file, hs]
    have htime : lastData isTimestampEntry (content.items.map WriteItem.file) = [] := by
      have hm : isTimestampEntry "mimetype" = false := by decide
      have hs : isTimestampEntry "META-INF/signature.p7s" = false := by decide
      simp [lastData, AsicSContent.items, WriteItem.file, mimetypeItem, hm, hs, hne]
    refine ⟨?_, ?_⟩
    · simp only [assembleS, hdocs, h, hsig, htime, ← hts]
      rfl
    · rw [hdocs, h]
      exact Nat.le_refl 1

/-! ### Packing and unpacking -/

/-- What is written survives reading: the reader accepts the archive, returns its
entries as they were handed to the writer, and unpacking gives the content back. -/
def SurvivesS (content : AsicSContent) (out : List ZipEntry) : Prop :=
  ∀ L : Locator out, getFiles ⟨out, L⟩ = .ok (content.items.map WriteItem.file) ∧
    unpackS (reopened out L) = .ok content

@[inherit_doc SurvivesS]
def SurvivesE (lib : LibXml2) (content : AsicEContent) (out : List ZipEntry) : Prop :=
  ∀ L : Locator out, getFiles ⟨out, L⟩ = .ok (content.items.map WriteItem.file) ∧
    unpackE lib (reopened out L) = .ok content

theorem getMimetype_of_getFiles {zip : Archive} {type : AsicType} {entries : List AsicFileEntry}
    (h : getFiles zip = .ok entries) (hmem : (mimetypeItem type).file ∈ entries) :
    getMimetype zip = some (textBytes type.mimetype) := by
  have hread := extractFile_of_getFiles h _ hmem
  rw [getMimetype, show extractFile zip "mimetype" = _ from hread]
  rfl

theorem nodup_names_of_readable {deflate : Bytes → Nat} {items : List WriteItem}
    (h : ReadableItems deflate items) :
    ((items.map WriteItem.file).map AsicFileEntry.name).Nodup := by
  rw [map_map]
  exact h.distinct

section RoundTrip

variable {lib : LibXml2} {deflate : Bytes → Nat}

theorem readsBack_iff {items : List WriteItem} {type : AsicType} (hmime : mimetypeItem type ∈ items)
    {Q : List AsicFileEntry → Prop} :
    (∀ L : Locator (items.map (WriteItem.entry deflate)),
      getFiles ⟨_, L⟩ = .ok (items.map WriteItem.file) ∧
        ∃ zip entries, loadFromBuffer (reopened _ L) = .ok zip ∧
          getMimetype zip = some (textBytes type.mimetype) ∧ getFiles zip = .ok entries ∧ Q entries) ↔
      ReadableItems deflate items ∧ Q (items.map WriteItem.file) := by
  constructor
  · intro h
    have hread : ReadableItems deflate items := by
      refine readBack_iff.mp fun L => ?_
      obtain ⟨hfiles, zip, -, hload, -⟩ := h L
      have harch := (loadFromBuffer_eq_ok.mp hload).2.1
      rw [reopened, Option.some.injEq] at harch
      exact ⟨by rw [hload, harch], hfiles⟩
    obtain ⟨hload, hfiles⟩ := readBack_iff.mpr hread (.ofScan _)
    obtain ⟨-, zip, entries, hload', -, hfiles', hQ⟩ := h (.ofScan _)
    obtain rfl := Except.ok.inj (hload.symm.trans hload')
    obtain rfl := Except.ok.inj (hfiles.symm.trans hfiles')
    exact ⟨hread, hQ⟩
  · rintro ⟨hread, hQ⟩ L
    obtain ⟨hload, hfiles⟩ := readBack_iff.mpr hread L
    exact ⟨hfiles, _, _, hload, getMimetype_of_getFiles hfiles (mem_map_of_mem hmime), hfiles, hQ⟩

theorem survivesS_iff {content : AsicSContent} {out : List ZipEntry}
    (h : packS deflate content = .ok out) :
    SurvivesS content out ↔
      ReadableItems deflate content.items ∧ isMetaInf content.filename = false := by
  obtain ⟨rfl, hname, hdata, hsig, hts⟩ := packS_ok h
  simp only [SurvivesS, unpackS_eq_ok]
  refine (readsBack_iff mem_cons_self).trans (and_congr_right fun hread => ?_)
  rw [← assembleS_eq_iff hname hts (nodup_names_of_readable hread)]
  constructor
  · exact fun hall => ⟨hall.1.symm, hall.2.1⟩
  · exact fun hall => ⟨hall.1.symm, hall.2, fun hboth => hboth.2 hts, ⟨hname, hdata⟩, hsig⟩

theorem survivesE_iff {content : AsicEContent} {out : List ZipEntry}
    (h : packE deflate content = .ok out) :
    SurvivesE lib content out ↔
      ReadableItems deflate content.items ∧ SortedBack lib content := by
  obtain ⟨rfl, hne, hsigs, hxml⟩ := packE_ok h
  simp only [SurvivesE, unpackE_eq_ok]
  refine (readsBack_iff mem_cons_self).trans (and_congr_right fun hread => ?_)
  rw [← assembleE_eq_iff (nodup_names_of_readable hread) hsigs hxml]
  exact ⟨fun hall => hall.1.symm, fun heq => ⟨heq.symm, hne, hsigs⟩⟩

end RoundTrip

/-- **Round trip.**  What `Pack` has written survives reading exactly when the items
are readable and their names are sorted back into their places. -/
theorem pack_unpack_iff (lib : LibXml2) (deflate : Bytes → Nat) :
    (∀ content out, packS deflate content = .ok out →
      (SurvivesS content out ↔
        ReadableItems deflate content.items ∧ isMetaInf content.filename = false)) ∧
    (∀ content out, packE deflate content = .ok out →
      (SurvivesE lib content out ↔
        ReadableItems deflate content.items ∧ SortedBack lib content)) :=
  ⟨fun _ _ h => survivesS_iff h, fun _ _ h => survivesE_iff h⟩

def plainS : AsicSContent := ⟨"a.txt", [1], [2], []⟩

def plainE : AsicEContent where
  files := [⟨"a.txt", [1]⟩]
  signatures := [⟨"META-INF/signature001.p7s", [11], "META-INF/ASiCManifest001.xml",
    textBytes "one"⟩]

theorem plainE_sortedBack : SortedBack oneManifestLib plainE where
  documents := by decide
  manifests := by decide
  named := by
    rintro s hs
    obtain rfl := mem_singleton.mp hs
    exact ⟨[⟨"a.txt", "", "", ""⟩], by decide +kernel⟩
  signatures := by decide

/-- Plain contents of either kind survive. -/
theorem pack_unpack_plain :
    (packS List.length plainS = .ok (plainS.items.map (WriteItem.entry List.length)) ∧
      SurvivesS plainS (plainS.items.map (WriteItem.entry List.length))) ∧
    (packE List.length plainE = .ok (plainE.items.map (WriteItem.entry List.length)) ∧
      SurvivesE oneManifestLib plainE (plainE.items.map (WriteItem.entry List.length))) :=
  ⟨⟨by decide, ((pack_unpack_iff oneManifestLib List.length).1 _ _ (by decide)).mpr
      ⟨⟨by decide, by decide, by decide, by decide, by decide, by decide, by decide, by decide⟩,
        by decide⟩⟩,
    ⟨by decide, ((pack_unpack_iff oneManifestLib List.length).2 _ _ (by decide)).mpr
      ⟨⟨by decide, by decide, by decide, by decide, by decide, by decide, by decide, by decide⟩,
        plainE_sortedBack⟩⟩⟩

/-- A document with `..` in its path is packed, and its own reader rejects the
archive; one below `META-INF/` is packed, and the container is then without
document. -/
theorem packed_container_rejected :
    (packS List.length ⟨"a/../b", [1], [2], []⟩).toOption.isSome = true ∧
    ((packS List.length ⟨"a/../b", [1], [2], []⟩).toOption.bind fun out =>
      (unpackS (reopened out (.ofScan _))).toOption) = none ∧
    (packS List.length ⟨"META-INF/a.txt", [1], [2], []⟩).toOption.isSome = true ∧
    ((packS List.length ⟨"META-INF/a.txt", [1], [2], []⟩).toOption.bind fun out =>
      (unpackS (reopened out (.ofScan _))).toOption) = none := by
  decide +kernel

end Tamga.Asic
