/-
Adding a signature to an ASiC-E container (`Session::AddSignatureToAsicE`,
`AsicEContainer::AddSignature`).

The container is unpacked, the new signature is appended to its content, and the
content is packed again.  What unpacking does not put into the content is therefore
lost, and what packing writes under another name is moved.

* `freeNumber_free` — the search for a free number ends;
* `getFiles_eq_of_subset` — a reader that returns all items returns them in order;
* `addSignature_conservative_iff` — when everything that was there is there
  afterwards, and `xades_signature_lost` a container where it is not.
-/
import Tamga.FirstFree
import Tamga.AsicRoundTrip
import Tamga.XadesSession

namespace Tamga.Session

open Util Zip Xml XmlDsig Asic FirstFree List

/-! ### The free number -/

def numberedSignature (n : Nat) : String := "META-INF/signature" ++ zeroPadded 3 n ++ ".p7s"

def numberedManifest (n : Nat) : String := "META-INF/ASiCManifest" ++ zeroPadded 3 n ++ ".xml"

variable (signatures : List Asic.SignatureEntry)

/-- `occupied`. -/
def numberOccupied (n : Nat) : Bool :=
  signatures.any fun s =>
    s.sigFilename == numberedSignature n || s.manifestFilename == numberedManifest n

/-- The number of the new signature; a signature can occupy two numbers. -/
def freeNumber : Nat :=
  nextFree (numberOccupied signatures) (2 * signatures.length) (signatures.length + 1)

theorem numbered_injective (before after : String) :
    Function.Injective fun n => before ++ zeroPadded 3 n ++ after := by
  intro m n h
  have h' : before ++ (zeroPadded 3 m ++ after) = before ++ (zeroPadded 3 n ++ after) := by
    rw [← String.append_assoc, ← String.append_assoc]
    exact h
  exact zeroPadded_injective 3 ((String.append_left_inj _).mp ((String.append_right_inj _).mp h'))

theorem freeNumber_free : numberOccupied signatures (freeNumber signatures) = false := by
  refine nextFree_free (fun numbers hall => ?_) _
  set A := numbers.filter fun n =>
    numberedSignature n ∈ signatures.map Asic.SignatureEntry.sigFilename with hA
  set B := numbers.filter fun n =>
    numberedManifest n ∈ signatures.map Asic.SignatureEntry.manifestFilename with hB
  have hcover : numbers ⊆ A ∪ B := by
    intro n hn
    obtain ⟨s, hs, hname⟩ := any_eq_true.mp (hall n hn)
    rw [Bool.or_eq_true, beq_iff_eq, beq_iff_eq] at hname
    rcases hname with hname | hname
    · exact Finset.mem_union_left _ (Finset.mem_filter.mpr ⟨hn, mem_map.mpr ⟨s, hs, hname⟩⟩)
    · exact Finset.mem_union_right _ (Finset.mem_filter.mpr ⟨hn, mem_map.mpr ⟨s, hs, hname⟩⟩)
  have hAcard := card_le_of_names (numbered_injective "META-INF/signature" ".p7s")
    fun n (hn : n ∈ A) => (Finset.mem_filter.mp hn).2
  have hBcard := card_le_of_names (numbered_injective "META-INF/ASiCManifest" ".xml")
    fun n (hn : n ∈ B) => (Finset.mem_filter.mp hn).2
  have hle := (Finset.card_le_card hcover).trans (Finset.card_union_le A B)
  rw [length_map] at hAcard hBcard
  omega

/-! ### `AddSignatureToAsicE` -/

/-- A session that signs, and the file it writes to. -/
structure SigningEnv where
  initialized : Bool := true
  privateKeyLoaded : Bool := true
  /-- `SignData`. -/
  signData : Bytes → Except String Bytes
  /-- The output exists and may not be overwritten. -/
  outputBlocked : Bool := false
  /-- `WriteBytesAtomic`. -/
  writeOutput : List ZipEntry → Except String Unit := fun _ => .ok ()

def digestOidToXmlDsigUri (digestOid : String) : String :=
  if digestOid = "1.2.804.2.1.1.1.1.2.2.1" then "http://www.w3.org/2001/04/xmlenc#dstu7564-256"
  else if digestOid = "1.2.804.2.1.1.1.1.2.1" then
    "http://www.w3.org/2001/04/xmldsig-more#gost34311"
  else if digestOid = "2.16.840.1.101.3.4.2.1" then "http://www.w3.org/2001/04/xmlenc#sha256"
  else if digestOid = "2.16.840.1.101.3.4.2.2" then
    "http://www.w3.org/2001/04/xmldsig-more#sha384"
  else if digestOid = "2.16.840.1.101.3.4.2.3" then "http://www.w3.org/2001/04/xmlenc#sha512"
  else ""

/-- The loop over the files: a reference with a digest for each. -/
def coSignatureRefs (crypto : XmlCrypto) :
    List AsicFileEntry → Except String (List AsicDataObjectRef)
  | [] => .ok []
  | file :: rest => do
    let hash ← labelled "Failed to hash ASiC-E data for co-signature manifest: "
      (crypto.computeImprint .kupyna256 file.data)
    let refs ← coSignatureRefs crypto rest
    .ok (⟨file.name, getMimeTypeFromFilename file.name,
      digestOidToXmlDsigUri (imprintDigestOid .kupyna256), base64Encode hash⟩ :: refs)

def coSignatureManifest (crypto : XmlCrypto) (content : AsicEContent) : Except String Bytes := do
  let refs ← coSignatureRefs crypto content.files
  .ok (textBytes (generateAsicManifestXml (numberedSignature (freeNumber content.signatures)) refs))

/-- `Session::AddSignatureToAsicE` on the octets of the container; the result is what
is written. -/
def addSignatureToAsicE (T : ContainerLib) (deflate : Bytes → Nat) (S : SigningEnv)
    (container : Container) : Except String (List ZipEntry) := do
  require (S.initialized = true) "Session is not initialized"
  require (S.privateKeyLoaded = true) "Private key is not loaded"
  let content ← labelled "Failed to unpack ASiC-E: " (unpackE T.xml container)
  require (content.files ≠ []) "ASiC-E container has no documents to sign"
  let manifestXml ← coSignatureManifest T.crypto content
  let signature ← S.signData manifestXml
  let n := freeNumber content.signatures
  let out ← labelled "Failed to add signature to ASiC-E: "
    (addSignature T.xml deflate container signature (numberedSignature n) (numberedManifest n)
      manifestXml)
  require (S.outputBlocked = false) "Output file already exists"
  S.writeOutput out
  .ok out

def newSignature (signatureData : Bytes) (sigFilename manifestFilename : String)
    (manifestXml : Bytes) : Asic.SignatureEntry :=
  ⟨metaInfName sigFilename, signatureData, metaInfName manifestFilename, manifestXml⟩

def coSignature (signature manifestXml : Bytes) : Asic.SignatureEntry :=
  newSignature signature (numberedSignature (freeNumber signatures))
    (numberedManifest (freeNumber signatures)) manifestXml

def withSignature (content : AsicEContent) (new : Asic.SignatureEntry) : AsicEContent :=
  { content with signatures := content.signatures ++ [new] }

variable {deflate : Bytes → Nat} {container : Container}

theorem addSignature_eq_ok {lib : LibXml2} {signatureData manifestXml : Bytes}
    {sigFilename manifestFilename : String} {out : List ZipEntry}
    (h : addSignature lib deflate container signatureData sigFilename manifestFilename manifestXml =
      .ok out) :
    ∃ content, unpackE lib container = .ok content ∧
      packE deflate (withSignature content
        (newSignature signatureData sigFilename manifestFilename manifestXml)) = .ok out := by
  simp only [addSignature, bind_eq_ok, require_eq_ok] at h
  obtain ⟨content, hunpack, -, -, hpack⟩ := h
  exact ⟨content, hunpack, hpack⟩

theorem addSignatureToAsicE_eq_ok {T : ContainerLib} {S : SigningEnv} {out : List ZipEntry}
    (h : addSignatureToAsicE T deflate S container = .ok out) :
    ∃ content manifestXml signature, unpackE T.xml container = .ok content ∧
      coSignatureManifest T.crypto content = .ok manifestXml ∧
      S.signData manifestXml = .ok signature ∧
      addSignature T.xml deflate container signature
        (numberedSignature (freeNumber content.signatures))
        (numberedManifest (freeNumber content.signatures)) manifestXml = .ok out := by
  simp only [addSignatureToAsicE, bind_eq_ok, require_eq_ok, labelled_eq_ok] at h
  obtain ⟨-, -, -, -, content, hunpack, -, -, manifestXml, hmanifest, signature, hsign, out', hadd,
    -, -, -, -, hout⟩ := h
  obtain rfl := Except.ok.inj hout
  exact ⟨content, manifestXml, signature, hunpack, hmanifest, hsign, hadd⟩

theorem addSignatureToAsicE_of_packE {T : ContainerLib} {S : SigningEnv} {content : AsicEContent}
    {manifestXml signature : Bytes} {out : List ZipEntry} (hinit : S.initialized = true)
    (hkey : S.privateKeyLoaded = true) (hunpack : unpackE T.xml container = .ok content)
    (hfiles : content.files ≠ [])
    (hmanifest : coSignatureManifest T.crypto content = .ok manifestXml)
    (hsign : S.signData manifestXml = .ok signature) (hdouble : ∀ s ∈ content.signatures,
      s.sigFilename ≠ "META-INF/" ++ numberedSignature (freeNumber content.signatures))
    (hpack : packE deflate
      (withSignature content (coSignature content.signatures signature manifestXml)) = .ok out)
    (hblocked : S.outputBlocked = false) (hwrite : S.writeOutput out = .ok ()) :
    addSignatureToAsicE T deflate S container = .ok out := by
  have hadd : addSignature T.xml deflate container signature
      (numberedSignature (freeNumber content.signatures))
      (numberedManifest (freeNumber content.signatures)) manifestXml = .ok out := by
    simp only [addSignature, bind_eq_ok, require_eq_ok]
    refine ⟨content, hunpack, (), fun s hs hname => ?_, hpack⟩
    rcases hname with hname | hname
    · have hfree := any_eq_false.mp (freeNumber_free content.signatures) s hs
      exact hfree (by simp [hname])
    · exact hdouble s hs hname
  simp only [addSignatureToAsicE, bind_eq_ok, require_eq_ok, labelled_eq_ok]
  exact ⟨(), hinit, (), hkey, content, hunpack, (), hfiles, manifestXml, hmanifest, signature, hsign,
    out, hadd, (), hblocked, (), hwrite, rfl⟩

/-! ### What is still there -/

/-- The entries that stand in the archive, directories left out. -/
def archived (container : Container) : List ZipEntry :=
  (container.archive.map fun zip => fileEntries zip.entries).getD []

/-- Every entry of the archive is in that of the result, with the same bytes under the same name,
the signatures are read back, there is one more of them, and every earlier one verifies as
before. -/
structure Conservative (T : ContainerLib) (X : XadesLib) (container : Container)
    (content : AsicEContent) (new : Asic.SignatureEntry) (result : Container) : Prop where
  entries : ∀ e ∈ archived container, ∃ f ∈ archived result,
    f.filename = e.filename ∧ f.extracted = e.extracted
  signatures : ∀ s ∈ content.signatures ++ [new], ∀ e ∈ s.entries, e ∈ readEntries result
  oneMore : unpackE T.xml result = .ok (withSignature content new)
  cades : ∀ env E st, ∀ s ∈ content.signatures,
    signatureStep T env E (withSignature content new) st s = signatureStep T env E content st s
  xades : ∀ e ∈ readEntries container, isXadesSignature e.name = true →
    verifyAllSigners X (bytesText e.data) (externalReferences (readEntries result)) =
      verifyAllSigners X (bytesText e.data) (externalReferences (readEntries container))

/-- The content with the new signature can be written and read back, and it accounts
for every entry of the archive, by its own name and bytes. -/
structure Accounted (lib : LibXml2) (deflate : Bytes → Nat) (container : Container)
    (content : AsicEContent) : Prop where
  readable : ReadableItems deflate content.items
  sorted : SortedBack lib content
  entries : ∀ e ∈ archived container, ∃ data, e.extracted = some data ∧
    ⟨e.filename, data⟩ ∈ content.entries

theorem documents_of_unpack {lib : LibXml2} {content : AsicEContent}
    (h : unpackE lib container = .ok content) :
    documents (readEntries container) = content.files := by
  obtain ⟨zip, entries, hload, -, hfiles, rfl, -, -⟩ := unpackE_eq_ok.mp h
  rw [readEntries_of_ok hload hfiles]
  refine filter_congr fun e _ => ?_
  rw [Bool.eq_iff_iff, decide_eq_true_eq]
  exact kind_eq_document.symm

theorem getFiles_eq_of_subset {items : List WriteItem}
    {L : Locator (items.map (WriteItem.entry deflate))} {files : List AsicFileEntry}
    (hsafe : SafeArchive (items.map (WriteItem.entry deflate)))
    (h : getFiles ⟨items.map (WriteItem.entry deflate), L⟩ = .ok files)
    (hall : ∀ i ∈ items, i.file ∈ files) : files = items.map WriteItem.file := by
  have hread := getFiles_eq_ok.mp h
  have hnodup := nodup_of_getFiles hsafe h
  -- the names the entries are listed under are distinct, and so are the items
  have hitems : (items.map WriteItem.file).Nodup := by
    refine List.Nodup.of_map (fun f => (WriteItem.entry deflate ⟨f.name, f.data, true⟩).statName) ?_
    have hdistinct := hsafe.distinct
    rw [map_map] at hdistinct ⊢
    exact hdistinct
  have hlen : items.length ≤ files.length := by
    have hsub : items.map WriteItem.file ⊆ files := by
      intro f hf
      obtain ⟨i, hi, rfl⟩ := mem_map.mp hf
      exact hall i hi
    rw [← length_map (f := WriteItem.file)]
    exact (subperm_of_subset hitems hsub).length_le
  have hfull : fileEntries (items.map (WriteItem.entry deflate)) =
      items.map (WriteItem.entry deflate) := by
    refine filter_eq_self.mpr (length_filter_eq_length_iff.mp ?_)
    refine Nat.le_antisymm (length_filter_le _ _) ?_
    rw [length_map]
    exact hlen.trans hread.length_eq.symm.le
  rw [hfull, forall₂_map_left_iff] at hread
  refine ext_getElem (by rw [length_map]; exact hread.length_eq.symm) fun k hk hk' => ?_
  rw [getElem_map]
  rw [length_map] at hk'
  have hmem : items[k].file ∈ files := hall _ (getElem_mem hk')
  -- a name that is listed is not cut, so the entry is listed under the name of its item
  obtain ⟨listed, -, hname⟩ := entry_of_file h hmem
  have hplain := statName_plain listed
  rw [← hname] at hplain
  have hfile : (items[k].entry deflate).filename = items[k].name := cString_eq_self hplain.1
  have hstat : (items[k].entry deflate).statName = items[k].name := by
    rw [statName_eq_self (by rw [hfile]; exact hplain.1) (by rw [hfile]; exact hplain.2), hfile]
  have hsame : files[k].name = items[k].file.name := (hread.get hk' hk).1.trans hstat
  exact inj_on_of_nodup_map hnodup (getElem_mem hk) hmem hsame

section Conservation

variable {T : ContainerLib} {X : XadesLib} {content : AsicEContent} {new : Asic.SignatureEntry}

theorem mem_of_lastData {test : String → Bool} {entries : List AsicFileEntry}
    (h : lastData test entries ≠ []) :
    ∃ e ∈ entries, test e.name = true ∧ e.data = lastData test entries := by
  rw [lastData] at h ⊢
  cases hlast : (entries.filter fun e => test e.name).getLast? with
  | none =>
    rw [hlast] at h
    exact absurd rfl h
  | some e =>
    obtain ⟨he, htest⟩ := mem_filter.mp (mem_of_getLast? hlast)
    exact ⟨e, he, htest, rfl⟩

theorem items_of_unpack {L : Locator (content.items.map (WriteItem.entry deflate))}
    {files : List AsicFileEntry} (hfiles : getFiles ⟨_, L⟩ = .ok files)
    (hmime : getMimetype ⟨_, L⟩ = some (textBytes AsicType.asicE.mimetype))
    (hcontent : content = assembleE T.xml files)
    (hsigs : ∀ s ∈ content.signatures, ∀ e ∈ s.entries, e ∈ files) :
    ∀ e ∈ content.entries, e ∈ files := by
  intro e he
  rw [AsicEContent.entries_eq] at he
  rcases mem_cons.mp he with rfl | he
  · -- the reader finds the `mimetype` entry first
    obtain ⟨-, hstat, hdir⟩ := @entry_of_plain deflate (mimetypeItem .asicE) (by decide)
    have hentry : (mimetypeItem .asicE).entry deflate ∈
        fileEntries (content.items.map (WriteItem.entry deflate)) :=
      mem_fileEntries.mpr ⟨mem_map_of_mem mem_cons_self, hdir⟩
    obtain ⟨f, hf, hname, hdata⟩ := file_of_entry hfiles hentry
    rw [hstat] at hname hdata
    rw [getMimetype, show extractFile _ "mimetype" = _ from hdata] at hmime
    have hsame : f = (mimetypeItem .asicE).file := by
      rw [show f = ⟨f.name, f.data⟩ from rfl, hname, Option.some.inj hmime]
      rfl
    exact hsame ▸ hf
  rcases mem_append.mp he with he | he
  · rw [hcontent] at he
    exact (mem_ofKind.mp he).1
  rcases mem_append.mp he with he | he
  · obtain ⟨s, hs, he⟩ := mem_flatMap.mp he
    exact hsigs s hs e he
  have hts : content.timestampData = lastData isTimestampEntry files :=
    congrArg AsicEContent.timestampData hcontent
  by_cases hnil : content.timestampData = []
  · rw [timestampItems, if_pos hnil] at he
    cases he
  rw [timestampItems, if_neg hnil] at he
  obtain rfl := mem_singleton.mp he
  obtain ⟨f, hf, hname, hdata⟩ := mem_of_lastData (hts ▸ hnil)
  have hsame : f = WriteItem.file ⟨"META-INF/timestamp.tst", content.timestampData, false⟩ := by
    rw [show f = ⟨f.name, f.data⟩ from rfl, hdata, ← hts,
      show f.name = "META-INF/timestamp.tst" by simpa [isTimestampEntry] using hname]
    rfl
  exact hsame ▸ hf

theorem accounted_of_conservative {out : List ZipEntry}
    (hpack : packE deflate (withSignature content new) = .ok out)
    (h : ∀ L : Locator out, Conservative T X container content new (reopened out L)) :
    Accounted T.xml deflate container (withSignature content new) := by
  obtain ⟨rfl, -⟩ := packE_ok hpack
  have hread : ∀ L : Locator ((withSignature content new).items.map (WriteItem.entry deflate)),
      getFiles ⟨_, L⟩ = .ok (withSignature content new).entries ∧
        readEntries (reopened _ L) = (withSignature content new).entries := by
    intro L
    obtain ⟨zip, files, hload, hmime, hfiles, hcontent, -, -⟩ := unpackE_eq_ok.mp (h L).oneMore
    obtain ⟨-, harch, hsafe⟩ := loadFromBuffer_eq_ok.mp hload
    obtain rfl := Option.some.inj harch
    have hentries := readEntries_of_ok hload hfiles
    have hall : ∀ e ∈ (withSignature content new).entries, e ∈ files := by
      refine items_of_unpack hfiles hmime hcontent fun s hs e he => ?_
      rw [← hentries]
      exact (h L).signatures s hs e he
    have heq := getFiles_eq_of_subset hsafe hfiles fun i hi => hall _ (mem_map_of_mem hi)
    subst heq
    exact ⟨hfiles, hentries⟩
  obtain ⟨hreadable, hsorted⟩ :=
    (survivesE_iff hpack).mp fun L => ⟨(hread L).1, (h L).oneMore⟩
  refine ⟨hreadable, hsorted, fun e he => ?_⟩
  obtain ⟨f, hf, hname, hdata⟩ := (h (.ofScan _)).entries e he
  obtain ⟨i, hi, rfl⟩ := mem_map.mp (mem_fileEntries.mp hf).1
  rw [(entry_of_plain (hreadable.plain i hi)).1] at hname
  rw [← hname]
  exact ⟨i.data, hdata.symm, mem_map_of_mem hi⟩

theorem conservative_of_accounted {out : List ZipEntry}
    (hunpack : unpackE T.xml container = .ok content)
    (hpack : packE deflate (withSignature content new) = .ok out)
    (h : Accounted T.xml deflate container (withSignature content new)) (L : Locator out) :
    Conservative T X container content new (reopened out L) := by
  obtain ⟨hfiles, honeMore⟩ := (survivesE_iff hpack).mpr ⟨h.readable, h.sorted⟩ L
  obtain ⟨zip, -, hload, -⟩ := unpackE_eq_ok.mp honeMore
  obtain rfl := Option.some.inj (loadFromBuffer_eq_ok.mp hload).2.1
  have hentries : readEntries (reopened out L) = (withSignature content new).entries :=
    readEntries_of_ok hload hfiles
  refine ⟨?_, ?_, honeMore, fun _ _ _ _ _ => rfl, fun e _ _ => ?_⟩
  · intro e he
    obtain ⟨data, hdata, hmem⟩ := h.entries e he
    obtain ⟨i, hi, hfile⟩ := mem_map.mp hmem
    obtain ⟨hname, -, hdir⟩ := @entry_of_plain deflate i (h.readable.plain i hi)
    obtain ⟨hsame, rfl⟩ := AsicFileEntry.mk.inj hfile
    obtain ⟨rfl, -⟩ := packE_ok hpack
    exact ⟨_, mem_fileEntries.mpr ⟨mem_map_of_mem hi, hdir⟩, hname.trans hsame, hdata.symm⟩
  · rw [hentries]
    exact fun s hs e he => mem_entries_of_signature hs he
  · rw [externalReferences, externalReferences, documents_of_unpack hunpack,
      documents_of_unpack honeMore]
    rfl

end Conservation

/-- **Adding a signature is conservative** exactly when the unpacked content, with the new
signature, accounts for every entry of the container and can be written and read back. -/
theorem addSignature_conservative_iff (T : ContainerLib) (X : XadesLib) (deflate : Bytes → Nat)
    (container : Container) (content : AsicEContent)
    (hunpack : unpackE T.xml container = .ok content) :
    (∀ signatureData sigFilename manifestFilename manifestXml out,
      addSignature T.xml deflate container signatureData sigFilename manifestFilename manifestXml =
        .ok out →
      ((∀ L : Locator out, Conservative T X container content
          (newSignature signatureData sigFilename manifestFilename manifestXml) (reopened out L)) ↔
        Accounted T.xml deflate container (withSignature content
          (newSignature signatureData sigFilename manifestFilename manifestXml)))) ∧
    (∀ S out, addSignatureToAsicE T deflate S container = .ok out →
      ∃ manifestXml signature, coSignatureManifest T.crypto content = .ok manifestXml ∧
        S.signData manifestXml = .ok signature ∧
        ((∀ L : Locator out, Conservative T X container content
            (coSignature content.signatures signature manifestXml) (reopened out L)) ↔
          Accounted T.xml deflate container (withSignature content
            (coSignature content.signatures signature manifestXml)))) := by
  have hadd : ∀ signatureData sigFilename manifestFilename manifestXml out,
      addSignature T.xml deflate container signatureData sigFilename manifestFilename manifestXml =
        .ok out →
      ((∀ L : Locator out, Conservative T X container content
          (newSignature signatureData sigFilename manifestFilename manifestXml) (reopened out L)) ↔
        Accounted T.xml deflate container (withSignature content
          (newSignature signatureData sigFilename manifestFilename manifestXml))) := by
    intro signatureData sigFilename manifestFilename manifestXml out h
    obtain ⟨content', hunpack', hpack⟩ := addSignature_eq_ok h
    obtain rfl := Except.ok.inj (hunpack.symm.trans hunpack')
    exact ⟨accounted_of_conservative hpack, conservative_of_accounted hunpack hpack⟩
  refine ⟨hadd, fun S out h => ?_⟩
  obtain ⟨content', manifestXml, signature, hunpack', hmanifest, hsign, h⟩ :=
    addSignatureToAsicE_eq_ok h
  obtain rfl := Except.ok.inj (hunpack.symm.trans hunpack')
  exact ⟨manifestXml, signature, hmanifest, hsign, hadd _ _ _ _ _ h⟩

/-- A libxml2 that knows the manifests of two signatures. -/
def coSignatureLib : ContainerLib :=
  identityLib [("one", manifestDocument "META-INF/signature001.p7s" [digestRef "a.txt" [1]]),
    ("two", manifestDocument "META-INF/signature002.p7s" [digestRef "a.txt" [1]])]

theorem coSignature_unpack : unpackE coSignatureLib.xml plainContainer = .ok plainContent := by
  decide +kernel

def coSigned : AsicEContent :=
  withSignature plainContent (newSignature [12] "signature002.p7s" "ASiCManifest002.xml"
    (textBytes "two"))

theorem coSigned_accounted : Accounted coSignatureLib.xml List.length plainContainer coSigned where
  readable := ⟨by decide, by decide, by decide, by decide, by decide, by decide, by decide,
    by decide⟩
  sorted :=
    { documents := by decide
      manifests := by decide
      named := by
        have hparse : ∀ s ∈ coSigned.signatures,
            (parseAsicManifestXml coSignatureLib.xml s.manifestXml).map AsicManifest.sigUri =
              some s.sigFilename := by
          decide +kernel
        intro s hs
        obtain ⟨manifest, hmanifest, hname⟩ := Option.map_eq_some_iff.mp (hparse s hs)
        exact ⟨manifest.dataRefs, hname ▸ hmanifest⟩
      signatures := by decide }
  entries := by decide +kernel

/-- A second signature is added to the plain container, and nothing is lost. -/
theorem addSignature_conservative_plain :
    addSignature coSignatureLib.xml List.length plainContainer [12] "signature002.p7s"
      "ASiCManifest002.xml" (textBytes "two") =
        .ok (coSigned.items.map (WriteItem.entry List.length)) ∧
    ∀ X (L : Locator (coSigned.items.map (WriteItem.entry List.length))),
      Conservative coSignatureLib X plainContainer plainContent
        (newSignature [12] "signature002.p7s" "ASiCManifest002.xml" (textBytes "two"))
        (reopened _ L) := by
  have hrun : addSignature coSignatureLib.xml List.length plainContainer [12] "signature002.p7s"
      "ASiCManifest002.xml" (textBytes "two") =
        .ok (coSigned.items.map (WriteItem.entry List.length)) := by
    simp only [addSignature, bind_eq_ok, require_eq_ok]
    exact ⟨plainContent, coSignature_unpack, (), by decide,
      packE_of_writable (by decide) (by decide) (by decide) (by decide)⟩
  refine ⟨hrun, fun X => ?_⟩
  exact ((addSignature_conservative_iff coSignatureLib X List.length plainContainer plainContent
    coSignature_unpack).1 _ _ _ _ _ hrun).mpr coSigned_accounted

/-- A container with a CAdES signature, and a XAdES signature that no manifest
mentions. -/
def mixedContainer : Container :=
  reopened (oneSignature [storedEntry "a.txt" [1]] ++
    [storedEntry "META-INF/signatures001.xml" [13]]) (.ofScan _)

def coSigner : SigningEnv where
  signData _ := .ok [12]

theorem mixed_unpack : unpackE plainLib.xml mixedContainer = .ok plainContent := by decide +kernel

def coSignedNames : List String :=
  ["mimetype", "a.txt", "META-INF/ASiCManifest001.xml", "META-INF/signature001.p7s",
    "META-INF/ASiCManifest002.xml", "META-INF/signature002.p7s"]

/-- A second CAdES signature is added, and the XAdES signature is gone. -/
theorem xades_signature_lost :
    storedEntry "META-INF/signatures001.xml" [13] ∈ archived mixedContainer ∧
    isXadesSignature "META-INF/signatures001.xml" = true ∧
    ∃ out, addSignatureToAsicE plainLib List.length coSigner mixedContainer = .ok out ∧
      ∀ e ∈ out, e.filename ≠ "META-INF/signatures001.xml" := by
  refine ⟨by decide +kernel, by decide, ?_⟩
  obtain ⟨manifestXml, hmanifest, hxml⟩ : ∃ manifestXml,
      coSignatureManifest plainLib.crypto plainContent = .ok manifestXml ∧ manifestXml ≠ [] :=
    ⟨_, rfl, generateAsicManifestXml_ne_nil _ _⟩
  have hnew : coSignature plainContent.signatures [12] manifestXml =
      ⟨"META-INF/signature002.p7s", [12], "META-INF/ASiCManifest002.xml", manifestXml⟩ := by
    rw [coSignature, newSignature, show metaInfName _ = "META-INF/signature002.p7s" by decide +kernel,
      show metaInfName _ = "META-INF/ASiCManifest002.xml" by decide +kernel]
  -- whether an item can be written, and where it is listed, depends on its name alone
  have hnames : ∀ i ∈ (withSignature plainContent
      (coSignature plainContent.signatures [12] manifestXml)).items, i.name ∈ coSignedNames := by
    exact fun i hi => mem_map_of_mem hi
  have hpack := @packE_of_writable List.length (withSignature plainContent
    (coSignature plainContent.signatures [12] manifestXml)) (by simp [withSignature, plainContent])
    (by simp [withSignature]) (by
      simpa [withSignature, plainContent] using ⟨by decide, hxml⟩)
    fun i hi => (show ∀ name ∈ coSignedNames, (WriteItem.mk name [] false).Writable by decide)
      i.name (hnames i hi)
  refine ⟨_, addSignatureToAsicE_of_packE rfl rfl mixed_unpack (by decide) hmanifest rfl
    (by decide +kernel) hpack rfl rfl, fun e he => ?_⟩
  obtain ⟨i, hi, rfl⟩ := mem_map.mp he
  exact (show ∀ name ∈ coSignedNames, cString name ≠ "META-INF/signatures001.xml" by decide)
    i.name (hnames i hi)

end Tamga.Session
