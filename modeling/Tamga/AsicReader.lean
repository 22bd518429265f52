/-
Reading an ASiC container (`asic/AsicReader.cpp`).

`LoadFromBuffer` opens the archive and checks it entry by entry before anything
is unpacked; the names are compared byte by byte there.  `GetFiles` then extracts
every entry by name, through a search that does not tell upper from lower case.

* `validateArchiveSafety_eq_ok` — the safety loop as one condition on the entries;
* `getFiles_eq_ok` — what the extraction loop returns;
* `getFiles_own_content_iff` — the pairs are those of the archive exactly when the
  entries whose names the search cannot tell apart have the same content.
-/
import Mathlib.Algebra.BigOperators.Group.List.Basic
import Mathlib.Algebra.GroupWithZero.Nat
import Tamga.ZipArchive

namespace Tamga.Asic

open Util Zip List

/-! ### Limits -/

def kMaxAsicEntries : Nat := 4096

/-- 64 MiB. -/
def kMaxEntryUncompressedSize : Nat := 67108864

/-- 256 MiB. -/
def kMaxTotalUncompressedSize : Nat := 268435456

/-- 1 MiB. -/
def kCompressionRatioFloor : Nat := 1048576

def kMaxCompressionRatio : Nat := 100

/-- 300 MiB. -/
def kMaxCompressedContainerSize : Nat := 314572800

/-! ### The safety check -/

def isUnsafeEntryName (name : String) : Bool :=
  match name.toList with
  | [] => true
  | c :: rest =>
    c == '/' || c == '\\' || rest.head? == some ':' || (c :: rest).contains '\\' ||
      ((c :: rest).splitOn '/').contains ['.', '.']

/-- The size of an entry, and how far it is compressed, are acceptable. -/
def sizeAccepted (uncomp comp : Nat) : Prop :=
  uncomp ≤ kMaxEntryUncompressedSize ∧
    ¬ (kCompressionRatioFloor < uncomp ∧ 0 < comp ∧ kMaxCompressionRatio < uncomp / comp)

instance (uncomp comp : Nat) : Decidable (sizeAccepted uncomp comp) :=
  inferInstanceAs (Decidable (_ ∧ _))

/-- The loop of `ValidateArchiveSafety`, with the names and the sum of the sizes
seen so far. -/
def validateEntries : List ZipEntry → List String → Nat → Except String Unit
  | [], _, _ => .ok ()
  | e :: rest, seenNames, total => do
    require (isUnsafeEntryName e.statName = false)
      ("ASiC container rejected: unsafe entry name '" ++ e.statName ++ "'")
    require (e.statName ∉ seenNames)
      ("ASiC container rejected: duplicate entry name '" ++ e.statName ++ "'")
    if e.isDirectory then validateEntries rest (e.statName :: seenNames) total
    else do
      require (e.uncompSize ≤ kMaxEntryUncompressedSize)
        ("ASiC container rejected: entry '" ++ e.statName ++ "' exceeds the per-entry size limit")
      require (total + e.uncompSize ≤ kMaxTotalUncompressedSize)
        "ASiC container rejected: total uncompressed size exceeds the limit"
      require (¬ (kCompressionRatioFloor < e.uncompSize ∧ 0 < e.compSize ∧
          kMaxCompressionRatio < e.uncompSize / e.compSize))
        ("ASiC container rejected: entry '" ++ e.statName ++
          "' has a suspicious compression ratio (zip bomb)")
      validateEntries rest (e.statName :: seenNames) (total + e.uncompSize)

def validateArchiveSafety (entries : List ZipEntry) : Except String Unit := do
  require (entries.length ≤ kMaxAsicEntries)
    ("ASiC container rejected: too many entries (" ++ toString entries.length ++ " > " ++
      toString kMaxAsicEntries ++ ")")
  validateEntries entries [] 0

def fileEntries (entries : List ZipEntry) : List ZipEntry :=
  entries.filter fun e => !e.isDirectory

def totalSize (entries : List ZipEntry) : Nat := ((fileEntries entries).map ZipEntry.uncompSize).sum

/-- What the safety check asks of an archive. -/
structure SafeArchive (entries : List ZipEntry) : Prop where
  count : entries.length ≤ kMaxAsicEntries
  names : ∀ e ∈ entries, isUnsafeEntryName e.statName = false
  distinct : (entries.map ZipEntry.statName).Nodup
  sizes : ∀ e ∈ fileEntries entries, sizeAccepted e.uncompSize e.compSize
  total : totalSize entries ≤ kMaxTotalUncompressedSize

theorem fileEntries_cons (e : ZipEntry) (rest : List ZipEntry) :
    fileEntries (e :: rest) = if e.isDirectory then fileEntries rest else e :: fileEntries rest := by
  cases h : e.isDirectory <;> simp [fileEntries, h]

variable {entries : List ZipEntry} {zip : Archive}

theorem mem_fileEntries {e : ZipEntry} :
    e ∈ fileEntries entries ↔ e ∈ entries ∧ e.isDirectory = false := by
  simp [fileEntries]

/-- The safety loop: the order of its tests does not matter, and the running sum
passes the limit only if the whole sum does. -/
theorem validateEntries_eq_ok {u : Unit} :
    ∀ (entries : List ZipEntry) (seen : List String) (total : Nat),
      total ≤ kMaxTotalUncompressedSize →
      (validateEntries entries seen total = .ok u ↔
        (∀ e ∈ entries, isUnsafeEntryName e.statName = false) ∧
        (entries.map ZipEntry.statName).Nodup ∧ (∀ e ∈ entries, e.statName ∉ seen) ∧
        (∀ e ∈ fileEntries entries, sizeAccepted e.uncompSize e.compSize) ∧
        total + totalSize entries ≤ kMaxTotalUncompressedSize) := by
  intro entries
  induction entries with
  | nil =>
    intro seen total htotal
    simp [validateEntries, fileEntries, totalSize, htotal]
  | cons e rest ih =>
    intro seen total htotal
    have hseen : (∀ f ∈ rest, f.statName ∉ e.statName :: seen) ↔
        e.statName ∉ rest.map ZipEntry.statName ∧ ∀ f ∈ rest, f.statName ∉ seen := by
      simp only [mem_cons, not_or, mem_map, not_exists, not_and, imp_and, forall_and]
    cases hd : e.isDirectory with
    | true =>
      simp only [validateEntries, hd, if_true, bind_eq_ok, require_eq_ok, exists_and_left,
        exists_const, ih _ total htotal, hseen, totalSize, fileEntries_cons, map_cons,
        nodup_cons, forall_mem_cons]
      constructor
      · rintro ⟨hsafe, hnew, hsafe', hdist, ⟨hfresh, hnot⟩, hsizes, htot⟩
        exact ⟨⟨hsafe, hsafe'⟩, ⟨hfresh, hdist⟩, ⟨hnew, hnot⟩, hsizes, htot⟩
      · rintro ⟨⟨hsafe, hsafe'⟩, ⟨hfresh, hdist⟩, ⟨hnew, hnot⟩, hsizes, htot⟩
        exact ⟨hsafe, hnew, hsafe', hdist, ⟨hfresh, hnot⟩, hsizes, htot⟩
    | false =>
      simp only [validateEntries, hd, Bool.false_eq_true, if_false, bind_eq_ok, require_eq_ok,
        exists_and_left, exists_const, totalSize, fileEntries_cons, map_cons,
        nodup_cons, forall_mem_cons, sum_cons]
      constructor
      · rintro ⟨hsafe, hnew, hsize, hsum, hratio, hrest⟩
        obtain ⟨hsafe', hdist, hnot, hsizes, htot⟩ := (ih _ _ hsum).mp hrest
        obtain ⟨hfresh, hnot⟩ := hseen.mp hnot
        exact ⟨⟨hsafe, hsafe'⟩, ⟨hfresh, hdist⟩, ⟨hnew, hnot⟩, ⟨⟨hsize, hratio⟩, hsizes⟩,
          by rw [totalSize] at htot; omega⟩
      · rintro ⟨⟨hsafe, hsafe'⟩, ⟨hfresh, hdist⟩, ⟨hnew, hnot⟩, ⟨⟨hsize, hratio⟩, hsizes⟩, htot⟩
        have hsum : total + e.uncompSize ≤ kMaxTotalUncompressedSize := by omega
        refine ⟨hsafe, hnew, hsize, hsum, hratio, (ih _ _ hsum).mpr ?_⟩
        exact ⟨hsafe', hdist, hseen.mpr ⟨hfresh, hnot⟩, hsizes, by rw [totalSize]; omega⟩

theorem validateArchiveSafety_eq_ok {u : Unit} :
    validateArchiveSafety entries = .ok u ↔ SafeArchive entries := by
  simp only [validateArchiveSafety, bind_eq_ok, require_eq_ok, exists_and_left, exists_const,
    validateEntries_eq_ok entries [] 0 (Nat.zero_le _), Nat.zero_add, not_mem_nil,
    not_false_eq_true, implies_true, true_and]
  constructor
  · rintro ⟨hcount, hnames, hdist, hsizes, htotal⟩
    exact ⟨hcount, hnames, hdist, hsizes, htotal⟩
  · rintro ⟨hcount, hnames, hdist, hsizes, htotal⟩
    exact ⟨hcount, hnames, hdist, hsizes, htotal⟩

/-! ### Opening and extracting -/

def loadFromBuffer (data : Container) : Except String Archive := do
  require (data.size ≤ kMaxCompressedContainerSize)
    ("ASiC container rejected: buffer too large (" ++ toString data.size ++ " > " ++
      toString kMaxCompressedContainerSize ++ " bytes)")
  let zip ← orError data.archive "Failed to initialize ZIP reader from memory buffer"
  validateArchiveSafety zip.entries
  .ok zip

theorem loadFromBuffer_eq_ok {data : Container} : loadFromBuffer data = .ok zip ↔
      data.size ≤ kMaxCompressedContainerSize ∧ data.archive = some zip ∧
        SafeArchive zip.entries := by
  simp only [loadFromBuffer, bind_eq_ok, require_eq_ok, orError_eq_ok, exists_and_left,
    exists_const, validateArchiveSafety_eq_ok, Except.ok.injEq]
  constructor
  · rintro ⟨hsize, zip', harch, hsafe, rfl⟩
    exact ⟨hsize, harch, hsafe⟩
  · rintro ⟨hsize, harch, hsafe⟩
    exact ⟨hsize, zip, harch, hsafe, rfl⟩

def extractFile (zip : Archive) (name : String) : Except String Bytes :=
  match zip.locator.locateFile (cString name) with
  | none => .error ("File not found in archive: " ++ name)
  | some e => orError e.extracted ("Failed to extract file: " ++ name)

theorem extractFile_eq_ok {name : String} {data : Bytes} : extractFile zip name = .ok data ↔
      ∃ e, zip.locator.locateFile (cString name) = some e ∧ e.extracted = some data := by
  rw [extractFile]
  cases zip.locator.locateFile (cString name) <;> simp

def getMimetype (zip : Archive) : Option Bytes := (extractFile zip "mimetype").toOption

structure AsicFileEntry where
  name : String
  data : Bytes
  deriving DecidableEq, Repr

/-- The loop of `AsicReader::GetFiles` over the entries that are not directories. -/
def extractEntries (zip : Archive) : List ZipEntry → Except String (List AsicFileEntry)
  | [] => .ok []
  | e :: rest => do
    let data ← extractFile zip e.statName
    let files ← extractEntries zip rest
    .ok (⟨e.statName, data⟩ :: files)

def getFiles (zip : Archive) : Except String (List AsicFileEntry) :=
  extractEntries zip (fileEntries zip.entries)

theorem extractEntries_eq_ok : ∀ {entries : List ZipEntry} {files : List AsicFileEntry},
      extractEntries zip entries = .ok files ↔
        List.Forall₂ (fun e f => f.name = e.statName ∧ extractFile zip e.statName = .ok f.data)
          entries files := by
  intro entries
  induction entries with
  | nil =>
    intro files
    simp [extractEntries, eq_comm]
  | cons e rest ih =>
    intro files
    simp only [extractEntries, bind_eq_ok, ih, Except.ok.injEq]
    constructor
    · rintro ⟨data, hdata, files', hfiles, rfl⟩
      exact .cons ⟨rfl, hdata⟩ hfiles
    · intro h
      rcases h with _ | ⟨⟨hname, hdata⟩, hrest⟩
      rename_i f files'
      refine ⟨f.data, hdata, files', hrest, ?_⟩
      rw [← hname]

theorem getFiles_eq_ok {files : List AsicFileEntry} : getFiles zip = .ok files ↔
      List.Forall₂ (fun e f => f.name = e.statName ∧ extractFile zip e.statName = .ok f.data)
        (fileEntries zip.entries) files :=
  extractEntries_eq_ok

section Pairs

variable {α β : Type} {R : α → β → Prop} {as : List α} {bs : List β}

theorem exists_right (h : List.Forall₂ R as bs) {a : α} (ha : a ∈ as) :
    ∃ b, (a, b) ∈ as.zip bs ∧ R a b := by
  rw [← map_fst_zip (Nat.le_of_eq h.length_eq)] at ha
  obtain ⟨⟨a, b⟩, hmem, rfl⟩ := mem_map.mp ha
  exact ⟨b, hmem, (forall₂_iff_zip.mp h).2 hmem⟩

theorem exists_left (h : List.Forall₂ R as bs) {b : β} (hb : b ∈ bs) :
    ∃ a, (a, b) ∈ as.zip bs ∧ R a b := by
  rw [← map_snd_zip (Nat.le_of_eq h.length_eq.symm)] at hb
  obtain ⟨⟨a, b⟩, hmem, rfl⟩ := mem_map.mp hb
  exact ⟨a, hmem, (forall₂_iff_zip.mp h).2 hmem⟩

end Pairs

theorem file_of_entry {files : List AsicFileEntry} (h : getFiles zip = .ok files) {e : ZipEntry}
    (he : e ∈ fileEntries zip.entries) :
    ∃ f ∈ files, f.name = e.statName ∧ extractFile zip e.statName = .ok f.data := by
  obtain ⟨f, hpair, hf⟩ := exists_right (getFiles_eq_ok.mp h) he
  exact ⟨f, (of_mem_zip hpair).2, hf⟩

theorem entry_of_file {files : List AsicFileEntry} (h : getFiles zip = .ok files)
    {f : AsicFileEntry} (hf : f ∈ files) : ∃ e ∈ fileEntries zip.entries, f.name = e.statName := by
  obtain ⟨e, hpair, he⟩ := exists_left (getFiles_eq_ok.mp h) hf
  exact ⟨e, (of_mem_zip hpair).1, he.1⟩

theorem extractFile_of_getFiles {files : List AsicFileEntry} (h : getFiles zip = .ok files) :
    ∀ f ∈ files, extractFile zip f.name = .ok f.data := by
  intro f hf
  obtain ⟨e, -, hname, hdata⟩ := exists_left (getFiles_eq_ok.mp h) hf
  rw [hname]
  exact hdata

/-- The entry as it stands in the archive, under the name it is listed with. -/
def ownFile (e : ZipEntry) : AsicFileEntry := ⟨e.statName, e.extracted.getD []⟩

def ownFiles (entries : List ZipEntry) : List AsicFileEntry := (fileEntries entries).map ownFile

/-- For every entry that is not a directory there is one whose name agrees up to
case with the name it is listed under, and all such have its content. -/
def NamesSeparate (entries : List ZipEntry) : Prop :=
  ∀ e ∈ fileEntries entries, (∃ f ∈ entries, SameName f.filename e.statName) ∧
    ∀ f ∈ entries, SameName f.filename e.statName → f.extracted = e.extracted

instance (entries : List ZipEntry) : Decidable (NamesSeparate entries) :=
  inferInstanceAs (Decidable (∀ e ∈ fileEntries entries, _))

theorem namesSeparate_iff : NamesSeparate entries ↔
      ∀ L : Locator entries, ∀ e ∈ fileEntries entries, ∃ f,
        L.locateFile e.statName = some f ∧ f.extracted = e.extracted := by
  constructor
  · intro h L e he
    obtain ⟨hex, hall⟩ := h e he
    obtain ⟨f, hf⟩ := Option.isSome_iff_exists.mp (L.complete hex)
    obtain ⟨hmem, hsame⟩ := L.sound hf
    exact ⟨f, hf, hall f hmem hsame⟩
  · intro h e he
    constructor
    · obtain ⟨f, hf, -⟩ := h (.ofScan entries) e he
      exact ⟨f, (Locator.ofScan entries).sound hf⟩
    · intro f hf hsame
      obtain ⟨L', hL'⟩ := Locator.exists_locating hf hsame
      obtain ⟨g, hg, hcontent⟩ := h L' e he
      obtain rfl : f = g := Option.some.inj (hL'.symm.trans hg)
      exact hcontent

theorem getFiles_eq_ownFiles_iff (hread : ∀ e ∈ fileEntries entries, e.extracted.isSome = true)
    (L : Locator entries) :
    getFiles ⟨entries, L⟩ = .ok (ownFiles entries) ↔
      ∀ e ∈ fileEntries entries, ∃ f,
        L.locateFile e.statName = some f ∧ f.extracted = e.extracted := by
  rw [getFiles_eq_ok, ownFiles, forall₂_map_right_iff, forall₂_same]
  refine forall₂_congr fun e he => ?_
  obtain ⟨data, hdata⟩ := Option.isSome_iff_exists.mp (hread e he)
  simp [ownFile, extractFile_eq_ok, hdata]

/-- **Each entry with its own content.**  Whatever entry the search returns among names that agree
up to case, `GetFiles` pairs every entry with its own content exactly when such entries have the
same content. -/
theorem getFiles_own_content_iff (entries : List ZipEntry)
    (hread : ∀ e ∈ fileEntries entries, e.extracted.isSome = true) :
    (∀ L : Locator entries, getFiles ⟨entries, L⟩ = .ok (ownFiles entries)) ↔
      NamesSeparate entries := by
  rw [namesSeparate_iff]
  exact forall_congr' fun L => getFiles_eq_ownFiles_iff hread L

def storedEntry (name : String) (data : Bytes) : ZipEntry :=
  ⟨name, false, data.length, data.length, some data⟩

/-- Entries with distinct names, up to case too, are read as they are. -/
theorem getFiles_own_content_plain :
    NamesSeparate [storedEntry "mimetype" [7], storedEntry "a.txt" [1]] ∧
    getFiles ⟨[storedEntry "mimetype" [7], storedEntry "a.txt" [1]], .ofScan _⟩ =
      .ok [⟨"mimetype", [7]⟩, ⟨"a.txt", [1]⟩] :=
  ⟨by decide, (getFiles_own_content_iff _ (by decide)).mpr (by decide) _⟩

def caseTwins : List ZipEntry :=
  [storedEntry "mimetype" [7], storedEntry "a.txt" [1], storedEntry "A.txt" [2]]

/-- The index as the heap sort of miniz leaves it. -/
def caseTwinsIndex : SortedIndex caseTwins where
  table := [storedEntry "a.txt" [1], storedEntry "A.txt" [2], storedEntry "mimetype" [7]]
  perm := by decide
  ordered := by decide

/-- The archive is accepted, and the content of `A.txt` is returned for `a.txt`
too. -/
theorem case_twins_share_content :
    (loadFromBuffer ⟨400, some ⟨caseTwins, .ofIndex caseTwinsIndex⟩⟩).toOption.isSome = true ∧
    (getFiles ⟨caseTwins, .ofIndex caseTwinsIndex⟩).toOption =
      some [⟨"mimetype", [7]⟩, ⟨"a.txt", [2]⟩, ⟨"A.txt", [2]⟩] ∧
    ownFiles caseTwins = [⟨"mimetype", [7]⟩, ⟨"a.txt", [1]⟩, ⟨"A.txt", [2]⟩] := by
  decide +kernel

end Tamga.Asic
