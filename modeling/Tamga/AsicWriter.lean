/-
Writing an ASiC container (`asic/AsicWriter.cpp`), and reading back what was
written.

The writer hands each entry to `mz_zip_writer_add_read_buf_callback`, which takes
its name as a C string and refuses a name with a leading `/` or of more than 65535
bytes; it looks neither at the names already written nor at the limits of the
reader.  How small the deflated data of an entry is, is an oracle.

* `addFile_eq_ok` — what one call writes, the `mimetype` entry before the first;
* `readBack_iff` — the reader returns exactly the entries that were written when
  their names and sizes satisfy `ReadableItems`, and only then.
-/
import Tamga.AsicReader

namespace Tamga.Asic

open Util Zip List

/-! ### Entries handed to the writer -/

/-- The arguments of `AddFile`. -/
structure WriteItem where
  name : String
  data : Bytes
  compress : Bool
  deriving DecidableEq, Repr

variable (deflate : Bytes → Nat) (entries : List ZipEntry) (item : WriteItem)

/-- The size of the stored or deflated data; miniz never deflates three bytes or
less. -/
def WriteItem.compSize : Nat :=
  if item.compress ∧ 3 < item.data.length then deflate item.data else item.data.length

def WriteItem.entry : ZipEntry where
  filename := cString item.name
  compSize := item.compSize deflate
  uncompSize := item.data.length
  extracted := some item.data

def WriteItem.file : AsicFileEntry := ⟨item.name, item.data⟩

/-- The names that miniz accepts. -/
def WriteItem.Writable : Prop :=
  (cString item.name).toList.head? ≠ some '/' ∧ (cString item.name).length ≤ 65535

instance (item : WriteItem) : Decidable item.Writable := inferInstanceAs (Decidable (_ ∧ _))

/-- The bytes of an archive without extra fields: a local header and a record of
the directory for each entry, and the end record. -/
def containerSize : Nat :=
  (entries.map fun e => 30 + e.filename.length + e.compSize + (46 + e.filename.length)).sum + 22

def reopened (L : Locator entries) : Container :=
  ⟨containerSize entries, some ⟨entries, L⟩⟩

/-! ### The writer -/

inductive AsicType where
  | asicS
  | asicE
  deriving DecidableEq, Repr

def AsicType.mimetype : AsicType → String
  | .asicS => "application/vnd.etsi.asic-s+zip"
  | .asicE => "application/vnd.etsi.asic-e+zip"

def mimetypeItem (type : AsicType) : WriteItem := ⟨"mimetype", textBytes type.mimetype, false⟩

/-- `AsicWriter`; it is initialised as soon as it has an entry. -/
structure AsicWriter where
  type : AsicType
  entries : List ZipEntry := []

def addMemoryEntry : Option (List ZipEntry) :=
  if item.Writable then some (entries ++ [item.entry deflate]) else none

variable (w : AsicWriter)

/-- The first branch of `AddFile`: an archive that has no entry yet gets its
`mimetype` entry. -/
def AsicWriter.opened (message : String) : Except String (List ZipEntry) :=
  if w.entries = [] then orError (addMemoryEntry deflate [] (mimetypeItem w.type)) message
  else .ok w.entries

/-- `AsicWriter::AddFile`, with the message its caller reports. -/
def AsicWriter.addFile (item : WriteItem) (message : String) : Except String AsicWriter := do
  let entries ← w.opened deflate message
  let entries ← orError (addMemoryEntry deflate entries item) message
  .ok { w with entries := entries }

def AsicWriter.finalize : Except String (List ZipEntry) := do
  let w ←
    if w.entries = [] then w.addFile deflate ⟨"", [], false⟩ "Failed to initialize archive"
    else .ok w
  .ok w.entries

/-- The entries with the `mimetype` entry that the first call adds. -/
def AsicWriter.started : List ZipEntry :=
  if w.entries = [] then [(mimetypeItem w.type).entry deflate] else w.entries

theorem mimetypeItem_writable (type : AsicType) : (mimetypeItem type).Writable := by
  cases type <;> decide

theorem addMemoryEntry_eq_some {deflate : Bytes → Nat} {entries out : List ZipEntry}
    {item : WriteItem} :
    addMemoryEntry deflate entries item = some out ↔
      item.Writable ∧ out = entries ++ [item.entry deflate] := by
  rw [addMemoryEntry]
  by_cases h : item.Writable
  · rw [if_pos h, Option.some.injEq]
    simp [h, eq_comm]
  · rw [if_neg h]
    simp [h]

theorem addFile_eq_ok {deflate : Bytes → Nat} {w w' : AsicWriter} {item : WriteItem}
    {message : String} :
    w.addFile deflate item message = .ok w' ↔
      item.Writable ∧ w' = { w with entries := w.started deflate ++ [item.entry deflate] } := by
  have hstart : w.opened deflate message = .ok (w.started deflate) := by
    rw [AsicWriter.opened, AsicWriter.started]
    by_cases h : w.entries = []
    · rw [if_pos h, if_pos h, addMemoryEntry, if_pos (mimetypeItem_writable _)]
      rfl
    · rw [if_neg h, if_neg h]
  rw [AsicWriter.addFile, hstart]
  simp only [bind_eq_ok, Except.ok.injEq, orError_eq_ok, addMemoryEntry_eq_some]
  constructor
  · rintro ⟨_, rfl, out, ⟨hw, rfl⟩, rfl⟩
    exact ⟨hw, rfl⟩
  · rintro ⟨hw, rfl⟩
    exact ⟨_, rfl, _, ⟨hw, rfl⟩, rfl⟩

section

variable {deflate w item} {w' : AsicWriter} {message : String}
  (h : w.addFile deflate item message = .ok w')

include h

theorem started_addFile :
    w'.type = w.type ∧ w'.started deflate = w.started deflate ++ [item.entry deflate] := by
  obtain ⟨-, rfl⟩ := addFile_eq_ok.mp h
  refine ⟨rfl, ?_⟩
  exact if_neg (by simp)

theorem entries_ne_nil_of_addFile : w'.entries ≠ [] := by
  obtain ⟨-, rfl⟩ := addFile_eq_ok.mp h
  simp

end

theorem finalize_of_ne_nil {deflate : Bytes → Nat} {w : AsicWriter} (h : w.entries ≠ []) :
    w.finalize deflate = .ok (w.started deflate) := by
  rw [AsicWriter.finalize, if_neg h, AsicWriter.started, if_neg h]
  rfl

/-! ### Reading back -/

/-- A name that survives the C strings and buffers of miniz and is not that of a
directory: no NUL, at most 511 bytes, no `/` at the end. -/
def WriteItem.Plain : Prop :=
  '\x00' ∉ item.name.toList ∧ item.name.length ≤ 511 ∧ item.name.toList.getLast? ≠ some '/'

instance (item : WriteItem) : Decidable item.Plain := inferInstanceAs (Decidable (_ ∧ _))

/-- What the reader asks of the entries so that it returns them all. -/
structure ReadableItems (items : List WriteItem) : Prop where
  size : containerSize (items.map (WriteItem.entry deflate)) ≤ kMaxCompressedContainerSize
  count : items.length ≤ kMaxAsicEntries
  plain : ∀ i ∈ items, i.Plain
  safe : ∀ i ∈ items, isUnsafeEntryName i.name = false
  distinct : (items.map WriteItem.name).Nodup
  /-- Names that agree up to case belong to the same bytes. -/
  separate : ∀ i ∈ items, ∀ j ∈ items, SameName i.name j.name → i.data = j.data
  sizes : ∀ i ∈ items, sizeAccepted i.data.length (i.compSize deflate)
  total : (items.map fun i => i.data.length).sum ≤ kMaxTotalUncompressedSize

theorem cString_eq_self {s : String} (h : '\x00' ∉ s.toList) : cString s = s := by
  rw [cString, takeWhile_eq_self_iff.mpr, String.ofList_toList]
  intro c hc
  simp only [bne_iff_ne, ne_eq]
  rintro rfl
  exact h hc

theorem statName_eq_self {e : ZipEntry} (hnul : '\x00' ∉ e.filename.toList)
    (hlen : e.filename.length ≤ 511) : e.statName = e.filename := by
  have htake : e.filename.toList.take 511 = e.filename.toList := by
    rw [take_of_length_le]
    rwa [String.length_toList]
  rw [ZipEntry.statName, htake, String.ofList_toList, cString_eq_self hnul]

/-- A name under which an entry is listed has no NUL and at most 511 bytes. -/
theorem statName_plain (e : ZipEntry) : '\x00' ∉ e.statName.toList ∧ e.statName.length ≤ 511 := by
  constructor
  · intro h
    rw [ZipEntry.statName, cString, String.toList_ofList] at h
    have := mem_takeWhile_imp h
    simp at this
  · rw [ZipEntry.statName, cString, String.length_ofList, String.toList_ofList]
    refine Nat.le_trans (List.IsPrefix.length_le ( takeWhile_prefix _)) ?_
    rw [length_take]
    exact Nat.min_le_left _ _

section ReadBack

variable {deflate} {items : List WriteItem}

theorem entry_of_plain {i : WriteItem} (h : i.Plain) :
    (i.entry deflate).filename = i.name ∧ (i.entry deflate).statName = i.name ∧
      (i.entry deflate).isDirectory = false := by
  have hfile : (i.entry deflate).filename = i.name := cString_eq_self h.1
  refine ⟨hfile, ?_, ?_⟩
  · rw [statName_eq_self (by rw [hfile]; exact h.1) (by rw [hfile]; exact h.2.1), hfile]
  · rw [ZipEntry.isDirectory, hfile, show (i.entry deflate).directoryAttribute = false from rfl,
      Bool.or_false, beq_eq_false_iff_ne]
    exact h.2.2

theorem fileEntries_of_plain (h : ∀ i ∈ items, i.Plain) :
    fileEntries (items.map (WriteItem.entry deflate)) = items.map (WriteItem.entry deflate) := by
  rw [fileEntries, filter_eq_self]
  intro e he
  obtain ⟨i, hi, rfl⟩ := mem_map.mp he
  rw [(entry_of_plain (h i hi)).2.2]
  rfl

theorem ownFiles_of_plain (h : ∀ i ∈ items, i.Plain) :
    ownFiles (items.map (WriteItem.entry deflate)) = items.map WriteItem.file := by
  rw [ownFiles, fileEntries_of_plain h, map_map]
  refine map_congr_left fun i hi => ?_
  show ownFile (i.entry deflate) = i.file
  rw [ownFile, (entry_of_plain (h i hi)).2.1]
  rfl

theorem safeArchive_of_plain (h : ∀ i ∈ items, i.Plain) :
    SafeArchive (items.map (WriteItem.entry deflate)) ↔
      items.length ≤ kMaxAsicEntries ∧ (∀ i ∈ items, isUnsafeEntryName i.name = false) ∧
      (items.map WriteItem.name).Nodup ∧
      (∀ i ∈ items, sizeAccepted i.data.length (i.compSize deflate)) ∧
      (items.map fun i => i.data.length).sum ≤ kMaxTotalUncompressedSize := by
  have hnames : (items.map (WriteItem.entry deflate)).map ZipEntry.statName =
      items.map WriteItem.name := by
    rw [map_map]
    exact map_congr_left fun i hi => (entry_of_plain (h i hi)).2.1
  have htotal : totalSize (items.map (WriteItem.entry deflate)) =
      (items.map fun i => i.data.length).sum := by
    rw [totalSize, fileEntries_of_plain h, map_map]
    rfl
  constructor
  · rintro ⟨hcount, hsafe, hdist, hsizes, hsum⟩
    rw [fileEntries_of_plain h] at hsizes
    refine ⟨by simpa using hcount, fun i hi => ?_, hnames ▸ hdist, fun i hi => ?_, htotal ▸ hsum⟩
    · rw [← (@entry_of_plain deflate i (h i hi)).2.1]
      exact hsafe _ (mem_map_of_mem hi)
    · exact hsizes _ (mem_map_of_mem hi)
  · rintro ⟨hcount, hsafe, hdist, hsizes, hsum⟩
    refine ⟨by simpa using hcount, fun e he => ?_, hnames ▸ hdist, fun e he => ?_, htotal ▸ hsum⟩
    · obtain ⟨i, hi, rfl⟩ := mem_map.mp he
      rw [(entry_of_plain (h i hi)).2.1]
      exact hsafe i hi
    · rw [fileEntries_of_plain h] at he
      obtain ⟨i, hi, rfl⟩ := mem_map.mp he
      exact hsizes i hi

theorem namesSeparate_of_plain (h : ∀ i ∈ items, i.Plain) :
    NamesSeparate (items.map (WriteItem.entry deflate)) ↔
      ∀ i ∈ items, ∀ j ∈ items, SameName i.name j.name → i.data = j.data := by
  rw [NamesSeparate, fileEntries_of_plain h]
  simp only [forall_mem_map]
  constructor
  · intro hsep i hi j hj hsame
    have := (hsep j hj).2 i hi
    rw [(entry_of_plain (h i hi)).1, (entry_of_plain (h j hj)).2.1] at this
    exact Option.some.inj (this hsame)
  · intro hsep i hi
    refine ⟨⟨_, mem_map_of_mem hi, ?_⟩, fun j hj hsame => ?_⟩
    · rw [(entry_of_plain (h i hi)).1, (entry_of_plain (h i hi)).2.1]
      rfl
    · rw [(entry_of_plain (h j hj)).1, (entry_of_plain (h i hi)).2.1] at hsame
      exact congrArg some (hsep j hj i hi hsame)

/-- If the reader returns the items, their names are plain: it lists cut names
only, and no directories. -/
theorem plain_of_readBack {L : Locator (items.map (WriteItem.entry deflate))}
    (h : getFiles ⟨items.map (WriteItem.entry deflate), L⟩ = .ok (items.map WriteItem.file)) :
    ∀ i ∈ items, i.Plain := by
  rw [getFiles_eq_ok] at h
  have hlen : (fileEntries (items.map (WriteItem.entry deflate))).length =
      (items.map (WriteItem.entry deflate)).length := by
    rw [h.length_eq, length_map, length_map]
  have hall : fileEntries (items.map (WriteItem.entry deflate)) =
      items.map (WriteItem.entry deflate) :=
    filter_eq_self.mpr (length_filter_eq_length_iff.mp hlen)
  rw [hall, forall₂_map_left_iff, forall₂_map_right_iff, forall₂_same] at h
  intro i hi
  have hname : i.name = (i.entry deflate).statName := (h i hi).1
  have hplain := statName_plain (i.entry deflate)
  rw [← hname] at hplain
  refine ⟨hplain.1, hplain.2, ?_⟩
  have hmem : i.entry deflate ∈ fileEntries (items.map (WriteItem.entry deflate)) := by
    rw [hall]
    exact mem_map_of_mem hi
  have hdir := (mem_fileEntries.mp hmem).2
  rw [ZipEntry.isDirectory, Bool.or_eq_false_iff] at hdir
  have : (i.entry deflate).filename = i.name := cString_eq_self hplain.1
  rw [this] at hdir
  simpa using hdir.1

/-- **Reading back.**  However the reader's search decides between names that agree
up to case, it accepts the archive and returns the items as they were handed to the
writer exactly when they are readable. -/
theorem readBack_iff : (∀ L : Locator (items.map (WriteItem.entry deflate)),
      loadFromBuffer (reopened (items.map (WriteItem.entry deflate)) L) = .ok ⟨_, L⟩ ∧
      getFiles ⟨_, L⟩ = .ok (items.map WriteItem.file)) ↔ ReadableItems deflate items := by
  have hload : ∀ L : Locator (items.map (WriteItem.entry deflate)),
      loadFromBuffer (reopened (items.map (WriteItem.entry deflate)) L) = .ok ⟨_, L⟩ ↔
        containerSize (items.map (WriteItem.entry deflate)) ≤ kMaxCompressedContainerSize ∧
          SafeArchive (items.map (WriteItem.entry deflate)) := by
    intro L
    rw [loadFromBuffer_eq_ok]
    simp [reopened]
  have hread : ∀ e ∈ fileEntries (items.map (WriteItem.entry deflate)),
      e.extracted.isSome = true := by
    intro e he
    obtain ⟨i, -, rfl⟩ := mem_map.mp (mem_fileEntries.mp he).1
    rfl
  constructor
  · intro h
    have hscan := h (.ofScan _)
    have hplain := plain_of_readBack hscan.2
    obtain ⟨hsize, hsafe⟩ := (hload _).mp hscan.1
    obtain ⟨hcount, hnames, hdist, hsizes, htotal⟩ := (safeArchive_of_plain hplain).mp hsafe
    refine ⟨hsize, hcount, hplain, hnames, hdist, ?_, hsizes, htotal⟩
    rw [← @namesSeparate_of_plain deflate items hplain, namesSeparate_iff]
    intro L
    rw [← getFiles_eq_ownFiles_iff hread, ownFiles_of_plain hplain]
    exact (h L).2
  · rintro ⟨hsize, hcount, hplain, hnames, hdist, hsep, hsizes, htotal⟩ L
    refine ⟨(hload L).mpr ⟨hsize, ?_⟩, ?_⟩
    · exact (safeArchive_of_plain hplain).mpr ⟨hcount, hnames, hdist, hsizes, htotal⟩
    · rw [← @namesSeparate_of_plain deflate items hplain, namesSeparate_iff] at hsep
      rw [← ownFiles_of_plain hplain, getFiles_eq_ownFiles_iff hread]
      exact hsep L

end ReadBack

end Tamga.Asic
