/-
The cache of the trust lists (`PolicyCache.cpp`, `WriteTrustListsMaterialized`).

The trust lists, the state, the metadata and the four certificate stores are replaced
together: everything is staged in temporary places, what is there is moved to backups, and
then the temporary places are moved to the final ones.  One file operation may fail; it is
named by a `FilePoint`.  The operations of a roll-back come after the failure and succeed.

* `prepareFiles_spec`, `prepareStores_spec` — what is staged when nothing before the backups fails;
* `commit_file_stop`, `commit_store_stop`, `commit_spec` — the ways in which
  the rest can end.
-/
import Mathlib.Data.List.Nodup
import Tamga.Basic
import Tamga.StagedReplace

namespace Tamga.PolicyCache

open StagedReplace List

/-! ### The directory of the cache -/

inductive FileSlot where
  | xml (filename : String)
  | state
  | metadata
  deriving DecidableEq, Repr

inductive Store where
  | trustStore
  | historicalTrustStore
  | tsaStore
  | historicalTsaStore
  deriving DecidableEq, Repr

abbrev Directory := List (String × Bytes)

structure CacheDir where
  files : FileSlot → Place Bytes
  stores : Store → Place Directory

namespace CacheDir

variable (fs : CacheDir)

def setFile (slot : FileSlot) (p : Place Bytes) : CacheDir :=
  { fs with files := Function.update fs.files slot p }

def setStore (store : Store) (p : Place Directory) : CacheDir :=
  { fs with stores := Function.update fs.stores store p }

@[simp]
theorem setFile_self (slot : FileSlot) (p : Place Bytes) : (fs.setFile slot p).files slot = p :=
  Function.update_self _ _ _

theorem setFile_of_ne {slot j : FileSlot} (h : j ≠ slot) (p : Place Bytes) :
    (fs.setFile slot p).files j = fs.files j :=
  Function.update_of_ne h _ _

theorem setFile_final {slot : FileSlot} {p : Place Bytes} (h : p.final = (fs.files slot).final)
    (j : FileSlot) : ((fs.setFile slot p).files j).final = (fs.files j).final := by
  by_cases hj : j = slot
  · rw [hj, setFile_self, h]
  · rw [setFile_of_ne fs hj]

@[simp]
theorem setStore_self (store : Store) (p : Place Directory) :
    (fs.setStore store p).stores store = p :=
  Function.update_self _ _ _

theorem setStore_of_ne {store j : Store} (h : j ≠ store) (p : Place Directory) :
    (fs.setStore store p).stores j = fs.stores j :=
  Function.update_of_ne h _ _

theorem setStore_final {store : Store} {p : Place Directory}
    (h : p.final = (fs.stores store).final) (j : Store) :
    ((fs.setStore store p).stores j).final = (fs.stores j).final := by
  by_cases hj : j = store
  · rw [hj, setStore_self, h]
  · rw [setStore_of_ne fs hj]

end CacheDir

/-- The directories that `EnsureLayout` creates. -/
inductive LayoutDir where
  | trustList
  | trustStore
  | historicalTrustStore
  | intermediateStore
  | crlStore
  | policy
  deriving DecidableEq, Repr

inductive Thing where
  | file (slot : FileSlot)
  | store (store : Store)
  deriving DecidableEq, Repr

/-- The file operations at which the call can fail. -/
inductive FilePoint where
  | createLayout (dir : LayoutDir)
  | cleanBackup (thing : Thing)
  | cleanTemp (thing : Thing)
  | stageFile (slot : FileSlot)
  | createTemp (store : Store)
  | stageCertificate (index : Nat)
  | examine (thing : Thing)
  | backup (thing : Thing)
  | install (thing : Thing)
  | finishBackup (thing : Thing)
  | finishTemp (thing : Thing)
  deriving DecidableEq, Repr

/-- A certificate and the file of a store that it is written to. -/
structure StagedCertificate where
  store : Store
  fileName : String
  der : Bytes
  deriving DecidableEq, Repr

/-- What is to be written.  The trust lists have different names. -/
structure CacheWrite where
  entries : List (String × Bytes)
  stateJson : Bytes
  metadataJson : Bytes
  certificates : List StagedCertificate
  distinct : (entries.map Prod.fst).Nodup

variable (w : CacheWrite) (failing : Option FilePoint) (fs : CacheDir)

namespace CacheWrite

def stagedXmls : List (FileSlot × Bytes) := w.entries.map fun e => (.xml e.1, e.2)

def stagedJsons : List (FileSlot × Bytes) :=
  [(.state, w.stateJson), (.metadata, w.metadataJson)]

def stagedFiles : List (FileSlot × Bytes) := w.stagedXmls ++ w.stagedJsons

def xmlSlots : List FileSlot := w.stagedXmls.map Prod.fst

def slots : List FileSlot := w.stagedFiles.map Prod.fst

end CacheWrite

def allStores : List Store := [.trustStore, .historicalTrustStore, .tsaStore, .historicalTsaStore]

def writeFile (d : Directory) (c : StagedCertificate) : Directory :=
  d.filter (fun e => e.1 ≠ c.fileName) ++ [(c.fileName, c.der)]

variable (slot : FileSlot) (store : Store) (p : Place Directory)

def CacheWrite.certificatesFor : List StagedCertificate :=
  w.certificates.filter fun c => c.store == store

def CacheWrite.content : Directory :=
  (w.certificatesFor store).foldl writeFile []

/-! ### The phases -/

def createDirectory : CacheDir :=
  let place := fs.stores store
  fs.setStore store { place with final := some (place.final.getD []) }

/-- `create_directories` for one directory of the layout; only two of them are stores that
are replaced. -/
def createLayoutDir : LayoutDir → CacheDir
  | .trustStore => createDirectory fs .trustStore
  | .historicalTrustStore => createDirectory fs .historicalTrustStore
  | _ => fs

def ensureLayout : List LayoutDir → CacheDir → Except CacheDir CacheDir
  | [], fs => .ok fs
  | dir :: rest, fs =>
    if failing = some (.createLayout dir) then .error fs
    else ensureLayout rest (createLayoutDir fs dir)

def layoutDirs : List LayoutDir :=
  [.trustList, .trustStore, .historicalTrustStore, .intermediateStore, .crlStore, .policy]

/-- What earlier calls have left is removed, unless that fails. -/
def cleanPlace {β : Type} (thing : Thing) (p : Place β) : Place β :=
  { p with
    backup := if failing = some (.cleanBackup thing) then p.backup else none
    temp := if failing = some (.cleanTemp thing) then p.temp else none }

def clean : CacheDir where
  files := onEach (fun slot => cleanPlace failing (.file slot)) w.slots fs.files
  stores := onEach (fun store => cleanPlace failing (.store store)) allStores fs.stores

/-- The temporary places of some files and stores are removed. -/
def dropTemps (slots : List FileSlot) (stores : List Store) (fs : CacheDir) : CacheDir where
  files := onEach (fun _ => Place.dropTemp) slots fs.files
  stores := onEach (fun _ => Place.dropTemp) stores fs.stores

/-- `StageBinaryFile` for some files; after a failure the temporary places of `swept` are
removed. -/
def stageFiles (swept : List FileSlot) : List (FileSlot × Bytes) → CacheDir →
    Except CacheDir CacheDir
  | [], fs => .ok fs
  | (slot, data) :: rest, fs =>
    if failing = some (.stageFile slot) then
      .error (dropTemps swept [] (fs.setFile slot (fs.files slot).dropTemp))
    else stageFiles swept rest (fs.setFile slot ((fs.files slot).stage data))

def createTemp : Place Directory :=
  if failing = some (.createTemp store) then p else p.stage (p.temp.getD [])

def withTemps : CacheDir :=
  { fs with stores := onEach (createTemp failing) allStores fs.stores }

/-- The temporary stores are created; of the four results only the last one is looked at. -/
def createTemps : Except CacheDir CacheDir :=
  if failing = some (.createTemp .historicalTsaStore) then
    .error (dropTemps w.slots allStores (withTemps failing fs))
  else .ok (withTemps failing fs)

/-- The certificates are staged in the temporary stores. -/
def stageCertificates : List StagedCertificate → Nat → CacheDir → Except CacheDir CacheDir
  | [], _, fs => .ok fs
  | c :: rest, index, fs =>
    match (fs.stores c.store).temp with
    | none => .error (dropTemps w.slots allStores fs)
    | some dir =>
      if failing = some (.stageCertificate index) then .error (dropTemps w.slots allStores fs)
      else stageCertificates rest (index + 1)
        (fs.setStore c.store ((fs.stores c.store).stage (writeFile dir c)))

/-- The layout, and the files in their temporary places. -/
def prepareFiles : Except CacheDir CacheDir := do
  let fs ← ensureLayout failing layoutDirs fs
  let fs ← stageFiles failing w.xmlSlots w.stagedXmls (clean w failing fs)
  stageFiles failing w.slots w.stagedJsons fs

def prepareStores : Except CacheDir CacheDir := do
  let fs ← createTemps w failing fs
  stageCertificates w failing w.certificates 0 fs

/-- `ExistingFileHasContent`: a file without content counts as none. -/
def keepFile (p : Place Bytes) : Bool :=
  p.final.any (fun data => !data.isEmpty) && decide (failing ≠ some (.examine (.file slot)))

/-- `ExistingDirectory`. -/
def keepStore : Bool :=
  p.final.isSome && decide (failing ≠ some (.examine (.store store)))

/-- `MoveFilePath` of a file, which replaces what is at the target. -/
def movesFile (point : FilePoint) (source target : Option Bytes) : Bool :=
  decide (failing ≠ some point) && Place.movable (fun _ => true) source target

/-- `MoveFilePath` of a directory, which replaces only an empty one. -/
def movesStore (point : FilePoint) (source target : Option Directory) : Bool :=
  decide (failing ≠ some point) && Place.movable List.isEmpty source target

/-- The temporary stores that are removed after the backup of a store failed. -/
def sweptStores : Store → List Store
  | .trustStore => [.trustStore, .historicalTrustStore]
  | .historicalTrustStore => [.trustStore, .historicalTrustStore]
  | .tsaStore => allStores
  | .historicalTsaStore => allStores

/-- What was moved to the backups. -/
structure BackedUp where
  files : List FileSlot
  stores : List Store
  dir : CacheDir

def backupFiles : Option FileSlot × List FileSlot × (FileSlot → Place Bytes) :=
  backupEach (keepFile failing)
    (fun slot p => movesFile failing (.backup (.file slot)) p.final p.backup) w.slots [] fs.files

def backupStores : Option Store × List Store × (Store → Place Directory) :=
  backupEach (keepStore failing)
    (fun store p => movesStore failing (.backup (.store store)) p.final p.backup) allStores []
    fs.stores

/-- The current files and stores are moved to their backups; after a failure those that
were moved are moved back. -/
def backupAll : Except CacheDir BackedUp :=
  match backupFiles w failing fs with
  | (some _, backed, files) =>
    .error (dropTemps w.slots [.trustStore, .historicalTrustStore]
      { fs with files := onEach (fun _ => Place.restore) backed files })
  | (none, backedFiles, files) =>
    match backupStores failing fs with
    | (some store, backed, stores) =>
      .error (dropTemps w.slots (sweptStores store)
        { files := onEach (fun _ => Place.restore) backedFiles files
          stores := onEach (fun _ => Place.restore) backed stores })
    | (none, backedStores, stores) =>
      .ok { files := backedFiles, stores := backedStores, dir := ⟨files, stores⟩ }

/-- The roll-back: the final places are emptied, and the backups are moved back. -/
def rollBack (b : BackedUp) (fs : CacheDir) : CacheDir :=
  dropTemps w.slots allStores
    { files := onEach (fun _ => Place.restore) b.files
        (onEach (fun _ => Place.dropFinal) w.slots fs.files)
      stores := onEach (fun _ => Place.restore) b.stores
        (onEach (fun _ => Place.dropFinal) allStores fs.stores) }

def installFiles : Bool × (FileSlot → Place Bytes) :=
  installEach (fun slot p => movesFile failing (.install (.file slot)) p.temp p.final) w.slots
    fs.files

def installStores : Bool × (Store → Place Directory) :=
  installEach (fun store p => movesStore failing (.install (.store store)) p.temp p.final)
    allStores fs.stores

def installAll (b : BackedUp) : Except CacheDir CacheDir :=
  match installFiles w failing b.dir with
  | (false, files) => .error (rollBack w b { b.dir with files := files })
  | (true, files) =>
    match installStores failing b.dir with
    | (false, stores) => .error (rollBack w b ⟨files, stores⟩)
    | (true, stores) => .ok ⟨files, stores⟩

def finishPlace {β : Type} (thing : Thing) (p : Place β) : Place β :=
  { p with
    backup := if failing = some (.finishBackup thing) then p.backup else none
    temp := if failing = some (.finishTemp thing) then p.temp else none }

def finish : CacheDir where
  files := onEach (fun slot => finishPlace failing (.file slot)) w.slots fs.files
  stores := onEach (fun store => finishPlace failing (.store store)) allStores fs.stores

def commit : Except CacheDir CacheDir := do
  let b ← backupAll w failing fs
  let fs ← installAll w failing b
  pure (finish w failing fs)

/-- `WriteTrustListsMaterialized`: the directory afterwards, as an error where the call
returns `false`. -/
def writeTrustListsMaterialized : Except CacheDir CacheDir := do
  let fs ← prepareFiles w failing fs
  let fs ← prepareStores w failing fs
  commit w failing fs

/-! ### Staging -/

theorem CacheWrite.slots_eq : w.slots = w.xmlSlots ++ [.state, .metadata] := by
  rw [slots, stagedFiles, map_append]
  rfl

theorem CacheWrite.xmlSlots_nodup : w.xmlSlots.Nodup := by
  have heq : w.xmlSlots = (w.entries.map Prod.fst).map FileSlot.xml := by
    simp [xmlSlots, stagedXmls]
  rw [heq]
  exact (nodup_map_iff fun a b h => FileSlot.xml.inj h).mpr w.distinct

theorem jsonSlots_nodup : [FileSlot.state, FileSlot.metadata].Nodup := by decide

theorem CacheWrite.slots_nodup : w.slots.Nodup := by
  rw [slots_eq]
  refine nodup_append.mpr ⟨w.xmlSlots_nodup, jsonSlots_nodup, fun a ha b hb heq => ?_⟩
  obtain ⟨e, -, rfl⟩ : ∃ e, e ∈ w.entries ∧ FileSlot.xml e.1 = a := by
    simpa [xmlSlots, stagedXmls] using ha
  subst heq
  simp at hb

theorem allStores_nodup : allStores.Nodup := by decide

theorem mem_allStores : store ∈ allStores := by
  cases store <;> decide

section Staging

variable {w failing fs}

theorem dropTemps_files {slots : List FileSlot} (hnodup : slots.Nodup) (stores : List Store)
    (fs : CacheDir) (j : FileSlot) : (dropTemps slots stores fs).files j =
      if j ∈ slots then (fs.files j).dropTemp else fs.files j :=
  onEach_apply _ hnodup _ j

theorem dropTemps_stores (slots : List FileSlot) {stores : List Store} (hnodup : stores.Nodup)
    (fs : CacheDir) (j : Store) : (dropTemps slots stores fs).stores j =
      if j ∈ stores then (fs.stores j).dropTemp else fs.stores j :=
  onEach_apply _ hnodup _ j

theorem dropTemps_final {slots : List FileSlot} (hslots : slots.Nodup) {stores : List Store}
    (hstores : stores.Nodup) (fs : CacheDir) :
    (∀ j, ((dropTemps slots stores fs).files j).final = (fs.files j).final) ∧
      ∀ j, ((dropTemps slots stores fs).stores j).final = (fs.stores j).final := by
  constructor
  · intro j
    rw [dropTemps_files hslots]
    split <;> rfl
  · intro j
    rw [dropTemps_stores slots hstores]
    split <;> rfl

/-- Staging leaves the final places alone.  Without a failure the files are in their temporary
places, and otherwise those of `swept` are emptied. -/
theorem stageFiles_spec {swept : List FileSlot} (hswept : swept.Nodup) :
    ∀ (staged : List (FileSlot × Bytes)) (fs : CacheDir), (staged.map Prod.fst).Nodup →
    ∃ files, (∀ j, (files j).final = (fs.files j).final) ∧
      ((stageFiles failing swept staged fs = .ok { fs with files := files } ∧
          (∀ e ∈ staged, failing ≠ some (.stageFile e.1)) ∧
          (∀ e ∈ staged, (files e.1).temp = some e.2) ∧
          ∀ j ∉ staged.map Prod.fst, files j = fs.files j) ∨
        (stageFiles failing swept staged fs = .error { fs with files := files } ∧
          (∃ e ∈ staged, failing = some (.stageFile e.1)) ∧ (∀ j ∈ swept, (files j).temp = none) ∧
          ∀ j ∉ swept, j ∉ staged.map Prod.fst → files j = fs.files j))
  | [], fs, _ => ⟨fs.files, fun _ => rfl, .inl ⟨rfl, nofun, nofun, fun _ _ => rfl⟩⟩
  | (slot, data) :: rest, fs, hnodup => by
    obtain ⟨hslot, hrest⟩ := nodup_cons.mp hnodup
    rw [stageFiles]
    by_cases hfail : failing = some (.stageFile slot)
    · rw [if_pos hfail]
      refine ⟨_, fun j => ?_, .inr ⟨rfl, ⟨_, mem_cons_self, hfail⟩, fun j hj => ?_,
        fun j hj hnot => ?_⟩⟩
      · refine ((dropTemps_final hswept nodup_nil _).1 j).trans ?_
        exact fs.setFile_final (by rfl) j
      · rw [onEach_apply _ hswept, if_pos hj]
        rfl
      · obtain ⟨hne, -⟩ := not_or.mp (mt mem_cons.mpr hnot)
        rw [onEach_apply _ hswept, if_neg hj, fs.setFile_of_ne hne]
    · rw [if_neg hfail]
      have hother : ∀ {j}, j ∉ ((slot, data) :: rest).map Prod.fst → j ∉ rest.map Prod.fst ∧
          (fs.setFile slot ((fs.files slot).stage data)).files j = fs.files j := by
        intro j hj
        obtain ⟨hne, hnot⟩ := not_or.mp (mt mem_cons.mpr hj)
        exact ⟨hnot, fs.setFile_of_ne hne _⟩
      obtain ⟨files, hfinal, hcases⟩ := stageFiles_spec hswept rest
        (fs.setFile slot ((fs.files slot).stage data)) hrest
      refine ⟨files, fun j => (hfinal j).trans (fs.setFile_final (by rfl) j), ?_⟩
      rcases hcases with ⟨hok, hno, htemp, hkept⟩ | ⟨herror, ⟨e, he, hfails⟩, hnone, hkept⟩
      · refine .inl ⟨hok, forall_mem_cons.mpr ⟨hfail, hno⟩, forall_mem_cons.mpr ⟨?_, htemp⟩,
          fun j hj => (hkept j (hother hj).1).trans (hother hj).2⟩
        rw [hkept _ hslot, CacheDir.setFile_self]
        rfl
      · exact .inr ⟨herror, ⟨e, mem_cons_of_mem _ he, hfails⟩, hnone,
          fun j hj hnot => (hkept j hj (hother hnot).1).trans (hother hnot).2⟩

/-- A certificate without its temporary store, or one at which staging fails, ends the call. -/
theorem stageCertificates_spec : ∀ (certificates : List StagedCertificate) (index : Nat)
    (fs : CacheDir), ∃ stores, (∀ s, (stores s).final = (fs.stores s).final) ∧
      ((stageCertificates w failing certificates index fs = .ok { fs with stores := stores } ∧
          (∀ s, (stores s).backup = (fs.stores s).backup ∧
            (stores s).temp = (fs.stores s).temp.map fun dir =>
              (certificates.filter fun c => c.store == s).foldl writeFile dir) ∧
          (∀ c ∈ certificates, (fs.stores c.store).temp ≠ none) ∧
          ∀ k, index ≤ k → k < index + certificates.length → failing ≠ some (.stageCertificate k)) ∨
        (stageCertificates w failing certificates index fs =
            .error (dropTemps w.slots allStores { fs with stores := stores }) ∧
          ((∃ c ∈ certificates, (fs.stores c.store).temp = none) ∨
            ∃ k < index + certificates.length, failing = some (.stageCertificate k))))
  | [], index, fs => by
    refine ⟨fs.stores, fun _ => rfl, .inl ⟨rfl, fun s => ⟨rfl, by simp⟩, nofun, fun k hle hlt => ?_⟩⟩
    exact absurd hlt (Nat.not_lt.mpr hle)
  | c :: rest, index, fs => by
    cases hdir : (fs.stores c.store).temp with
    | none =>
      exact ⟨fs.stores, fun _ => rfl, .inr ⟨by simp only [stageCertificates, hdir],
        .inl ⟨c, mem_cons_self, hdir⟩⟩⟩
    | some dir =>
      by_cases hgo : failing = some (.stageCertificate index)
      · exact ⟨fs.stores, fun _ => rfl, .inr ⟨by simp only [stageCertificates, hdir, if_pos hgo],
          .inr ⟨index, by simp, hgo⟩⟩⟩
      have hnone : ∀ s, ((fs.setStore c.store
          ((fs.stores c.store).stage (writeFile dir c))).stores s).temp = none ↔
          (fs.stores s).temp = none := by
        intro s
        by_cases heq : s = c.store
        · simp [heq, Place.stage, hdir]
        · rw [fs.setStore_of_ne heq]
      obtain ⟨stores, hfinal, hcases⟩ := stageCertificates_spec rest (index + 1)
        (fs.setStore c.store ((fs.stores c.store).stage (writeFile dir c)))
      refine ⟨stores, fun s => (hfinal s).trans (fs.setStore_final (by rfl) s), ?_⟩
      simp only [stageCertificates, hdir, if_neg hgo, ne_eq, hnone] at hcases ⊢
      rcases hcases with ⟨hok, hstores, htemps, hno⟩ | ⟨herror, hcause⟩
      · refine .inl ⟨hok, fun s => ?_, forall_mem_cons.mpr ⟨by simp [hdir], htemps⟩,
          fun k hle hlt => ?_⟩
        · rw [(hstores s).1, (hstores s).2]
          by_cases heq : s = c.store
          · subst heq
            simp [Place.stage, hdir]
          · have hne : (c.store == s) = false := by simpa using Ne.symm heq
            simp [fs.setStore_of_ne heq, hne]
        · rw [length_cons] at hlt
          rcases Nat.eq_or_lt_of_le hle with rfl | hlater
          · exact hgo
          · exact hno k hlater (by omega)
      · refine .inr ⟨herror, hcause.imp (fun h => ?_) fun h => ?_⟩
        · obtain ⟨c', hc', htemp⟩ := h
          exact ⟨c', mem_cons_of_mem _ hc', htemp⟩
        · obtain ⟨k, hk, hfail⟩ := h
          exact ⟨k, by simp only [length_cons]; omega, hfail⟩

end Staging

/-! ### The state before the backups -/

def layout : CacheDir :=
  createDirectory (createDirectory fs .trustStore) .historicalTrustStore

def laidOut : Store → Option Directory
  | .trustStore => some ((fs.stores .trustStore).final.getD [])
  | .historicalTrustStore => some ((fs.stores .historicalTrustStore).final.getD [])
  | .tsaStore => (fs.stores .tsaStore).final
  | .historicalTsaStore => (fs.stores .historicalTsaStore).final

theorem layout_store :
    (layout fs).stores store = { fs.stores store with final := laidOut fs store } := by
  cases store <;> rfl

def leftTemp : Option Directory :=
  if failing = some (.cleanTemp (.store store)) then (fs.stores store).temp else none

def leftBackup : Option Directory :=
  if failing = some (.cleanBackup (.store store)) then (fs.stores store).backup else none

/-- The files are staged, and the stores are cleaned. -/
structure FilesPrepared (fs₁ : CacheDir) : Prop where
  file_final : ∀ slot, (fs₁.files slot).final = (fs.files slot).final
  file_temp : ∀ e ∈ w.stagedFiles, (fs₁.files e.1).temp = some e.2
  store : ∀ store, fs₁.stores store =
    { final := laidOut fs store
      temp := leftTemp failing fs store
      backup := leftBackup failing fs store }

/-- The temporary store that is installed in the end. -/
def stagedTemp : Option Directory :=
  if failing = some (.createTemp store) then leftTemp failing fs store
  else some ((w.certificatesFor store).foldl writeFile ((leftTemp failing fs store).getD []))

/-- Everything is staged. -/
structure Prepared (fs₁ : CacheDir) : Prop where
  file_final : ∀ slot, (fs₁.files slot).final = (fs.files slot).final
  file_temp : ∀ e ∈ w.stagedFiles, (fs₁.files e.1).temp = some e.2
  store_final : ∀ store, (fs₁.stores store).final = laidOut fs store
  store_temp : ∀ store, (fs₁.stores store).temp = stagedTemp w failing fs store
  store_backup : ∀ store, (fs₁.stores store).backup = leftBackup failing fs store

/-- The call has ended before the backups: the layout is there, and nothing else is new. -/
structure Abandoned (fs' : CacheDir) : Prop where
  file_final : ∀ slot, (fs'.files slot).final = (fs.files slot).final
  store_final : ∀ store, (fs'.stores store).final = laidOut fs store
  file_temp : ∀ slot ∈ w.slots, (fs'.files slot).temp = none
  store_temp : ∀ store, (fs'.stores store).temp = none

theorem clean_file : (clean w failing fs).files slot =
    if slot ∈ w.slots then cleanPlace failing (.file slot) (fs.files slot) else fs.files slot :=
  onEach_apply _ w.slots_nodup _ slot

theorem clean_final : ((clean w failing fs).files slot).final = (fs.files slot).final := by
  rw [clean_file]
  split <;> rfl

theorem clean_store : (clean w failing fs).stores store =
    cleanPlace failing (.store store) (fs.stores store) :=
  onEach_of_mem (fun store => cleanPlace failing (.store store)) allStores fs.stores
    allStores_nodup (mem_allStores store)

theorem clean_layout_store : (clean w failing (layout fs)).stores store =
      { final := laidOut fs store
        temp := leftTemp failing fs store
        backup := leftBackup failing fs store } := by
  rw [clean_store, layout_store]
  rfl

theorem withTemps_store :
    (withTemps failing fs).stores store = createTemp failing store (fs.stores store) :=
  onEach_of_mem (createTemp failing) allStores fs.stores allStores_nodup (mem_allStores store)

theorem createTemp_keeps :
    (createTemp failing store p).final = p.final ∧ (createTemp failing store p).backup = p.backup := by
  unfold createTemp
  split <;> exact ⟨rfl, rfl⟩

/-- What ends the call while the stores are staged. -/
def StagingFails : Prop :=
  failing = some (.createTemp .historicalTsaStore) ∨
    (∃ c ∈ w.certificates, failing = some (.createTemp c.store)) ∨
    ∃ k < w.certificates.length, failing = some (.stageCertificate k)

section Preparing

variable {w failing fs}

theorem ensureLayout_ok (hlayout : ∀ dir, failing ≠ some (.createLayout dir)) (fs : CacheDir) :
    ensureLayout failing layoutDirs fs = .ok (layout fs) := by
  simp [ensureLayout, layoutDirs, hlayout, createLayoutDir, layout]

theorem prepareFiles_spec (hlayout : ∀ dir, failing ≠ some (.createLayout dir)) : ∃ fs₁,
    (prepareFiles w failing fs = .ok fs₁ ∧ (∀ slot ∈ w.slots, failing ≠ some (.stageFile slot)) ∧
      FilesPrepared w failing fs fs₁) ∨
    (prepareFiles w failing fs = .error fs₁ ∧ (∃ slot ∈ w.slots, failing = some (.stageFile slot)) ∧
      Abandoned w fs fs₁) := by
  have hrun : prepareFiles w failing fs = stageFiles failing w.xmlSlots w.stagedXmls
      (clean w failing (layout fs)) >>= stageFiles failing w.slots w.stagedJsons := by
    rw [prepareFiles, ensureLayout_ok hlayout]
    rfl
  have hcleaned : ∀ j, ((clean w failing (layout fs)).files j).final = (fs.files j).final :=
    clean_final w failing (layout fs)
  -- where the staging fails the cleaning did not, so that no temporary store was left over
  have habandoned : ∀ {e : FileSlot × Bytes} {files : FileSlot → Place Bytes}, e ∈ w.stagedFiles →
      failing = some (.stageFile e.1) → (∀ j, (files j).final = (fs.files j).final) →
      (∀ j ∈ w.slots, (files j).temp = none) →
      (∃ slot ∈ w.slots, failing = some (.stageFile slot)) ∧
        Abandoned w fs ⟨files, (clean w failing (layout fs)).stores⟩ := by
    intro e files he hfail hfinal htemp
    refine ⟨⟨e.1, mem_map_of_mem he, hfail⟩, hfinal, fun store => ?_, htemp, fun store => ?_⟩
    · exact congrArg Place.final (clean_layout_store w failing fs store)
    · refine (congrArg Place.temp (clean_layout_store w failing fs store)).trans ?_
      simp [leftTemp, hfail]
  obtain ⟨xmls, hxmlFinal, ⟨hxmls, hxmlNo, hxmlTemp, -⟩ | ⟨herror, ⟨e, he, hfail⟩, hnone, hother⟩⟩ :=
    @stageFiles_spec failing _ w.xmlSlots_nodup w.stagedXmls (clean w failing (layout fs))
      w.xmlSlots_nodup
  · rw [hrun, hxmls]
    obtain ⟨files, hfinal, ⟨hjsons, hno, htemp, hother⟩ | ⟨herror, ⟨e, he, hfail⟩, hnone, -⟩⟩ :=
      @stageFiles_spec failing _ w.slots_nodup w.stagedJsons
        ⟨xmls, (clean w failing (layout fs)).stores⟩ jsonSlots_nodup
    · refine ⟨_, .inl ⟨hjsons, fun slot hslot => ?_, fun j => ?_, fun e he => ?_,
        clean_layout_store w failing fs⟩⟩
      · obtain ⟨e, he, rfl⟩ := mem_map.mp hslot
        exact (mem_append.mp he).elim (hxmlNo e) (hno e)
      · exact (hfinal j).trans ((hxmlFinal j).trans (hcleaned j))
      · rcases mem_append.mp he with hxml | hjson
        · have hnot : e.1 ∉ w.stagedJsons.map Prod.fst := fun hin =>
            (nodup_append.mp (w.slots_eq ▸ w.slots_nodup)).2.2 _ (mem_map_of_mem hxml) _
              hin rfl
          exact (congrArg Place.temp (hother _ hnot)).trans (hxmlTemp e hxml)
        · exact htemp e hjson
    · exact ⟨_, .inr ⟨herror, habandoned (mem_append_right _ he) hfail
        (fun j => (hfinal j).trans ((hxmlFinal j).trans (hcleaned j))) hnone⟩⟩
  · rw [hrun, herror]
    refine ⟨_, .inr ⟨rfl, habandoned (mem_append_left _ he) hfail
      (fun j => (hxmlFinal j).trans (hcleaned j)) fun j hj => ?_⟩⟩
    by_cases hswept : j ∈ w.xmlSlots
    · exact hnone j hswept
    · rw [hother j hswept hswept, clean_file, if_pos hj]
      simp [cleanPlace, hfail]

theorem prepareStores_spec {fs₁ : CacheDir} (h : FilesPrepared w failing fs fs₁) : ∃ fs₂,
    (prepareStores w failing fs₁ = .ok fs₂ ∧ ¬StagingFails w failing ∧ Prepared w failing fs fs₂) ∨
    (prepareStores w failing fs₁ = .error fs₂ ∧ StagingFails w failing ∧ Abandoned w fs fs₂) := by
  have habandoned : ∀ stores : Store → Place Directory,
      (∀ s, (stores s).final = ((withTemps failing fs₁).stores s).final) →
      Abandoned w fs (dropTemps w.slots allStores ⟨fs₁.files, stores⟩) := by
    intro stores hstores
    obtain ⟨hfiles, hfinals⟩ := dropTemps_final w.slots_nodup allStores_nodup ⟨fs₁.files, stores⟩
    refine ⟨fun j => ?_, fun s => ?_, fun j hj => ?_, fun s => ?_⟩
    · rw [hfiles]
      exact h.file_final j
    · rw [hfinals, hstores, withTemps_store, (createTemp_keeps ..).1, h.store]
    · rw [dropTemps_files w.slots_nodup, if_pos hj]
      rfl
    · rw [dropTemps_stores w.slots allStores_nodup, if_pos (mem_allStores s)]
      rfl
  have hmissing : ∀ s, ((withTemps failing fs₁).stores s).temp = none ↔
      failing = some (.createTemp s) := by
    intro s
    rw [withTemps_store, createTemp, h.store]
    by_cases hcreate : failing = some (.createTemp s)
    · simp [leftTemp, hcreate]
    · simp [hcreate, Place.stage]
  by_cases hlast : failing = some (.createTemp .historicalTsaStore)
  · refine ⟨_, .inr ⟨?_, .inl hlast, habandoned _ fun _ => rfl⟩⟩
    rw [prepareStores, createTemps, if_pos hlast]
    rfl
  rw [prepareStores, createTemps, if_neg hlast]
  obtain ⟨stores, hfinal, ⟨hok, hstores, htemps, hno⟩ | ⟨herror, hcause⟩⟩ :=
    @stageCertificates_spec w failing w.certificates 0 (withTemps failing fs₁)
  · refine ⟨⟨fs₁.files, stores⟩, .inl ⟨hok, ?_, h.file_final, h.file_temp, fun store => ?_,
      fun store => ?_, fun store => ?_⟩⟩
    · rintro (heq | ⟨c, hc, hcreate⟩ | ⟨k, hk, hstage⟩)
      · exact hlast heq
      · exact htemps c hc ((hmissing c.store).mpr hcreate)
      · exact hno k (Nat.zero_le k) (by omega) hstage
    · rw [hfinal, withTemps_store, (createTemp_keeps ..).1, h.store]
    · rw [(hstores store).2, withTemps_store, createTemp, stagedTemp, h.store]
      split
      next hcreate => simp [leftTemp, hcreate]
      next => rfl
    · rw [(hstores store).1, withTemps_store, (createTemp_keeps ..).2, h.store]
  · refine ⟨_, .inr ⟨herror, .inr ?_, habandoned stores hfinal⟩⟩
    simpa only [hmissing, Nat.zero_add] using hcause

end Preparing

/-! ### Backups and final places -/

/-- The backup of every file that is worth keeping succeeds. -/
def FilesBackUp : Prop :=
  ∀ slot ∈ w.slots, keepFile failing slot (fs.files slot) = true →
    failing ≠ some (.backup (.file slot))

/-- The backup of a store that is worth keeping succeeds. -/
def StoreBacksUp : Prop :=
  keepStore failing store (fs.stores store) = true →
    movesStore failing (.backup (.store store)) (fs.stores store).final (fs.stores store).backup = true

/-- The backups as the loops over the files and the stores make them. -/
structure AllBacked (stop : Option Store) (b : BackedUp) : Prop where
  files : Backed (keepFile failing)
    (fun slot p => movesFile failing (.backup (.file slot)) p.final p.backup) w.slots fs.files none
    b.files b.dir.files
  stores : Backed (keepStore failing)
    (fun store p => movesStore failing (.backup (.store store)) p.final p.backup) allStores fs.stores
    stop b.stores b.dir.stores

/-- The move of a temporary store to its final place, after the backups. -/
def StoreInstalls : Prop :=
  movesStore failing (.install (.store store)) (fs.stores store).temp
    (if keepStore failing store (fs.stores store) then none else (fs.stores store).final) = true

def FilesInstall : Prop :=
  ∀ slot ∈ w.slots, failing ≠ some (.install (.file slot))

theorem finish_final : (∀ slot, ((finish w failing fs).files slot).final = (fs.files slot).final) ∧
      ∀ store, ((finish w failing fs).stores store).final = (fs.stores store).final := by
  constructor
  · intro slot
    show (onEach (fun slot => finishPlace failing (.file slot)) w.slots fs.files slot).final = _
    rw [onEach_apply _ w.slots_nodup]
    split <;> rfl
  · intro store
    show (onEach (fun store => finishPlace failing (.store store)) allStores fs.stores store).final = _
    rw [onEach_apply _ allStores_nodup]
    split <;> rfl

/-- What the roll-back leaves. -/
structure RolledBack (fs' : CacheDir) : Prop where
  file_final : ∀ slot, (fs'.files slot).final =
    if slot ∈ w.slots ∧ keepFile failing slot (fs.files slot) = false then none
    else (fs.files slot).final
  store_final : ∀ store, (fs'.stores store).final =
    if keepStore failing store (fs.stores store) = false then none else (fs.stores store).final
  file_temp : ∀ slot ∈ w.slots, (fs'.files slot).temp = none
  store_temp : ∀ store, (fs'.stores store).temp = none

section Committing

variable {w failing fs}

theorem movesFile_eq (point : FilePoint) (data : Bytes) (target : Option Bytes) :
    movesFile failing point (some data) target = decide (failing ≠ some point) := by
  cases target <;> simp [movesFile, Place.movable]

theorem final_of_keepFile {slot : FileSlot} {p : Place Bytes}
    (h : keepFile failing slot p = true) : ∃ data, p.final = some data ∧ data ≠ [] := by
  obtain ⟨⟨data, hdata, hne⟩, -⟩ : (∃ data, p.final = some data ∧ data ≠ []) ∧ _ := by
    simpa [keepFile, Option.any_eq_true] using h
  exact ⟨data, hdata, hne⟩

theorem backupFiles_stop : (backupFiles w failing fs).1 = none ↔ FilesBackUp w failing fs := by
  refine (backupEach_backed _ _ w.slots_nodup fs.files).stop_none_iff.trans ?_
  refine forall₃_congr fun slot _ hkeep => ?_
  obtain ⟨data, hdata, -⟩ := final_of_keepFile hkeep
  rw [hdata, movesFile_eq, decide_eq_true_eq]

theorem commit_file_stop (h : ¬ FilesBackUp w failing fs) :
    ∃ fs', commit w failing fs = .error fs' ∧
      (fs'.stores .tsaStore).temp = (fs.stores .tsaStore).temp := by
  rcases hstop : backupFiles w failing fs with ⟨_ | slot, backed, files⟩
  · exact absurd (backupFiles_stop.mp (by rw [hstop])) h
  · refine ⟨_, by rw [commit, backupAll, hstop]; rfl, ?_⟩
    rw [dropTemps_stores w.slots (by decide), if_neg (by decide)]

theorem backupAll_of_files (hfiles : FilesBackUp w failing fs) : ∃ stop b,
    AllBacked w failing fs stop b ∧ backupAll w failing fs =
      match stop with
      | some store => .error (dropTemps w.slots (sweptStores store)
          { files := onEach (fun _ => Place.restore) b.files b.dir.files
            stores := onEach (fun _ => Place.restore) b.stores b.dir.stores })
      | none => .ok b := by
  have hbackedFiles := backupEach_backed (keepFile failing)
    (fun slot p => movesFile failing (.backup (.file slot)) p.final p.backup) w.slots_nodup fs.files
  have hbackedStores := backupEach_backed (keepStore failing)
    (fun store p => movesStore failing (.backup (.store store)) p.final p.backup)
    allStores_nodup fs.stores
  have hnone := backupFiles_stop.mpr hfiles
  rcases hf : backupFiles w failing fs with ⟨_ | slot, backedFiles, files⟩
  · rcases hs : backupStores failing fs with ⟨stop, backedStores, stores⟩
    rw [show backupEach _ _ _ _ _ = _ from hf] at hbackedFiles
    rw [show backupEach _ _ _ _ _ = _ from hs] at hbackedStores
    refine ⟨stop, ⟨backedFiles, backedStores, ⟨files, stores⟩⟩, ⟨hbackedFiles, hbackedStores⟩, ?_⟩
    rw [backupAll, hf, hs]
    cases stop <;> rfl
  · rw [hf] at hnone
    cases hnone

theorem AllBacked.stop_none_iff {stop : Option Store} {b : BackedUp}
    (h : AllBacked w failing fs stop b) : stop = none ↔ ∀ store, StoreBacksUp failing fs store :=
  h.stores.stop_none_iff.trans
    ⟨fun hall store => hall store (mem_allStores store), fun hall store _ => hall store⟩

theorem commit_store_stop {store : Store} (hfiles : FilesBackUp w failing fs)
    (hstore : ¬ StoreBacksUp failing fs store)
    (hothers : ∀ s, s ≠ store → StoreBacksUp failing fs s) :
    ∃ fs', commit w failing fs = .error fs' ∧
      (∀ slot, (fs'.files slot).final = (fs.files slot).final) ∧
      (∀ s, (fs'.stores s).final = (fs.stores s).final) ∧
      (∀ slot ∈ w.slots, (fs'.files slot).temp = none) ∧
      ∀ s, (fs'.stores s).temp = if s ∈ sweptStores store then none else (fs.stores s).temp := by
  have hnodup : ∀ s, (sweptStores s).Nodup := by
    intro s
    cases s <;> decide
  obtain ⟨_ | s, b, hbacked, hrun⟩ := backupAll_of_files hfiles
  · exact absurd (hbacked.stop_none_iff.mp rfl store) hstore
  -- only one backup fails, so that the loop stopped there
  obtain rfl : s = store := by
    by_contra hne
    obtain ⟨-, hkeep, hnot⟩ := hbacked.stores.stopped s rfl
    exact absurd (hothers s hne hkeep) (by simp [hnot])
  refine ⟨_, by rw [commit, hrun]; rfl, fun slot => ?_, fun s' => ?_, fun slot hslot => ?_,
    fun s' => ?_⟩
  · rw [(dropTemps_final w.slots_nodup (hnodup s) _).1]
    exact (restoreEach_of_backed hbacked.files slot).1
  · rw [(dropTemps_final w.slots_nodup (hnodup s) _).2]
    exact (restoreEach_of_backed hbacked.stores s').1
  · rw [dropTemps_files w.slots_nodup, if_pos hslot]
    rfl
  · rw [dropTemps_stores w.slots (hnodup s)]
    split
    · rfl
    · exact (restoreEach_of_backed hbacked.stores s').2

theorem backupAll_ok (hfiles : FilesBackUp w failing fs)
    (hstores : ∀ store, StoreBacksUp failing fs store) :
    ∃ b, backupAll w failing fs = .ok b ∧ AllBacked w failing fs none b := by
  obtain ⟨stop, b, hbacked, hrun⟩ := backupAll_of_files hfiles
  obtain rfl := hbacked.stop_none_iff.mpr hstores
  exact ⟨b, hrun, hbacked⟩

theorem installFiles_ok_iff {b : BackedUp} (h : AllBacked w failing fs none b)
    (htemp : ∀ slot ∈ w.slots, (fs.files slot).temp ≠ none) :
    (installFiles w failing b.dir).1 = true ↔ FilesInstall w failing := by
  refine (installEach_installed _ w.slots_nodup _).ok_iff.trans ?_
  refine forall₂_congr fun slot hslot => ?_
  obtain ⟨data, hdata⟩ := Option.ne_none_iff_exists'.mp (htemp slot hslot)
  rw [h.files.temp, hdata, movesFile_eq, decide_eq_true_eq]

theorem installStores_ok_iff {b : BackedUp} (h : AllBacked w failing fs none b) :
    (installStores failing b.dir).1 = true ↔ ∀ store, StoreInstalls failing fs store := by
  refine (installEach_installed _ allStores_nodup _).ok_iff.trans ?_
  have heach : ∀ store, movesStore failing (.install (.store store)) (b.dir.stores store).temp
      (b.dir.stores store).final = true ↔ StoreInstalls failing fs store := fun store => by
    rw [h.stores.temp, h.stores.final (mem_allStores store), StoreInstalls]
  exact ⟨fun hall store => (heach store).mp (hall store (mem_allStores store)),
    fun hall store _ => (heach store).mpr (hall store)⟩

theorem rollBack_spec {b : BackedUp} (h : AllBacked w failing fs none b) {fs₁ : CacheDir}
    (hfileBackup : ∀ j, (fs₁.files j).backup = (b.dir.files j).backup)
    (hfileOther : ∀ j ∉ w.slots, fs₁.files j = b.dir.files j)
    (hstoreBackup : ∀ j, (fs₁.stores j).backup = (b.dir.stores j).backup) :
    RolledBack w failing fs (rollBack w b fs₁) := by
  refine ⟨fun slot => ?_, fun store => ?_, fun slot hslot => ?_, fun store => ?_⟩
  · rw [rollBack, (dropTemps_final w.slots_nodup allStores_nodup _).1]
    exact rollBackEach_final h.files w.slots_nodup hfileBackup hfileOther slot
  · rw [rollBack, (dropTemps_final w.slots_nodup allStores_nodup _).2]
    refine (rollBackEach_final h.stores allStores_nodup hstoreBackup
      (fun j hj => absurd (mem_allStores j) hj) store).trans ?_
    simp only [mem_allStores, true_and]
  · rw [rollBack, dropTemps_files w.slots_nodup, if_pos hslot]
    rfl
  · rw [rollBack, dropTemps_stores w.slots allStores_nodup, if_pos (mem_allStores store)]
    rfl

theorem commit_spec (hfiles : FilesBackUp w failing fs)
    (hstores : ∀ store, StoreBacksUp failing fs store)
    (htemp : ∀ slot ∈ w.slots, (fs.files slot).temp ≠ none) : ∃ fs',
    (FilesInstall w failing ∧ (∀ store, StoreInstalls failing fs store)) ∧
      commit w failing fs = .ok fs' ∧
      (∀ slot ∈ w.slots, (fs'.files slot).final = (fs.files slot).temp) ∧
      (∀ store, (fs'.stores store).final = (fs.stores store).temp) ∨
    ¬ (FilesInstall w failing ∧ ∀ store, StoreInstalls failing fs store) ∧
      commit w failing fs = .error fs' ∧ RolledBack w failing fs fs' := by
  obtain ⟨b, hb, hbacked⟩ := backupAll_ok hfiles hstores
  have hcommit : commit w failing fs =
      installAll w failing b >>= fun fs => pure (finish w failing fs) := by
    rw [commit, hb]
    rfl
  have hfile : Installed _ _ _ (installFiles w failing b.dir) :=
    installEach_installed _ w.slots_nodup b.dir.files
  have hstore : Installed _ _ _ (installStores failing b.dir) :=
    installEach_installed _ allStores_nodup b.dir.stores
  rw [hcommit, installAll, ← installFiles_ok_iff hbacked htemp, ← installStores_ok_iff hbacked]
  generalize installFiles w failing b.dir = r at hfile ⊢
  generalize installStores failing b.dir = r' at hstore ⊢
  obtain ⟨_ | _, files⟩ := r
  · exact ⟨_, .inr ⟨fun h => Bool.false_ne_true h.1, rfl,
      rollBack_spec hbacked hfile.backup hfile.other fun _ => rfl⟩⟩
  obtain ⟨_ | _, stores⟩ := r'
  · exact ⟨_, .inr ⟨fun h => Bool.false_ne_true h.2, rfl,
      rollBack_spec hbacked hfile.backup hfile.other hstore.backup⟩⟩
  · refine ⟨_, .inl ⟨⟨rfl, rfl⟩, rfl, fun slot hslot => ?_, fun store => ?_⟩⟩
    · rw [(finish_final w failing _).1]
      exact (hfile.final rfl slot hslot).trans (hbacked.files.temp slot)
    · rw [(finish_final w failing _).2]
      exact (hstore.final rfl store (mem_allStores store)).trans (hbacked.stores.temp store)

end Committing

end Tamga.PolicyCache
