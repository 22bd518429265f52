/-
Is the replacement of the cached trust lists a transaction?

A call that fails should leave everything as it was, and one that succeeds should have
installed everything.  For each file operation of `WriteTrustListsMaterialized` this says for
which contents of the directory its failure is harmless in that sense.

* `materialization_transactional_iff` — the condition, for every point of failure;
* `empty_state_lost` — a file without content is removed by the roll-back.
-/
import Tamga.PolicyCache

namespace Tamga.PolicyCache

open StagedReplace

/-- **A transaction**: a call that fails leaves every file and store as it was and no
temporary behind, and one that succeeds has installed all of them. -/
structure Transactional (w : CacheWrite) (failing : Option FilePoint) (fs : CacheDir) : Prop where
  failed : ∀ fs', writeTrustListsMaterialized w failing fs = .error fs' →
    (∀ slot, (fs'.files slot).final = (fs.files slot).final) ∧
    (∀ store, (fs'.stores store).final = (fs.stores store).final) ∧
    (∀ slot ∈ w.slots, (fs'.files slot).temp = none) ∧
    ∀ store, (fs'.stores store).temp = none
  succeeded : ∀ fs', writeTrustListsMaterialized w failing fs = .ok fs' →
    (∀ e ∈ w.stagedFiles, (fs'.files e.1).final = some e.2) ∧
    ∀ store, (fs'.stores store).final = some (w.content store)

/-! ### Which failures are harmless -/

def LayoutPresent (fs : CacheDir) : Prop :=
  (fs.stores .trustStore).final ≠ none ∧ (fs.stores .historicalTrustStore).final ≠ none

def NoEmptyFile (w : CacheWrite) (fs : CacheDir) : Prop :=
  ∀ slot ∈ w.slots, (fs.files slot).final ≠ some []

/-- A failing backup of this store is undone completely. -/
def BackupUndone (fs : CacheDir) (store : Store) : Prop :=
  (store = .tsaStore ∨ store = .historicalTsaStore) ∧
    ((fs.stores store).final = none ∨ LayoutPresent fs)

/-- What must hold of the directory and of what is written, so that the call is a
transaction although it fails at this point. -/
def FilePoint.Harmless (w : CacheWrite) (fs : CacheDir) : FilePoint → Prop
  | .createLayout dir =>
    (∀ slot ∈ w.slots, (fs.files slot).temp = none) ∧ (∀ store, (fs.stores store).temp = none) ∧
    ((fs.stores .trustStore).final = none → dir ∈ [.trustList, .trustStore]) ∧
    ((fs.stores .historicalTrustStore).final = none →
      dir ∈ [.trustList, .trustStore, .historicalTrustStore])
  | .cleanBackup (.file _) => True
  | .cleanBackup (.store store) =>
    (fs.stores store).backup.all List.isEmpty = true ∨ BackupUndone fs store
  | .cleanTemp (.file _) => True
  | .cleanTemp (.store store) => ∀ stale, (fs.stores store).temp = some stale →
    ∀ e ∈ stale, ∃ c ∈ w.certificatesFor store, c.fileName = e.1
  | .stageFile slot => slot ∈ w.slots → LayoutPresent fs
  | .createTemp store => LayoutPresent fs ∧
    (store = .historicalTsaStore ∨ (∃ c ∈ w.certificates, c.store = store) ∨ NoEmptyFile w fs)
  | .stageCertificate index => index < w.certificates.length → LayoutPresent fs
  | .examine (.file _) => True
  | .examine (.store store) => (fs.stores store).final.all List.isEmpty = true
  | .backup (.file slot) => slot ∈ w.slots → (fs.files slot).final.all List.isEmpty = true
  | .backup (.store store) => BackupUndone fs store
  | .install (.file slot) => slot ∈ w.slots → LayoutPresent fs ∧ NoEmptyFile w fs
  | .install (.store _) => LayoutPresent fs ∧ NoEmptyFile w fs
  | .finishBackup _ => True
  | .finishTemp _ => True

section Harmless

variable {w : CacheWrite} {failing : Option FilePoint} {fs : CacheDir}

theorem laidOut_eq_iff : (∀ store, laidOut fs store = (fs.stores store).final) ↔ LayoutPresent fs := by
  have hone : ∀ d : Option Directory, some (d.getD []) = d ↔ d ≠ none := by
    intro d
    cases d <;> simp
  refine ⟨fun h => ⟨(hone _).mp (h .trustStore), (hone _).mp (h .historicalTrustStore)⟩, ?_⟩
  intro h store
  cases store with
  | trustStore => exact (hone _).mpr h.1
  | historicalTrustStore => exact (hone _).mpr h.2
  | tsaStore => rfl
  | historicalTsaStore => rfl

theorem laidOut_all_isEmpty (fs : CacheDir) (store : Store) :
    (laidOut fs store).all List.isEmpty = (fs.stores store).final.all List.isEmpty := by
  cases store with
  | trustStore => cases h : (fs.stores .trustStore).final <;> simp [laidOut, h]
  | historicalTrustStore => cases h : (fs.stores .historicalTrustStore).final <;> simp [laidOut, h]
  | tsaStore => rfl
  | historicalTsaStore => rfl

theorem Transactional.error_iff {fs' : CacheDir}
    (hrun : writeTrustListsMaterialized w failing fs = .error fs') :
    Transactional w failing fs ↔
      (∀ slot, (fs'.files slot).final = (fs.files slot).final) ∧
      (∀ store, (fs'.stores store).final = (fs.stores store).final) ∧
      (∀ slot ∈ w.slots, (fs'.files slot).temp = none) ∧
      ∀ store, (fs'.stores store).temp = none := by
  constructor
  · exact fun h => h.failed fs' hrun
  · refine fun h => ⟨fun e he => ?_, fun e he => ?_⟩
    · rw [hrun] at he
      exact Except.error.inj he ▸ h
    · rw [hrun] at he
      cases he

theorem Transactional.ok_iff {fs' : CacheDir}
    (hrun : writeTrustListsMaterialized w failing fs = .ok fs') :
    Transactional w failing fs ↔ (∀ e ∈ w.stagedFiles, (fs'.files e.1).final = some e.2) ∧
      ∀ store, (fs'.stores store).final = some (w.content store) := by
  constructor
  · exact fun h => h.succeeded fs' hrun
  · refine fun h => ⟨fun e he => ?_, fun e he => ?_⟩
    · rw [hrun] at he
      cases he
    · rw [hrun] at he
      exact Except.ok.inj he ▸ h

theorem transactional_of_abandoned {fs' : CacheDir}
    (hrun : writeTrustListsMaterialized w failing fs = .error fs') (h : Abandoned w fs fs') :
    Transactional w failing fs ↔ LayoutPresent fs := by
  rw [Transactional.error_iff hrun, ← laidOut_eq_iff]
  constructor
  · exact fun hall store => (h.store_final store).symm.trans (hall.2.1 store)
  · exact fun hall => ⟨h.file_final, fun store => (h.store_final store).trans (hall store),
      h.file_temp, h.store_temp⟩

variable (w failing) in
/-- The points before the backups, other than those that only leave something behind. -/
@[mk_iff]
structure Unhindered : Prop where
  layout : ∀ dir, failing ≠ some (.createLayout dir)
  files : ∀ slot ∈ w.slots, failing ≠ some (.stageFile slot)
  stores : ¬StagingFails w failing

theorem write_eq_commit (h : Unhindered w failing) (fs : CacheDir) : ∃ fs₁,
    writeTrustListsMaterialized w failing fs = commit w failing fs₁ ∧ Prepared w failing fs fs₁ := by
  obtain ⟨fs₁, ⟨hfiles, -, hprepared⟩ | ⟨-, ⟨slot, hslot, hfail⟩, -⟩⟩ :=
    @prepareFiles_spec w failing fs h.layout
  swap
  · exact absurd hfail (h.files slot hslot)
  obtain ⟨fs₂, ⟨hstores, -, hready⟩ | ⟨-, hfail, -⟩⟩ := prepareStores_spec hprepared
  swap
  · exact absurd hfail h.stores
  refine ⟨fs₂, ?_, hready⟩
  rw [writeTrustListsMaterialized, hfiles]
  show (prepareStores w failing fs₁ >>= _) = _
  rw [hstores]
  rfl

namespace Prepared

variable {fs₁ : CacheDir}

theorem staged (h : Prepared w failing fs fs₁) : ∀ slot ∈ w.slots, (fs₁.files slot).temp ≠ none := by
  intro slot hslot
  obtain ⟨e, he, rfl⟩ := List.mem_map.mp hslot
  simp [h.file_temp e he]

theorem filesBackUp_iff (h : Prepared w failing fs fs₁) : FilesBackUp w failing fs₁ ↔
    ∀ slot ∈ w.slots, failing = some (.backup (.file slot)) →
      (fs.files slot).final.all List.isEmpty = true := by
  refine forall₂_congr fun slot _ => ?_
  constructor
  · intro hno hfail
    by_contra hcontent
    refine hno ?_ hfail
    rw [keepFile, h.file_final]
    cases hfinal : (fs.files slot).final <;> simp_all
  · intro hempty hkeep hfail
    have hall := hempty hfail
    obtain ⟨data, hdata, hne⟩ := final_of_keepFile hkeep
    rw [h.file_final] at hdata
    simp [hdata, hne] at hall

theorem storeBacksUp_iff (h : Prepared w failing fs fs₁) (store : Store) :
    StoreBacksUp failing fs₁ store ↔
      (laidOut fs store ≠ none → failing ≠ some (.examine (.store store)) →
        failing ≠ some (.backup (.store store)) ∧
          (leftBackup failing fs store).all List.isEmpty = true) := by
  rw [StoreBacksUp, keepStore, movesStore, h.store_final, h.store_backup]
  cases hfinal : laidOut fs store <;> simp [Place.movable]

theorem storeInstalls_iff (h : Prepared w failing fs fs₁) (store : Store) :
    StoreInstalls failing fs₁ store ↔ failing ≠ some (.install (.store store)) ∧
      stagedTemp w failing fs store ≠ none ∧
      (failing = some (.examine (.store store)) → (fs.stores store).final.all List.isEmpty = true) := by
  rw [StoreInstalls, keepStore, movesStore, h.store_final, h.store_temp, ← laidOut_all_isEmpty]
  by_cases hexamine : failing = some (.examine (.store store))
  · simp [Place.movable, hexamine, Option.isSome_iff_ne_none]
  · cases hfinal : laidOut fs store <;>
      simp [Place.movable, hexamine, Option.isSome_iff_ne_none]

section

variable (h : Prepared w failing fs fs₁)
    (hrun : writeTrustListsMaterialized w failing fs = commit w failing fs₁)

include h hrun

theorem transactional_of_ok
    (hfiles : FilesBackUp w failing fs₁) (hstores : ∀ store, StoreBacksUp failing fs₁ store)
    (hinstall : FilesInstall w failing) (hinstalls : ∀ store, StoreInstalls failing fs₁ store) :
    Transactional w failing fs ↔
      ∀ store, stagedTemp w failing fs store = some (w.content store) := by
  obtain ⟨fs', ⟨-, hok, hfile, hstore⟩ | ⟨hno, -⟩⟩ := commit_spec hfiles hstores h.staged
  swap
  · exact absurd ⟨hinstall, hinstalls⟩ hno
  rw [Transactional.ok_iff (hrun.trans hok)]
  have hinstalled : ∀ e ∈ w.stagedFiles, (fs'.files e.1).final = some e.2 := fun e he =>
    (hfile e.1 (List.mem_map_of_mem he)).trans (h.file_temp e he)
  constructor
  · exact fun hall store => ((hstore store).trans (h.store_temp store)).symm.trans (hall.2 store)
  · exact fun hall => ⟨hinstalled, fun store =>
      ((hstore store).trans (h.store_temp store)).trans (hall store)⟩

/-- The roll-back, when what was there could be looked at: files without content are lost,
and the layout stays. -/
theorem transactional_of_rolledBack (hexamine : ∀ thing, failing ≠ some (.examine thing))
    (hfiles : FilesBackUp w failing fs₁) (hstores : ∀ store, StoreBacksUp failing fs₁ store)
    (hfail : ¬ (FilesInstall w failing ∧ ∀ store, StoreInstalls failing fs₁ store)) :
    Transactional w failing fs ↔ LayoutPresent fs ∧ NoEmptyFile w fs := by
  obtain ⟨fs', ⟨hall, -⟩ | ⟨-, herror, hrolled⟩⟩ := commit_spec hfiles hstores h.staged
  · exact absurd hall hfail
  have hstore : ∀ store, (fs'.stores store).final = laidOut fs store := by
    intro store
    rw [hrolled.store_final, keepStore, h.store_final]
    cases hfinal : laidOut fs store <;> simp [hexamine]
  have hfile : ∀ slot, (fs'.files slot).final =
      if slot ∈ w.slots ∧ (fs.files slot).final = some [] then none else (fs.files slot).final := by
    intro slot
    rw [hrolled.file_final, keepFile, h.file_final]
    rcases hfinal : (fs.files slot).final with _ | _ | ⟨byte, rest⟩ <;> simp [hexamine]
  rw [Transactional.error_iff (hrun.trans herror), ← laidOut_eq_iff]
  constructor
  · rintro ⟨hfinals, hlaid, -, -⟩
    refine ⟨fun store => (hstore store).symm.trans (hlaid store), fun slot hslot hempty => ?_⟩
    have hlost := hfinals slot
    rw [hfile, if_pos ⟨hslot, hempty⟩, hempty] at hlost
    cases hlost
  · rintro ⟨hlaid, hnone⟩
    refine ⟨fun slot => ?_, fun store => (hstore store).trans (hlaid store), hrolled.file_temp,
      hrolled.store_temp⟩
    rw [hfile, if_neg fun hlost => hnone slot hlost.1 hlost.2]

theorem transactional_of_store_stop {store : Store} (hcreated : ∀ s, failing ≠ some (.createTemp s))
    (hfiles : FilesBackUp w failing fs₁) (hstop : ¬ StoreBacksUp failing fs₁ store)
    (hothers : ∀ s, s ≠ store → StoreBacksUp failing fs₁ s) :
    Transactional w failing fs ↔
      (store = .tsaStore ∨ store = .historicalTsaStore) ∧ LayoutPresent fs := by
  obtain ⟨fs', herror, hfile, hstore, hfileTemp, hstoreTemp⟩ := commit_store_stop hfiles hstop hothers
  have htemp : ∀ s, (fs₁.stores s).temp ≠ none := by
    intro s
    rw [h.store_temp, stagedTemp, if_neg (hcreated s)]
    exact Option.some_ne_none _
  -- all temporary stores are swept only after the backup of one of the last two
  have hswept : (∀ s, (fs'.stores s).temp = none) ↔
      (store = .tsaStore ∨ store = .historicalTsaStore) := by
    have hiff : ∀ s, (fs'.stores s).temp = none ↔ s ∈ sweptStores store := by
      intro s
      rw [hstoreTemp]
      split
      next hs => exact iff_of_true rfl hs
      next hs => exact iff_of_false (htemp s) hs
    simp only [hiff]
    cases store with
    | trustStore => exact iff_of_false (fun hall => absurd (hall .tsaStore) (by decide)) (by decide)
    | historicalTrustStore =>
      exact iff_of_false (fun hall => absurd (hall .tsaStore) (by decide)) (by decide)
    | tsaStore | historicalTsaStore => exact iff_of_true mem_allStores (by decide)
  rw [Transactional.error_iff (hrun.trans herror), hswept, ← laidOut_eq_iff]
  constructor
  · rintro ⟨-, hlaid, -, hlast⟩
    exact ⟨hlast, fun s => (h.store_final s).symm.trans ((hstore s).symm.trans (hlaid s))⟩
  · rintro ⟨hlast, hlaid⟩
    exact ⟨fun slot => (hfile slot).trans (h.file_final slot),
      fun s => (hstore s).trans ((h.store_final s).trans (hlaid s)), hfileTemp, hlast⟩

end

end Prepared

/-! ### The failures one by one -/

theorem writeFile_append (a b : Directory) (c : StagedCertificate) :
    writeFile (a ++ b) c = a.filter (fun e => e.1 ≠ c.fileName) ++ writeFile b c := by
  simp [writeFile]

theorem foldl_writeFile_append : ∀ (certificates : List StagedCertificate) (a b : Directory),
    certificates.foldl writeFile (a ++ b) =
      a.filter (fun e => ∀ c ∈ certificates, c.fileName ≠ e.1) ++ certificates.foldl writeFile b
  | [], a, b => by simp
  | c :: rest, a, b => by
    rw [List.foldl_cons, writeFile_append, foldl_writeFile_append rest, List.filter_filter]
    simp only [List.foldl_cons, List.forall_mem_cons, Bool.decide_and, ne_comm, Bool.and_comm]

theorem foldl_writeFile_eq_iff (certificates : List StagedCertificate) (stale : Directory) :
    certificates.foldl writeFile stale = certificates.foldl writeFile [] ↔
      ∀ e ∈ stale, ∃ c ∈ certificates, c.fileName = e.1 := by
  have hsplit := foldl_writeFile_append certificates stale []
  rw [List.append_nil] at hsplit
  rw [hsplit, List.append_left_eq_self, List.filter_eq_nil_iff]
  refine forall₂_congr fun e _ => ?_
  simp

variable {store : Store}

theorem stagedTemp_eq_content (hcreate : failing ≠ some (.createTemp store))
    (hclean : failing ≠ some (.cleanTemp (.store store))) :
    stagedTemp w failing fs store = some (w.content store) := by
  rw [stagedTemp, if_neg hcreate, leftTemp, if_neg hclean]
  rfl

theorem stagedTemp_ne_none (hcreate : failing ≠ some (.createTemp store)) :
    stagedTemp w failing fs store ≠ none := by
  rw [stagedTemp, if_neg hcreate]
  exact Option.some_ne_none _

theorem leftBackup_eq_none (hclean : failing ≠ some (.cleanBackup (.store store))) :
    leftBackup failing fs store = none :=
  if_neg hclean

variable (w failing fs) in
/-- A failure that neither a backup nor the final places notice. -/
@[mk_iff]
structure Unnoticed : Prop extends Unhindered w failing where
  fileBackups : ∀ slot ∈ w.slots, failing = some (.backup (.file slot)) →
    (fs.files slot).final.all List.isEmpty = true
  storeBackups : ∀ store, laidOut fs store ≠ none → failing ≠ some (.examine (.store store)) →
    failing ≠ some (.backup (.store store)) ∧
      (leftBackup failing fs store).all List.isEmpty = true
  created : ∀ store, failing ≠ some (.createTemp store)
  fileInstalls : FilesInstall w failing
  storeInstalls : ∀ store, failing ≠ some (.install (.store store)) ∧
    (failing = some (.examine (.store store)) →
      (fs.stores store).final.all List.isEmpty = true)

-- for a point that is named, these say what is left to be shown
attribute [simp] unhindered_iff unnoticed_iff StagingFails FilesInstall

theorem Unnoticed.transactional_iff (h : Unnoticed w failing fs) : Transactional w failing fs ↔
    ∀ store, stagedTemp w failing fs store = some (w.content store) := by
  obtain ⟨fs₁, hrun, hprepared⟩ := write_eq_commit h.toUnhindered fs
  refine hprepared.transactional_of_ok hrun (hprepared.filesBackUp_iff.mpr h.fileBackups)
    (fun store => (hprepared.storeBacksUp_iff store).mpr (h.storeBackups store)) h.fileInstalls
    fun store => ?_
  obtain ⟨hinstall, hexamine⟩ := h.storeInstalls store
  exact (hprepared.storeInstalls_iff store).mpr
    ⟨hinstall, stagedTemp_ne_none (h.created store), hexamine⟩

theorem Unnoticed.transactional (h : Unnoticed w failing fs)
    (hclean : ∀ store, failing ≠ some (.cleanTemp (.store store))) : Transactional w failing fs :=
  h.transactional_iff.mpr fun store => stagedTemp_eq_content (h.created store) (hclean store)

theorem transactional_store_refused (h : Unhindered w failing)
    (hpresent : laidOut fs store ≠ none) (hexamine : ∀ thing, failing ≠ some (.examine thing))
    (hcreate : ∀ s, failing ≠ some (.createTemp s))
    (hfiles : ∀ slot, failing ≠ some (.backup (.file slot)))
    (hrefused : failing ≠ some (.backup (.store store)) →
      (leftBackup failing fs store).all List.isEmpty = false)
    (hothers : ∀ s, s ≠ store → failing ≠ some (.backup (.store s)) ∧
      failing ≠ some (.cleanBackup (.store s))) :
    Transactional w failing fs ↔
      (store = .tsaStore ∨ store = .historicalTsaStore) ∧ LayoutPresent fs := by
  obtain ⟨fs₁, hrun, hprepared⟩ := write_eq_commit h fs
  refine hprepared.transactional_of_store_stop hrun hcreate
    (hprepared.filesBackUp_iff.mpr fun slot _ hfail => absurd hfail (hfiles slot)) ?_ fun s hs => ?_
  · intro hback
    obtain ⟨hno, hempty⟩ := (hprepared.storeBacksUp_iff store).mp hback hpresent (hexamine _)
    simp [hrefused hno] at hempty
  · refine (hprepared.storeBacksUp_iff s).mpr fun _ _ => ⟨(hothers s hs).1, ?_⟩
    rw [leftBackup_eq_none (hothers s hs).2]
    rfl

theorem createDirectory_final_iff (fs : CacheDir) (store : Store) :
    (∀ s, ((createDirectory fs store).stores s).final = (fs.stores s).final) ↔
      (fs.stores store).final ≠ none := by
  constructor
  · intro h hnone
    have hnew := h store
    rw [createDirectory, CacheDir.setStore_self, hnone] at hnew
    cases hnew
  · intro h s
    obtain ⟨dir, hdir⟩ := Option.ne_none_iff_exists'.mp h
    refine CacheDir.setStore_final fs ?_ s
    simp [hdir]

theorem createDirectory_temp (fs : CacheDir) (store s : Store) :
    ((createDirectory fs store).stores s).temp = (fs.stores s).temp := by
  rw [createDirectory]
  by_cases hs : s = store
  · rw [hs, CacheDir.setStore_self]
  · rw [fs.setStore_of_ne hs]

theorem createLayout_iff (dir : LayoutDir) :
    Transactional w (some (.createLayout dir)) fs ↔ (FilePoint.createLayout dir).Harmless w fs := by
  have hlayoutTemp : ∀ s, ((layout fs).stores s).temp = (fs.stores s).temp := fun s => by
    rw [layout, createDirectory_temp, createDirectory_temp]
  have hlayoutFinal : (∀ s, ((layout fs).stores s).final = (fs.stores s).final) ↔
      LayoutPresent fs := by
    simp only [layout_store]
    exact laidOut_eq_iff
  have hearly : ∀ fs', writeTrustListsMaterialized w (some (.createLayout dir)) fs = .error fs' →
      fs'.files = fs.files → (∀ s, (fs'.stores s).temp = (fs.stores s).temp) →
      (Transactional w (some (.createLayout dir)) fs ↔
        (∀ slot ∈ w.slots, (fs.files slot).temp = none) ∧ (∀ s, (fs.stores s).temp = none) ∧
        ∀ s, (fs'.stores s).final = (fs.stores s).final) := by
    intro fs' hrun hfiles htemps
    rw [Transactional.error_iff hrun]
    simp only [hfiles, htemps]
    tauto
  cases dir with
  | trustList | trustStore =>
    rw [hearly fs rfl rfl fun _ => rfl]
    simp [FilePoint.Harmless]
  | historicalTrustStore =>
    rw [hearly (createDirectory fs .trustStore) rfl rfl (createDirectory_temp fs _),
      createDirectory_final_iff]
    simp [FilePoint.Harmless]
  | intermediateStore | crlStore | policy =>
    rw [hearly (layout fs) rfl rfl hlayoutTemp, hlayoutFinal]
    simp [FilePoint.Harmless, LayoutPresent]

theorem stageFile_iff (slot : FileSlot) (hslot : slot ∈ w.slots) :
    Transactional w (some (.stageFile slot)) fs ↔ LayoutPresent fs := by
  obtain ⟨fs', ⟨-, hno, -⟩ | ⟨herror, -, habandoned⟩⟩ :=
    @prepareFiles_spec w (some (.stageFile slot)) fs (by simp)
  · exact absurd rfl (hno slot hslot)
  refine transactional_of_abandoned ?_ habandoned
  rw [writeTrustListsMaterialized, herror]
  rfl

theorem staging_iff (hlayout : ∀ dir, failing ≠ some (.createLayout dir))
    (hfiles : ∀ slot, failing ≠ some (.stageFile slot))
    (hfail : StagingFails w failing) : Transactional w failing fs ↔ LayoutPresent fs := by
  obtain ⟨fs₁, ⟨hok, -, hprepared⟩ | ⟨-, ⟨slot, -, hstage⟩, -⟩⟩ :=
    @prepareFiles_spec w failing fs hlayout
  swap
  · exact absurd hstage (hfiles slot)
  obtain ⟨fs', ⟨-, hno, -⟩ | ⟨herror, -, habandoned⟩⟩ := prepareStores_spec hprepared
  · exact absurd hfail hno
  refine transactional_of_abandoned ?_ habandoned
  rw [writeTrustListsMaterialized, hok]
  show (prepareStores w failing fs₁ >>= _) = _
  rw [herror]
  rfl

/-- A temporary store that is missing and that no certificate is for: this is noticed when
it shall be installed. -/
theorem createTemp_unneeded_iff (hlast : store ≠ .historicalTsaStore)
    (hneeded : ¬ ∃ c ∈ w.certificates, c.store = store) :
    Transactional w (some (.createTemp store)) fs ↔ LayoutPresent fs ∧ NoEmptyFile w fs := by
  have hgo : Unhindered w (some (.createTemp store)) := by
    simpa [hlast, eq_comm] using hneeded
  obtain ⟨fs₁, hrun, hprepared⟩ := write_eq_commit hgo fs
  refine hprepared.transactional_of_rolledBack hrun (by simp)
    (hprepared.filesBackUp_iff.mpr (by simp)) (fun s => ?_) fun hall => ?_
  · exact (hprepared.storeBacksUp_iff s).mpr fun _ _ => ⟨by simp, by simp [leftBackup]⟩
  · exact ((hprepared.storeInstalls_iff store).mp (hall.2 store)).2.1
      (by simp [stagedTemp, leftTemp])

theorem createTemp_iff (store : Store) :
    Transactional w (some (.createTemp store)) fs ↔ (FilePoint.createTemp store).Harmless w fs := by
  by_cases hearly : store = .historicalTsaStore ∨ ∃ c ∈ w.certificates, c.store = store
  · refine (staging_iff (by simp) (by simp) ?_).trans ⟨fun h => ⟨h, ?_⟩, fun h => h.1⟩
    · refine hearly.imp (fun heq => by rw [heq]) fun hneeded => .inl ?_
      obtain ⟨c, hc, heq⟩ := hneeded
      exact ⟨c, hc, by rw [heq]⟩
    · exact hearly.imp id .inl
  · obtain ⟨hlast, hneeded⟩ := not_or.mp hearly
    refine (createTemp_unneeded_iff hlast hneeded).trans (and_congr_right fun _ => ?_)
    rw [or_iff_right hlast, or_iff_right hneeded]

theorem install_iff {thing : Thing} (hthing : ∀ slot, thing = .file slot → slot ∈ w.slots) :
    Transactional w (some (.install thing)) fs ↔ LayoutPresent fs ∧ NoEmptyFile w fs := by
  obtain ⟨fs₁, hrun, hprepared⟩ := @write_eq_commit w (some (.install thing)) (by simp) fs
  refine hprepared.transactional_of_rolledBack hrun (by simp)
    (hprepared.filesBackUp_iff.mpr (by simp)) (fun s => ?_) fun hall => ?_
  · exact (hprepared.storeBacksUp_iff s).mpr fun _ _ => ⟨by simp, by simp [leftBackup]⟩
  · cases thing with
    | file slot => exact hall.1 slot (hthing slot rfl) rfl
    | store store => exact ((hprepared.storeInstalls_iff store).mp (hall.2 store)).1 rfl

/-- A store that cannot be looked at is replaced without a backup. -/
theorem examine_store_iff (store : Store) : Transactional w (some (.examine (.store store))) fs ↔
      (fs.stores store).final.all List.isEmpty = true := by
  by_cases hempty : (fs.stores store).final.all List.isEmpty = true
  · exact iff_of_true (Unnoticed.transactional (by simpa [leftBackup] using hempty) (by simp)) hempty
  · obtain ⟨fs₁, hrun, hprepared⟩ := @write_eq_commit w (some (.examine (.store store))) (by simp) fs
    obtain ⟨fs', ⟨hall, -⟩ | ⟨-, herror, hrolled⟩⟩ := commit_spec
      (hprepared.filesBackUp_iff.mpr (by simp))
      (fun s => (hprepared.storeBacksUp_iff s).mpr fun _ _ => ⟨by simp, by simp [leftBackup]⟩)
      hprepared.staged
    · exact absurd (((hprepared.storeInstalls_iff store).mp (hall.2 store)).2.2 rfl) hempty
    refine iff_of_false (fun htrans => hempty ?_) hempty
    have hlost := ((Transactional.error_iff (hrun.trans herror)).mp htrans).2.1 store
    rw [hrolled.store_final, if_pos (by simp [keepStore])] at hlost
    rw [← hlost]
    rfl

theorem backup_file_iff {slot : FileSlot} (hslot : slot ∈ w.slots) :
    Transactional w (some (.backup (.file slot))) fs ↔
      (fs.files slot).final.all List.isEmpty = true := by
  by_cases hempty : (fs.files slot).final.all List.isEmpty = true
  · refine iff_of_true (Unnoticed.transactional ?_ (by simp)) hempty
    have hslots : ∀ s ∈ w.slots, slot = s → (fs.files s).final.all List.isEmpty = true := by
      rintro s - rfl
      exact hempty
    simpa [leftBackup] using hslots
  · obtain ⟨fs₁, hrun, hprepared⟩ := @write_eq_commit w (some (.backup (.file slot))) (by simp) fs
    obtain ⟨fs', herror, htemp⟩ := commit_file_stop
      fun hall => hempty (hprepared.filesBackUp_iff.mp hall slot hslot rfl)
    refine iff_of_false (fun htrans => ?_) hempty
    have hleft := ((Transactional.error_iff (hrun.trans herror)).mp htrans).2.2.2 .tsaStore
    rw [htemp, hprepared.store_temp] at hleft
    exact stagedTemp_ne_none (by simp) hleft

theorem backupUndone_of_absent (h : laidOut fs store = none) : BackupUndone fs store := by
  cases store with
  | trustStore => cases h
  | historicalTrustStore => cases h
  | tsaStore => exact ⟨.inl rfl, .inl h⟩
  | historicalTsaStore => exact ⟨.inr rfl, .inl h⟩

theorem backupUndone_iff (h : laidOut fs store ≠ none) : BackupUndone fs store ↔
    (store = .tsaStore ∨ store = .historicalTsaStore) ∧ LayoutPresent fs := by
  refine and_congr_right fun hlast => or_iff_right fun hnone => h ?_
  rcases hlast with rfl | rfl
  · exact hnone
  · exact hnone

theorem backup_store_iff (store : Store) :
    Transactional w (some (.backup (.store store))) fs ↔ BackupUndone fs store := by
  by_cases hpresent : laidOut fs store = none
  · refine iff_of_true (Unnoticed.transactional ?_ (by simp)) (backupUndone_of_absent hpresent)
    have hothers : ∀ s, ¬laidOut fs s = none → ¬store = s := by
      rintro s hs rfl
      exact hs hpresent
    simpa [leftBackup] using hothers
  · rw [backupUndone_iff hpresent]
    refine transactional_store_refused (by simp) hpresent (by simp) (by simp) (by simp)
      (fun hno => absurd rfl hno) fun s hs => ⟨?_, by simp⟩
    simpa using Ne.symm hs

/-- A stale backup that is not empty is in the way of the new one. -/
theorem cleanBackup_store_iff (store : Store) :
    Transactional w (some (.cleanBackup (.store store))) fs ↔
      (fs.stores store).backup.all List.isEmpty = true ∨ BackupUndone fs store := by
  have hleft : leftBackup (some (.cleanBackup (.store store))) fs store = (fs.stores store).backup :=
    if_pos rfl
  by_cases hclear : laidOut fs store = none ∨ (fs.stores store).backup.all List.isEmpty = true
  · refine iff_of_true (Unnoticed.transactional ?_ (by simp))
      (hclear.symm.imp id backupUndone_of_absent)
    simp only [unnoticed_iff]
    refine ⟨by simp, by simp, fun s hs _ => ⟨by simp, ?_⟩, by simp, by simp, by simp⟩
    by_cases heq : s = store
    · subst heq
      rw [hleft]
      exact hclear.resolve_left hs
    · rw [leftBackup_eq_none (by simpa using Ne.symm heq)]
      rfl
  · obtain ⟨hpresent, hstale⟩ := not_or.mp hclear
    rw [backupUndone_iff hpresent, or_iff_right hstale]
    refine transactional_store_refused (by simp) hpresent (by simp) (by simp) (by simp) (fun _ => ?_)
      fun s hs => ⟨by simp, ?_⟩
    · rw [hleft]
      simpa using hstale
    · simpa using Ne.symm hs

/-- A stale temporary store is installed with what is in it. -/
theorem cleanTemp_store_iff (store : Store) :
    Transactional w (some (.cleanTemp (.store store))) fs ↔
      ∀ stale, (fs.stores store).temp = some stale →
        ∀ e ∈ stale, ∃ c ∈ w.certificatesFor store, c.fileName = e.1 := by
  have hstaged : stagedTemp w (some (.cleanTemp (.store store))) fs store =
      some ((w.certificatesFor store).foldl writeFile ((fs.stores store).temp.getD [])) := by
    rw [stagedTemp, if_neg (by simp), leftTemp, if_pos rfl]
  have hhere : stagedTemp w (some (.cleanTemp (.store store))) fs store = some (w.content store) ↔
      ∀ stale, (fs.stores store).temp = some stale →
        ∀ e ∈ stale, ∃ c ∈ w.certificatesFor store, c.fileName = e.1 := by
    rw [hstaged, Option.some_inj, CacheWrite.content, foldl_writeFile_eq_iff]
    cases (fs.stores store).temp <;> simp
  rw [Unnoticed.transactional_iff (by simp [leftBackup]), ← hhere]
  refine ⟨fun hall => hall store, fun hthis s => ?_⟩
  by_cases heq : s = store
  · rw [heq]
    exact hthis
  · exact stagedTemp_eq_content (by simp) (by simpa using Ne.symm heq)

theorem point_iff (point : FilePoint) : Transactional w (some point) fs ↔ point.Harmless w fs := by
  -- an operation that the call does not come to does not fail
  have hreached : ∀ {P Q T : Prop}, (P → (T ↔ Q)) → (¬P → T) → (T ↔ (P → Q)) := by tauto
  have hother : ∀ {slot}, slot ∉ w.slots → ∀ s ∈ w.slots, ¬slot = s :=
    fun h s hs heq => h (heq ▸ hs)
  cases point with
  | createLayout dir => exact createLayout_iff dir
  | cleanBackup thing =>
    cases thing with
    | file slot => exact iff_of_true (Unnoticed.transactional (by simp [leftBackup]) (by simp)) trivial
    | store store => exact cleanBackup_store_iff store
  | cleanTemp thing =>
    cases thing with
    | file slot => exact iff_of_true (Unnoticed.transactional (by simp [leftBackup]) (by simp)) trivial
    | store store => exact cleanTemp_store_iff store
  | stageFile slot =>
    refine hreached (stageFile_iff slot) fun hslot => ?_
    exact Unnoticed.transactional (by simpa [leftBackup] using hother hslot) (by simp)
  | createTemp store => exact createTemp_iff store
  | stageCertificate index =>
    refine hreached (fun h => staging_iff (by simp) (by simp) (.inr (.inr ⟨index, h, rfl⟩)))
      fun hindex => ?_
    exact Unnoticed.transactional (by simpa [leftBackup] using hindex) (by simp)
  | examine thing =>
    cases thing with
    | file slot => exact iff_of_true (Unnoticed.transactional (by simp [leftBackup]) (by simp)) trivial
    | store store => exact examine_store_iff store
  | backup thing =>
    cases thing with
    | file slot =>
      refine hreached (backup_file_iff) fun hslot => ?_
      refine Unnoticed.transactional ?_ (by simp)
      simpa [leftBackup] using fun s hs heq => absurd heq (hother hslot s hs)
    | store store => exact backup_store_iff store
  | install thing =>
    cases thing with
    | file slot =>
      refine hreached (fun h => install_iff (by simpa using h)) fun hslot => ?_
      exact Unnoticed.transactional (by simpa [leftBackup] using hother hslot) (by simp)
    | store store => exact install_iff (by simp)
  | finishBackup thing | finishTemp thing =>
    exact iff_of_true (Unnoticed.transactional (by simp [leftBackup]) (by simp)) trivial

end Harmless

/-- **The transaction**: for every failing point, the call is a transaction exactly if the
point is harmless for what is in the directory and what is written. -/
theorem materialization_transactional_iff (w : CacheWrite) (failing : Option FilePoint)
    (fs : CacheDir) :
    Transactional w failing fs ↔ ∀ point, failing = some point → point.Harmless w fs := by
  cases failing with
  | none => exact iff_of_true (Unnoticed.transactional (by simp [leftBackup]) (by simp)) nofun
  | some point =>
    rw [point_iff]
    constructor
    · intro h p heq
      exact Option.some.inj heq ▸ h
    · exact fun h => h point rfl

def exampleWrite : CacheWrite where
  entries := []
  stateJson := [123, 125]
  metadataJson := [123, 125]
  certificates := []
  distinct := List.nodup_nil

/-- A cache whose state was written without content. -/
def emptyStateDir : CacheDir where
  files := fun slot => { final := if slot = .state then some [] else none, temp := none, backup := none }
  stores := fun _ => { final := some [], temp := none, backup := none }

/-- The metadata cannot be installed: the call fails, and the empty state, for which no
backup was made, is gone. -/
theorem empty_state_lost :
    ¬ Transactional exampleWrite (some (.install (.file .metadata))) emptyStateDir := by
  intro h
  have hstate := (h.failed _ rfl).1 .state
  exact absurd hstate (by decide)

end Tamga.PolicyCache
