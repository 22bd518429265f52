/-
What an accepted container can do when it is unpacked (`asic/AsicReader.cpp`,
`IsUnsafeEntryName` and `ValidateArchiveSafety`).

* `staysInside_of_safe` — a name that passes the check leads nowhere else, whichever characters
  separate the components of a path;
* `loadFromBuffer_safe` — the limits that hold for an accepted container.
-/
import Mathlib.Data.List.Nodup
import Tamga.AsicReader

namespace Tamga.Asic

open Util Zip List

/-! ### Paths -/

/-- The characters between the components of a path. -/
def separates (windows : Bool) (c : Char) : Bool := c == '/' || windows && c == '\\'

/-- How deep below its start a path ends, or nothing if it comes out above it on the way. -/
def depthAfter : Nat → List (List Char) → Option Nat
  | depth, [] => some depth
  | depth, component :: rest =>
    if component = ['.', '.'] then if depth = 0 then none else depthAfter (depth - 1) rest
    else depthAfter (if component = [] ∨ component = ['.'] then depth else depth + 1) rest

/-- A relative name whose path stays below the directory where it starts. -/
structure StaysInside (windows : Bool) (name : String) : Prop where
  relative : (name.toList.head?.any (separates windows)) = false
  noDrive : name.toList[1]? ≠ some ':'
  noBackslash : '\\' ∉ name.toList
  noDots : ['.', '.'] ∉ name.toList.splitOnP (separates windows)
  inside : (depthAfter 0 (name.toList.splitOnP (separates windows))).isSome = true

theorem depthAfter_isSome : ∀ (components : List (List Char)) (depth : Nat),
    ['.', '.'] ∉ components → (depthAfter depth components).isSome = true
  | [], _, _ => rfl
  | component :: rest, depth, h => by
    obtain ⟨hne, hrest⟩ := not_or.mp (mt mem_cons.mpr h)
    rw [depthAfter, if_neg (Ne.symm hne)]
    exact depthAfter_isSome rest _ hrest

/-- Without a backslash both systems see the same components. -/
theorem splitOnP_separates (windows : Bool) : ∀ {text : List Char}, '\\' ∉ text →
    text.splitOnP (separates windows) = text.splitOn '/'
  | [], _ => rfl
  | c :: rest, h => by
    obtain ⟨hne, hrest⟩ := not_or.mp (mt mem_cons.mpr h)
    have hc : separates windows c = (c == '/') := by simp [separates, Ne.symm hne]
    rw [List.splitOn, splitOnP_cons_eq_if_modifyHead, splitOnP_cons_eq_if_modifyHead, hc,
      splitOnP_separates windows hrest]
    rfl

theorem staysInside_of_safe {name : String} (h : isUnsafeEntryName name = false) (windows : Bool) :
    StaysInside windows name := by
  rw [isUnsafeEntryName] at h
  split at h
  · cases h
  next c rest htext =>
    simp only [Bool.or_eq_false_iff, beq_eq_false_iff_ne, contains_eq_mem,
      decide_eq_false_iff_not] at h
    obtain ⟨⟨⟨⟨hslash, hback⟩, hdrive⟩, hnone⟩, hdots⟩ := h
    have hparts := splitOnP_separates windows hnone
    rw [← htext] at hnone hparts hdots
    refine ⟨?_, ?_, hnone, hparts ▸ hdots, depthAfter_isSome _ 0 (hparts ▸ hdots)⟩
    · simp [htext, separates, hslash, hback]
    · rw [htext]
      simpa [List.head?_eq_getElem?] using hdrive

/-! ### Accepted containers -/

/-- **An accepted container is safe to unpack.**  It has at most 4096 entries with different names,
no name leads out of the directory on POSIX or on Windows, and its files have at most 256 MiB.  No
sum that the loop forms reaches the range of its 64-bit counter. -/
theorem loadFromBuffer_safe {data : Container} {zip : Archive} (h : loadFromBuffer data = .ok zip) :
    zip.entries.length ≤ 4096 ∧ (zip.entries.map ZipEntry.statName).Nodup ∧
      (∀ e ∈ zip.entries, ∀ windows, StaysInside windows e.statName) ∧
      ((fileEntries zip.entries).map ZipEntry.uncompSize).sum ≤ 256 * 1024 * 1024 ∧
      ∀ pre (e : ZipEntry), validateEntries pre [] 0 = .ok () →
        e.uncompSize ≤ kMaxEntryUncompressedSize → totalSize pre + e.uncompSize < 2 ^ 64 := by
  obtain ⟨-, -, hsafe⟩ := loadFromBuffer_eq_ok.mp h
  refine ⟨hsafe.count, hsafe.distinct, fun e he => staysInside_of_safe (hsafe.names e he),
    hsafe.total, fun pre e hpre he => ?_⟩
  obtain ⟨-, -, -, -, htotal⟩ := (validateEntries_eq_ok pre [] 0 (Nat.zero_le _)).mp hpre
  rw [kMaxTotalUncompressedSize] at htotal
  rw [kMaxEntryUncompressedSize] at he
  omega

/-- A name that leaves the directory after the 511 octets that are looked at. -/
def longName : List Char := List.replicate 510 'c' ++ ['/', '.', '.', '/', '.', '.', '/', 'e']

/-- A directory that declares 1 TiB, and three files. -/
def crowdedArchive : Archive :=
  ⟨[⟨"d/", true, 0, 2 ^ 40, none⟩, ⟨"d/a.txt", false, 2, 2, some [1, 2]⟩,
    ⟨"b.txt", false, 1, 1, some [3]⟩, ⟨String.ofList longName, false, 1, 1, some [4]⟩], .ofScan _⟩

theorem statName_longName : (⟨String.ofList longName, false, 1, 1, some [4]⟩ : ZipEntry).statName =
    String.ofList (List.replicate 510 'c' ++ ['/']) := by
  have hcut : (longName.take 511).takeWhile (· != '\x00') = List.replicate 510 'c' ++ ['/'] := by
    decide +kernel
  rw [ZipEntry.statName, cString, String.toList_ofList, String.toList_ofList, hcut]

theorem fileEntries_crowdedArchive :
    fileEntries crowdedArchive.entries = crowdedArchive.entries.drop 1 := by
  have hlast : (⟨String.ofList longName, false, 1, 1, some [4]⟩ : ZipEntry).isDirectory = false := by
    rw [ZipEntry.isDirectory, String.toList_ofList]
    decide +kernel
  rw [crowdedArchive, fileEntries_cons, fileEntries_cons, fileEntries_cons, fileEntries_cons, hlast]
  rfl

theorem loadFromBuffer_crowdedArchive :
    loadFromBuffer ⟨2000, some crowdedArchive⟩ = .ok crowdedArchive := by
  refine loadFromBuffer_eq_ok.mpr ⟨by decide, rfl, by decide, ?_, ?_, ?_, ?_⟩
  · simp only [crowdedArchive, forall_mem_cons, statName_longName]
    refine ⟨by decide +kernel, by decide +kernel, by decide +kernel, ?_, nofun⟩
    rw [isUnsafeEntryName, String.toList_ofList]
    decide +kernel
  · simp only [crowdedArchive, map_cons, statName_longName, map_nil]
    refine Nodup.of_map String.toList ?_
    simp only [map_cons, String.toList_ofList, map_nil]
    decide +kernel
  · rw [fileEntries_crowdedArchive]
    decide
  · rw [totalSize, fileEntries_crowdedArchive]
    decide

theorem loadFromBuffer_safe_crowded : crowdedArchive.entries.length = 4 ∧
    ∀ e ∈ crowdedArchive.entries, ∀ windows, StaysInside windows e.statName :=
  ⟨rfl, (loadFromBuffer_safe loadFromBuffer_crowdedArchive).2.2.1⟩

/-- What a directory declares is not counted, and the end of a long name is not looked at. -/
theorem directory_and_long_name_pass :
    (¬∀ data zip, loadFromBuffer data = .ok zip →
      (zip.entries.map ZipEntry.uncompSize).sum ≤ 256 * 1024 * 1024) ∧
    ¬∀ data zip, loadFromBuffer data = .ok zip →
      ∀ e ∈ zip.entries, StaysInside false e.filename := by
  refine ⟨fun h => absurd (h _ _ loadFromBuffer_crowdedArchive) (by decide), fun h => ?_⟩
  have hdots := (h _ _ loadFromBuffer_crowdedArchive _
    (mem_cons_of_mem _ (mem_cons_of_mem _ (mem_cons_of_mem _ mem_cons_self)))).noDots
  rw [String.toList_ofList] at hdots
  exact absurd hdots (by decide +kernel)

end Tamga.Asic
