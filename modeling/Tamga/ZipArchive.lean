/-
ZIP archives as the vendored miniz presents them.

`mz_zip_reader_init_mem` reads the central directory and builds an index of it,
sorted by the names with their ASCII letters in lower case.
`mz_zip_reader_locate_file` with flags 0 is a binary search in that index.  The
heap sort that builds it is represented by what it leaves: a permutation of the
directory in which no name stands before a smaller one.  Which of several names
that agree up to case stands first is therefore left open, and so is which of
them the search finds; `Locator` is what every such search has in common.

Names are cut at 511 bytes when an entry is described (`mz_zip_reader_file_stat`),
but not in the index.

* `filenameCompare_neg`, `filenameCompare_eq_zero` — the comparison is the
  lexicographic order of the lower-case names;
* `Locator.ofIndex` — the binary search in a sorted index is a `Locator`.
-/
import Mathlib.Data.List.TakeWhile
import Tamga.BinarySearch
import Tamga.Encoding

namespace Tamga.Zip

open Util

/-- A `const char*` made from a `std::string`: what precedes the first NUL. -/
def cString (text : String) : String := String.ofList (text.toList.takeWhile (· != '\x00'))

@[simp]
theorem cString_cString (s : String) : cString (cString s) = cString s := by
  rw [cString, cString, String.toList_ofList, List.takeWhile_idem]

/-- A record of the central directory. -/
structure ZipEntry where
  /-- The name with all its bytes. -/
  filename : String
  /-- The DOS directory bit of the external attributes. -/
  directoryAttribute : Bool := false
  compSize : Nat
  uncompSize : Nat
  /-- What `mz_zip_reader_extract_to_heap` returns for the entry. -/
  extracted : Option Bytes
  deriving DecidableEq, Repr

/-- `m_filename` of `mz_zip_reader_file_stat`, read as a C string. -/
def ZipEntry.statName (e : ZipEntry) : String :=
  cString (String.ofList (e.filename.toList.take 511))

@[simp]
theorem cString_statName (e : ZipEntry) : cString e.statName = e.statName := cString_cString _

/-- `mz_zip_reader_is_file_a_directory`. -/
def ZipEntry.isDirectory (e : ZipEntry) : Bool :=
  e.filename.toList.getLast? == some '/' || e.directoryAttribute

/-! ### Names up to case -/

def foldCase (name : String) : List Char := name.toList.map lowerChar

/-- The names agree up to the case of ASCII letters. -/
def SameName (a b : String) : Prop := foldCase a = foldCase b

instance (a b : String) : Decidable (SameName a b) := inferInstanceAs (Decidable (_ = _))

/-- The loop of `mz_zip_filename_compare`, and of `mz_zip_reader_filename_less`,
which asks whether the result is negative. -/
def compareChars : List Char → List Char → Int
  | [], right => -(right.length : Int)
  | left, [] => left.length
  | l :: left, r :: right =>
    if lowerChar l ≠ lowerChar r then ((lowerChar l).toNat : Int) - (lowerChar r).toNat
    else compareChars left right

def filenameCompare (left right : String) : Int := compareChars left.toList right.toList

theorem char_toNat_lt {a b : Char} : a.toNat < b.toNat ↔ a < b := Iff.rfl

theorem char_ne_iff_toNat {a b : Char} : a ≠ b ↔ a.toNat ≠ b.toNat := by
  rw [not_iff_not]
  constructor
  · rintro rfl
    rfl
  · intro h
    exact Char.ext (UInt32.toNat_inj.mp h)

theorem compareChars_spec (left right : List Char) :
    (compareChars left right < 0 ↔ left.map lowerChar < right.map lowerChar) ∧
    (compareChars left right = 0 ↔ left.map lowerChar = right.map lowerChar) := by
  induction left generalizing right with
  | nil =>
    cases right with
    | nil => simp [compareChars]
    | cons r right => simp only [compareChars, List.length_cons, List.map_nil, List.map_cons,
        List.nil_lt_cons, iff_true, reduceCtorEq, iff_false]; omega
  | cons l left ih =>
    cases right with
    | nil => simp only [compareChars, List.length_cons, List.map_nil, List.map_cons,
        List.not_lt_nil, iff_false, reduceCtorEq]; omega
    | cons r right =>
      rw [compareChars, List.map_cons, List.map_cons, List.cons_lt_cons_iff, List.cons.injEq]
      by_cases hne : lowerChar l = lowerChar r
      · rw [if_neg (by simpa using hne), (ih right).1, (ih right).2]
        simp [hne]
      · rw [if_pos hne]
        have hnat := char_ne_iff_toNat.mp hne
        simp only [hne, false_and, or_false, iff_false, ← char_toNat_lt]
        omega

theorem filenameCompare_neg {a b : String} : filenameCompare a b < 0 ↔ foldCase a < foldCase b :=
  (compareChars_spec _ _).1

theorem filenameCompare_eq_zero {a b : String} : filenameCompare a b = 0 ↔ SameName a b :=
  (compareChars_spec _ _).2

/-! ### Looking entries up -/

/-- `mz_zip_reader_locate_file` with flags 0, as far as it is determined: some
entry whose name agrees with the sought one up to case. -/
structure Locator (entries : List ZipEntry) where
  locateFile : String → Option ZipEntry
  sound : ∀ {name e}, locateFile name = some e → e ∈ entries ∧ SameName e.filename name
  complete : ∀ {name}, (∃ e ∈ entries, SameName e.filename name) → (locateFile name).isSome = true

/-- `m_sorted_central_dir_offsets`: the directory in the order of the names. -/
structure SortedIndex (entries : List ZipEntry) where
  table : List ZipEntry
  perm : table.Perm entries
  ordered : table.Pairwise fun a b => ¬ filenameCompare b.filename a.filename < 0

/-- `mz_zip_locate_file_binary_search`. -/
def SortedIndex.binarySearch {entries : List ZipEntry} (index : SortedIndex entries)
    (name : String) : Option ZipEntry :=
  BinarySearch.search (fun e => filenameCompare e.filename name) index.table

theorem SortedIndex.cut {entries : List ZipEntry} (index : SortedIndex entries) (name : String) :
    BinarySearch.Cut (fun e => filenameCompare e.filename name) index.table := by
  refine index.ordered.imp ?_
  intro a b hab
  rw [filenameCompare_neg] at hab
  have hnonneg : ∀ x : String, 0 ≤ filenameCompare x name ↔ ¬ foldCase x < foldCase name := by
    intro x
    rw [← Int.not_lt, filenameCompare_neg]
  have hstep : 0 ≤ filenameCompare a.filename name → 0 ≤ filenameCompare b.filename name := by
    rw [hnonneg, hnonneg]
    exact fun h hlt => h (List.lt_of_le_of_lt (List.not_lt.mp hab) hlt)
  refine ⟨hstep, fun h => ?_⟩
  have hle := hstep (Int.le_of_lt h)
  refine (Int.lt_iff_le_and_ne).mpr ⟨hle, fun hzero => ?_⟩
  -- a name between two names that agree with the key agrees with it too
  have hsame : foldCase b.filename = foldCase name := filenameCompare_eq_zero.mp hzero.symm
  rw [hsame] at hab
  have hnot := (hnonneg a.filename).mp (Int.le_of_lt h)
  have heq : foldCase a.filename = foldCase name :=
    List.le_antisymm (List.not_lt.mp hab) (List.not_lt.mp hnot)
  exact absurd (filenameCompare_eq_zero.mpr heq) (Int.ne_of_gt h)

/-- The binary search finds an entry that agrees up to case if there is one. -/
def Locator.ofIndex {entries : List ZipEntry} (index : SortedIndex entries) : Locator entries where
  locateFile := index.binarySearch
  sound h := by
    obtain ⟨hmem, hzero⟩ := BinarySearch.search_sound h
    exact ⟨index.perm.mem_iff.mp hmem, filenameCompare_eq_zero.mp hzero⟩
  complete h := by
    obtain ⟨e, he, hsame⟩ := h
    exact BinarySearch.search_isSome (index.cut _)
      ⟨e, index.perm.mem_iff.mpr he, filenameCompare_eq_zero.mpr hsame⟩

/-- The other branch of `mz_zip_reader_locate_file_v2`: a scan of the directory. -/
def Locator.ofScan (entries : List ZipEntry) : Locator entries where
  locateFile name := entries.find? fun e => decide (SameName e.filename name)
  sound h := ⟨List.mem_of_find?_eq_some h, by simpa using List.find?_some h⟩
  complete h := by
    obtain ⟨e, he, hsame⟩ := h
    exact List.find?_isSome.mpr ⟨e, he, decide_eq_true hsame⟩

theorem Locator.exists_locating {entries : List ZipEntry} {e : ZipEntry} (he : e ∈ entries)
    {name : String} (h : SameName e.filename name) :
    ∃ L : Locator entries, L.locateFile name = some e := by
  let scan := Locator.ofScan entries
  refine ⟨⟨fun n => if n = name then some e else scan.locateFile n, ?_, ?_⟩, by simp⟩
  · intro n f hf
    by_cases hn : n = name
    · rw [if_pos hn, Option.some.injEq] at hf
      exact hf ▸ hn ▸ ⟨he, h⟩
    · rw [if_neg hn] at hf
      exact scan.sound hf
  · intro n hex
    by_cases hn : n = name
    · rw [if_pos hn]
      rfl
    · rw [if_neg hn]
      exact scan.complete hex

/-- An archive that miniz has opened. -/
structure Archive where
  entries : List ZipEntry
  locator : Locator entries

/-- The bytes of a container: how many, and what `mz_zip_reader_init_mem` makes
of them. -/
structure Container where
  size : Nat
  archive : Option Archive

end Tamga.Zip
