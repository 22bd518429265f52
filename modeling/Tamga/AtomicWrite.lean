/-
Replacing one file (`FileSystem.cpp`, `WriteBytesAtomic`).

The bytes go to a temporary file beside the target, which is then renamed to the target.  Every
step may succeed or fail, whatever the others do.  A rename is one step: a failed one leaves both
files as they are.

* `writeBytesAtomic_replaces` — the target afterwards, and when a temporary file stays behind.
-/
import Tamga.Basic
import Tamga.StagedReplace

namespace Tamga.FileSystem

open StagedReplace

inductive AtomicWriteStatus where
  | ok
  | targetUnusable
  | writeFailed
  deriving DecidableEq, Repr

structure AtomicWriteResult where
  status : AtomicWriteStatus := .ok
  message : String := ""

/-- How the steps of a call end; the errors that are reported come with their message. -/
structure WriteSteps where
  createDirectories : Except String Unit
  opens : Bool
  writes : Bool
  closes : Bool
  /-- What is in the temporary file if it is not written to its end. -/
  reached : Bytes
  rename : Except String Unit
  removes : Bool

variable (os : WriteSteps) (data : Bytes) (p : Place Bytes)

/-- `remove` of the temporary file, whose result is not looked at. -/
def WriteSteps.cleanUp : Place Bytes := if os.removes then p.dropTemp else p

/-- `WriteBytesAtomic` once the directory is there. -/
def replaceFile : AtomicWriteResult × Place Bytes :=
  if !os.opens then (⟨.targetUnusable, "unable to create temporary output file"⟩, p)
  else if !os.writes || !os.closes then
    (⟨.writeFailed, "failed writing temporary output file"⟩, os.cleanUp (p.stage os.reached))
  else
    match os.rename with
    | .error error =>
      (⟨.writeFailed, "failed to replace output file: " ++ error⟩, os.cleanUp (p.stage data))
    | .ok () => ({}, (p.stage data).toFinal)

/-- `WriteBytesAtomic` for a target that holds `old`: the result, and the places of the target and
of the temporary file afterwards.  Where the pointer to the data is null nothing is written. -/
def writeBytesAtomic (parentPath : String → String) (finalPath : String) (data old : Option Bytes) :
    AtomicWriteResult × Place Bytes :=
  let p : Place Bytes := ⟨old, none, none⟩
  if finalPath = "" then (⟨.targetUnusable, "output path is empty"⟩, p)
  else
    match if parentPath finalPath = "" then .ok () else os.createDirectories with
    | .error error => (⟨.targetUnusable, "unable to create output directory: " ++ error⟩, p)
    | .ok () => replaceFile os (data.getD []) p

/-- The file is replaced or left alone, and a temporary file stays only if it cannot be
removed. -/
def Replaces (r : AtomicWriteResult × Place Bytes) : Prop :=
  (r.1.status = .ok ∧ r.2.final = some data ∨ r.1.status ≠ .ok ∧ r.2.final = p.final) ∧
    (r.2.temp ≠ none ↔ r.1.status = .writeFailed ∧ os.removes = false)

theorem replaces_cleanUp (message : String) (new : Bytes) :
    Replaces os data p (⟨.writeFailed, message⟩, os.cleanUp (p.stage new)) := by
  cases hremoves : os.removes <;>
    simp [Replaces, WriteSteps.cleanUp, hremoves, Place.stage, Place.dropTemp]

theorem replaces_unusable (hnone : p.temp = none) (message : String) :
    Replaces os data p (⟨.targetUnusable, message⟩, p) := by
  simp [Replaces, hnone]

theorem replaceFile_replaces (hnone : p.temp = none) : Replaces os data p (replaceFile os data p) := by
  unfold replaceFile
  split
  · exact replaces_unusable os data p hnone _
  · split
    · exact replaces_cleanUp os data p _ _
    · split
      · exact replaces_cleanUp os data p _ _
      · simp [Replaces, Place.stage, Place.toFinal]

/-- **A file is replaced as a whole.**  However the steps end, the target holds all of the new
content if the call succeeds and what it held before if it does not.  The temporary file stays
exactly if writing it or renaming it fails and removing it fails as well. -/
theorem writeBytesAtomic_replaces (parentPath : String → String) (finalPath : String)
    (data old : Option Bytes) :
    Replaces os (data.getD []) ⟨old, none, none⟩
      (writeBytesAtomic os parentPath finalPath data old) := by
  unfold writeBytesAtomic
  split
  · exact replaces_unusable _ _ _ rfl _
  · split
    · exact replaces_unusable _ _ _ rfl _
    · exact replaceFile_replaces _ _ _ rfl

/-- The disk is full, and the temporary file cannot be removed. -/
theorem writeBytesAtomic_leaves_temp : ¬∀ os parentPath finalPath data old,
    (writeBytesAtomic os parentPath finalPath data old).2.temp = none := by
  intro h
  have htemp := h ⟨.ok (), true, false, true, [1], .ok (), false⟩ (fun _ => "") "a.p7s"
    (some [1, 2]) (some [3])
  exact absurd htemp (by decide)

end Tamga.FileSystem
