import DesignTokens.Proofs.Disk.Replacement
import DesignTokens.Run

/-! # Programs that work on a disk

A program that works on a disk ends with a value, a disk and the state of those it asked. The files
of a disk can be written in ways of their own; what matters of a way to write is that it replaces a
file as a whole or not at all, and so does the way by a new file and a renaming.

## Main definitions

* `World` - programs that work on a disk, with people to ask
* `World.ended` - what a program ends with
* `Disk.storageWith` - the files of a disk, with a way to write of its own
* `Disk.Replaces` - whether a way to write replaces a file as a whole or not at all

## Main results

* `Disk.replaces_storage` - the files of a disk are written in a way that replaces them
-/

namespace DesignTokens

/-- Programs that work on a disk, and on a state of those who confirm and write. -/
abbrev World (σ : Type) := StateT Disk (StateM σ)

namespace World

/-- What a program ends with. -/
structure Ended (σ α : Type) where
  value : α
  disk : Disk
  state : σ

variable {σ α β : Type} {disk : Disk} {s : σ}

/-- What a program ends with when it starts with a disk and a state. -/
def ended (program : World σ α) (disk : Disk) (s : σ) : Ended σ α :=
  match (program.run disk).run s with
  | ((value, disk), s) => ⟨value, disk, s⟩

@[simp]
theorem ended_pure (value : α) : (pure value : World σ α).ended disk s = ⟨value, disk, s⟩ := rfl

@[simp]
theorem ended_bind (program : World σ α) (next : α → World σ β) :
    (program >>= next).ended disk s =
      (next (program.ended disk s).value).ended (program.ended disk s).disk
        (program.ended disk s).state := rfl

/-- Somebody who confirms and does not touch the disk. -/
def asking (confirm : Path → Fix.Outcome → StateM σ Bool) (path : Path) (outcome : Fix.Outcome) :
    World σ Bool :=
  StateT.lift (confirm path outcome)

@[simp]
theorem disk_ended_asking (confirm : Path → Fix.Outcome → StateM σ Bool) (path : Path)
    (outcome : Fix.Outcome) : ((asking confirm path outcome).ended disk s).disk = disk := rfl

end World

namespace Disk

variable {σ : Type}

/-- The files of a disk, with a way to write of its own. -/
def storageWith (write : Path → Text → World σ (Except String Unit)) : Storage (World σ) :=
  { Disk.storage with write }

@[simp]
theorem write_storageWith (write : Path → Text → World σ (Except String Unit)) :
    (storageWith write).write = write := rfl

@[simp]
theorem ended_read (write : Path → Text → World σ (Except String Unit)) (path : Path) (disk : Disk)
    (s : σ) : ((storageWith write).read path).ended disk s = ⟨disk.read path, disk, s⟩ := rfl

@[simp]
theorem ended_rootOf (write : Path → Text → World σ (Except String Unit)) (path : Path)
    (disk : Disk) (s : σ) :
    ((storageWith write).rootOf path).ended disk s = ⟨disk.rootOf path, disk, s⟩ := rfl

@[simp]
theorem ended_isFolder (write : Path → Text → World σ (Except String Unit)) (path : Path)
    (disk : Disk) (s : σ) :
    ((storageWith write).isFolder path).ended disk s = ⟨disk.isFolder path, disk, s⟩ := rfl

/-- A way to write replaces the content of the file that a path leads to and nothing else, or it
fails and changes nothing. -/
def Replaces (write : Path → Text → World σ (Except String Unit)) : Prop :=
  ∀ (disk : Disk) (s : σ) (path : Path) (text : Text) (place : Place) (bytes : Bytes),
    disk.HasFile path place bytes →
      match ((write path text).ended disk s).value with
      | .ok () => disk.Becomes [(place, text.encode)] ((write path text).ended disk s).disk
      | .error _ => disk.Becomes [] ((write path text).ended disk s).disk

theorem ended_write (path : Path) (text : Text) (disk : Disk) (s : σ) :
    ((Disk.storage (m := World σ)).write path text).ended disk s =
      ⟨(disk.replace noRefusals path text.encode).result.mapError FileFault.message,
        (disk.replace noRefusals path text.encode).disk, s⟩ := by
  have hget : (getThe Disk : World σ Disk).ended disk s = ⟨disk, disk, s⟩ := rfl
  simp only [Disk.storage, World.ended_bind, hget]
  generalize disk.replace noRefusals path text.encode = attempt
  rfl

/-- The files of a disk are written in a way that replaces them. -/
theorem replaces_storage : Replaces (Disk.storage (m := World σ)).write := by
  intro disk s path text place bytes hfile
  have hreplace := becomes_replace hfile text.encode
  rw [ended_write]
  generalize disk.replace noRefusals path text.encode = attempt at hreplace ⊢
  cases hresult : attempt.result with
  | ok _ =>
    rw [hresult] at hreplace
    exact hreplace
  | error fault =>
    rw [hresult] at hreplace
    exact hreplace

end Disk

end DesignTokens
