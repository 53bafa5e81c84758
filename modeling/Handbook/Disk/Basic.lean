/-!
# File trees

A disk tells for every location whether a folder, a file or nothing is there. The root is a folder,
and whatever exists lies in a folder; both laws are part of the type, so each change of a disk comes
with the reason why the result is a tree again. There are no links and no permissions, so a location
has one name.
-/
namespace Handbook

/-- What a disk holds at a location. -/
inductive Entry where
  /-- A folder. -/
  | folder
  /-- A file with its content. -/
  | file (bytes : ByteArray)

/-- The names on the way from the root to an entry, the innermost first. -/
abbrev Location := List String

/-- A tree of folders and files. -/
structure Disk where
  /-- The entry at a location, if there is one. -/
  entry : Location → Option Entry
  /-- The root is a folder. -/
  root_folder : entry [] = some .folder
  /-- Whatever exists below the root lies in a folder. -/
  parent_folder : ∀ name location, entry (name :: location) ≠ none → entry location = some .folder

namespace Disk

/-- The disk on which there is nothing but the root. -/
def empty : Disk where
  entry location := if location = [] then some .folder else none
  root_folder := rfl
  parent_folder name location present := by simp at present

/-- The place of a file that can be written: a name in a folder that is not the name of a folder. -/
structure Slot (disk : Disk) where
  /-- The name of the file. -/
  name : String
  /-- The folder of the file. -/
  folder : Location
  /-- The folder exists. -/
  inFolder : disk.entry folder = some .folder
  /-- No folder has the name. -/
  free : disk.entry (name :: folder) ≠ some .folder

/-- The location of the file. -/
def Slot.location {disk : Disk} (slot : disk.Slot) : Location := slot.name :: slot.folder

/-- Nothing lies below a location at which there is no folder. -/
theorem entry_eq_none {disk : Disk} {name : String} {location : Location}
    (noFolder : disk.entry location ≠ some .folder) : disk.entry (name :: location) = none := by
  cases found : disk.entry (name :: location) with
  | none => rfl
  | some _ => exact absurd (disk.parent_folder name location (by simp [found])) noFolder

/-- Give the file in a slot a new content, making the file when it is not there. -/
def store (disk : Disk) (slot : disk.Slot) (bytes : ByteArray) : Disk where
  entry location := if location = slot.location then some (.file bytes) else disk.entry location
  root_folder := by simp [Slot.location, disk.root_folder]
  parent_folder name location present := by
    by_cases self : location = slot.location
    · have missing : disk.entry (name :: location) = none := entry_eq_none (by
        rw [self]; exact slot.free)
      by_cases same : name :: location = slot.location
      · exact absurd (congrArg List.length (same.trans self.symm)) (by simp)
      · simp [same, missing] at present
    · by_cases same : name :: location = slot.location
      · obtain ⟨rfl, rfl⟩ := List.cons.inj same
        simp [self, slot.inFolder]
      · simp only [same, if_false] at present
        simp [self, disk.parent_folder name location present]

/-- Make a folder in a folder, where nothing is yet. -/
def addFolder (disk : Disk) (name : String) (folder : Location)
    (inFolder : disk.entry folder = some .folder) : Disk where
  entry location := if location = name :: folder then some .folder else disk.entry location
  root_folder := by simp [disk.root_folder]
  parent_folder other location present := by
    by_cases self : location = name :: folder
    · simp [self]
    · by_cases same : other :: location = name :: folder
      · obtain ⟨rfl, rfl⟩ := List.cons.inj same
        simp [inFolder]
      · simp only [same, if_false] at present
        simp [self, disk.parent_folder other location present]

/-- Take away the entry at a location other than the root, with everything below it. -/
def remove (disk : Disk) (name : String) (folder : Location) : Disk where
  entry location := if (name :: folder) <:+ location then none else disk.entry location
  root_folder := by simp [disk.root_folder]
  parent_folder other location present := by
    by_cases below : (name :: folder) <:+ other :: location
    · simp [below] at present
    · have apart : ¬(name :: folder) <:+ location := fun inside =>
        below (inside.trans (List.suffix_cons other location))
      simp only [below, if_false] at present
      simp [apart, disk.parent_folder other location present]

end Disk

end Handbook
