import Handbook.Proofs.Disk.Folders

/-!
# What writing a file changes

A path can be written when its pieces up to the last one lead to a folder and the last one is a name
that no folder there has. Writing gives the file its new content and changes nothing else: whatever
leads to a folder leads to it as before, for no folder appears or goes, and the path itself leads to
the file. `Workspace.Rewritten` says this without saying how it is done, and `write_eq_ok_iff` that
writing does it, in every case in which it can be done.
-/
namespace Handbook

namespace Disk

variable {disk other : Disk}

/-- Disks with the same entries are the same. -/
theorem eq_of_entry_eq (same : ∀ location, disk.entry location = other.entry location) :
    disk = other := by
  cases disk
  cases other
  congr
  exact funext same

/-- Two disks have folders at the same locations. -/
def SameFolders (disk other : Disk) : Prop :=
  ∀ location, disk.entry location = some .folder ↔ other.entry location = some .folder

/-- What leads to a folder starts in one. -/
theorem folder_of_walk {location landed : Location} {pieces : List String}
    (walked : disk.walk location pieces = .ok landed)
    (inFolder : disk.entry landed = some .folder) : disk.entry location = some .folder := by
  cases pieces with
  | nil => rwa [Except.ok.inj walked]
  | cons piece rest =>
    obtain ⟨next, gone, -⟩ := (walk_cons_eq_ok_iff _ _ _ _ _).1 walked
    exact ((step_eq_ok_iff _ _ _ _).1 gone).1

/-- What leads to a folder leads to it on every disk with the same folders. -/
theorem SameFolders.walk (same : disk.SameFolders other) {location landed : Location}
    {pieces : List String} (walked : disk.walk location pieces = .ok landed)
    (inFolder : disk.entry landed = some .folder) : other.walk location pieces = .ok landed := by
  -- What leads on to a folder passes through folders only, and these are on the other disk too.
  induction pieces generalizing location with
  | nil => exact walked
  | cons piece rest step =>
    obtain ⟨next, gone, later⟩ := (walk_cons_eq_ok_iff _ _ _ _ _).1 walked
    have between : disk.entry next = some .folder := folder_of_walk later inFolder
    obtain ⟨start, leads, named⟩ := (step_eq_ok_iff _ _ _ _).1 gone
    have again : other.step location piece = .ok next := by
      refine (step_eq_ok_iff _ _ _ _).2 ⟨(same location).1 start, leads, fun plain => ?_⟩
      rw [ofPiece?_of_not_isFooting plain] at leads
      have there : other.entry (piece :: location) = some .folder := by
        rw [show piece :: location = next from leads]
        exact (same next).1 between
      exact ⟨(named plain).1, by simp [there]⟩
    exact (walk_cons_eq_ok_iff _ _ _ _ _).2 ⟨next, again, step later⟩

/-- Storing a file makes and removes no folder. -/
theorem sameFolders_store (slot : disk.Slot) (bytes : ByteArray) :
    disk.SameFolders (disk.store slot bytes) := by
  intro location
  by_cases self : location = slot.location
  · simp [store, self, Slot.location, slot.free]
  · simp [store, self]

end Disk

namespace Workspace

variable {before after : Workspace} {path : Path} {text : String}

/-- Pieces that go on after none of their last ones left out end with a piece that is not empty. -/
theorem innermost_eq_cons_iff (pieces outer : List String) (last : String) :
    innermost pieces = last :: outer.reverse ∧ ¬(last :: outer.reverse).length < pieces.length ↔
      pieces = outer ++ [last] ∧ last ≠ "" := by
  unfold innermost
  constructor
  · rintro ⟨found, full⟩
    have whole : pieces.reverse.dropWhile (·.isEmpty) = pieces.reverse :=
      (List.dropWhile_suffix _).eq_of_length_le (by
        rw [found, List.length_reverse]
        exact Nat.not_lt.1 full)
    rw [whole] at found
    have start := List.head?_dropWhile_not (·.isEmpty) pieces.reverse
    rw [whole, found] at start
    refine ⟨?_, by simpa using start⟩
    rw [← List.reverse_reverse pieces, found]
    simp
  · rintro ⟨rfl, filled⟩
    simp [filled]

/-- A file can be written at a path that is accepted and that ends with a name in a folder. -/
theorem slot_eq_ok_iff (workspace : Workspace) (path : Path) (place : workspace.disk.Slot) :
    workspace.slot path = .ok place ↔
      workspace.acceptSpelling path = .ok () ∧
        ∃ outer, (workspace.route path).2 = outer ++ [place.name] ∧
          Disk.isFooting place.name = false ∧ place.name.utf8ByteSize ≤ nameLimit ∧
            workspace.disk.walk (workspace.route path).1 outer = .ok place.folder := by
  unfold slot
  cases workspace.acceptSpelling path with
  | error error => simp [bind, Except.bind]
  | ok accepted =>
    simp only [bind, Except.bind, true_and]
    constructor
    · intro found
      split at found
      · simp at found
      rename_i last inner cut
      split at found
      · simp at found
      rename_i folder walked
      split at found
      · simp at found
      split at found
      · simp at found
      rename_i proper
      split at found
      · simp at found
      rename_i short
      simp only [not_or] at proper
      obtain ⟨full, dot, up⟩ := proper
      rw [← List.reverse_reverse inner] at cut full
      obtain ⟨whole, filled⟩ := (innermost_eq_cons_iff _ _ _).1 ⟨cut, full⟩
      have plain : Disk.isFooting last = false := by
        simp [Disk.isFooting, Path.isIdle, filled, dot, up]
      have spelled : ∃ outer, (workspace.route path).2 = outer ++ [last] ∧
          Disk.isFooting last = false ∧ last.utf8ByteSize ≤ nameLimit ∧
            workspace.disk.walk (workspace.route path).1 outer = .ok folder :=
        ⟨inner.reverse, whole, plain, Nat.not_lt.1 short, walked⟩
      split at found
      · rw [← Except.ok.inj found]
        exact spelled
      · rw [← Except.ok.inj found]
        exact spelled
      · simp at found
      · simp at found
      · simp at found
    · rintro ⟨outer, whole, plain, short, walked⟩
      simp only [Disk.isFooting, Path.isIdle, Bool.or_eq_false_iff, beq_eq_false_iff_ne] at plain
      obtain ⟨⟨filled, dot⟩, up⟩ := plain
      obtain ⟨cut, full⟩ := (innermost_eq_cons_iff _ _ _).2 ⟨whole, filled⟩
      have proper : ¬((place.name :: outer.reverse).length < (workspace.route path).2.length ∨
          place.name = "." ∨ place.name = "..") := by
        simp only [not_or]
        exact ⟨full, dot, up⟩
      have inFolder := (Disk.requireFolder_eq_ok_iff _ _).2 place.inFolder
      simp only [cut, List.reverse_reverse, walked, inFolder, if_neg proper,
        if_neg (Nat.not_lt.2 short)]
      split
      · rfl
      · rfl
      · rename_i folder
        exact absurd folder place.free
      · rename_i file
        simp [place.inFolder] at file
      · rename_i missing
        simp [place.inFolder] at missing

/-- A workspace in which the file at a path holds a text while everything else is as it was before.
The file may have been there or not, but no folder gave way to it. -/
structure Rewritten (before : Workspace) (path : Path) (text : String) (after : Workspace) :
    Prop where
  /-- The path leads to a file with the text, and every other entry is as before. -/
  file : ∃ location, after.locate path = .ok location ∧
    after.disk.entry location = some (.file text.toUTF8) ∧
      before.disk.entry location ≠ some .folder ∧
        ∀ other, other ≠ location → after.disk.entry other = before.disk.entry other
  /-- The working folder is the same. -/
  current : after.current = before.current
  /-- The limit on paths is the same. -/
  pathLimit : after.pathLimit = before.pathLimit

/-- The rewritten file is read as the text. -/
theorem Rewritten.read (rewritten : before.Rewritten path text after) :
    after.read path = .ok text := by
  obtain ⟨location, found, file, -⟩ := rewritten.file
  have decoded : String.fromUTF8? text.toUTF8 = some text := dif_pos text.isValidUTF8
  exact (read_eq_ok_iff after path text).2 ⟨location, _, found, file, decoded⟩

/-- Writing stores the text in the place that the path lets a file be written at. -/
theorem write_eq_ok_iff_slot (before : Workspace) (path : Path) (text : String)
    (after : Workspace) : before.write path text = .ok after ↔
      ∃ place, before.slot path = .ok place ∧
        after = { before with disk := before.disk.store place text.toUTF8 } := by
  unfold write
  cases before.slot path with
  | error error => simp [bind, Except.bind]
  | ok place => simp [bind, Except.bind, eq_comm]

/-- Storing a text in the place of a path rewrites the file at the path. -/
theorem rewritten_store {place : before.disk.Slot} (found : before.slot path = .ok place)
    (text : String) : before.Rewritten path text
      { before with disk := before.disk.store place text.toUTF8 } := by
  obtain ⟨accepted, outer, whole, plain, short, walked⟩ := (slot_eq_ok_iff _ _ _).1 found
  have folders := Disk.sameFolders_store place text.toUTF8
  have stored : (before.disk.store place text.toUTF8).entry place.location =
      some (.file text.toUTF8) := if_pos rfl
  have last : (before.disk.store place text.toUTF8).step place.folder place.name =
      .ok place.location := by
    refine (Disk.step_eq_ok_iff _ _ _ _).2 ⟨(folders _).1 place.inFolder, ?_, fun _ => ⟨short, ?_⟩⟩
    · rw [Disk.ofPiece?_of_not_isFooting plain]
      rfl
    · rw [show place.name :: place.folder = place.location from rfl, stored]
      simp
  refine ⟨⟨place.location, ?_, stored, place.free, fun other apart => if_neg apart⟩, rfl, rfl⟩
  refine (locate_eq_ok_iff _ _ _).2 ⟨accepted, ?_⟩
  show (before.disk.store place text.toUTF8).walk (before.route path).1 (before.route path).2 = _
  rw [whole, Disk.walk_append_eq_ok_iff]
  refine ⟨place.folder, folders.walk walked place.inFolder, ?_⟩
  exact (Disk.walk_cons_eq_ok_iff _ _ _ _ _).2 ⟨place.location, last, rfl⟩

/-- Where a file could be rewritten there is a place for it, and it is rewritten by storing the text
there. -/
theorem Rewritten.exists_slot (rewritten : before.Rewritten path text after) :
    ∃ place, before.slot path = .ok place ∧
      after = { before with disk := before.disk.store place text.toUTF8 } := by
  obtain ⟨disk, current, pathLimit⟩ := after
  obtain ⟨⟨location, found, file, free, kept⟩, sameCurrent, sameLimit⟩ := rewritten
  simp only at file kept sameCurrent sameLimit
  subst sameCurrent sameLimit
  -- The file is no folder and has taken the place of none, so the way to it was there before.
  have folders : disk.SameFolders before.disk := by
    intro other
    by_cases self : other = location
    · simp [self, file, free]
    · rw [kept other self]
  obtain ⟨accepted, walked⟩ := (locate_eq_ok_iff _ _ _).1 found
  obtain ⟨outer, name, folder, whole, plain, early, inFolder, rfl⟩ :=
    Disk.exists_name_of_walk (route_ne_nil _ path) walked file
  have short : name.utf8ByteSize ≤ nameLimit := Disk.short_of_walk walked (by simp [whole]) plain
  have walkedBefore := folders.walk early inFolder
  have place : ∃ place : before.disk.Slot, place.name = name ∧ place.folder = folder :=
    ⟨⟨name, folder, (folders folder).1 inFolder, free⟩, rfl, rfl⟩
  obtain ⟨place, rfl, rfl⟩ := place
  refine ⟨place, (slot_eq_ok_iff _ _ _).2 ⟨accepted, outer, whole, plain, short, walkedBefore⟩, ?_⟩
  have same : disk = before.disk.store place text.toUTF8 := by
    apply Disk.eq_of_entry_eq
    intro other
    by_cases self : other = place.location
    · rw [self]
      exact file.trans (if_pos rfl).symm
    · exact (kept other self).trans (if_neg self).symm
  rw [same]

/-- Writing a text to the file at a path rewrites the file and changes nothing else, and it succeeds
wherever the file could be rewritten at all. -/
theorem write_eq_ok_iff (before : Workspace) (path : Path) (text : String) (after : Workspace) :
    before.write path text = .ok after ↔ before.Rewritten path text after := by
  rw [write_eq_ok_iff_slot]
  constructor
  · rintro ⟨place, found, rfl⟩
    exact rewritten_store found text
  · exact Rewritten.exists_slot

end Workspace

end Handbook
