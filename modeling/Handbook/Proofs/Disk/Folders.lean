import Handbook.Proofs.Disk.Landing
import Handbook.Proofs.Path.Joining

/-!
# What is seen from the folder of a document

The path of a document that can be read ends with a name, and the path of its folder leads to the
place where the document lies, in every spelling. A path that is joined to the folder is followed on
from there. So whether there is something at the joined path depends on the place of the document,
and not on how the document is spelled, as long as no spelling is too long for the system.
-/
namespace Handbook

namespace Disk

variable {disk : Disk} {location landed folder : Location}

/-- Pieces that lead to a file end with the name of the file, and the others lead to its folder. -/
theorem exists_name_of_walk {pieces : List String} {bytes : ByteArray} (nonempty : pieces ≠ [])
    (walked : disk.walk location pieces = .ok landed)
    (file : disk.entry landed = some (.file bytes)) :
    ∃ before name folder, pieces = before ++ [name] ∧ isFooting name = false ∧
      disk.walk location before = .ok folder ∧ disk.entry folder = some .folder ∧
        landed = name :: folder := by
  obtain ⟨before, name, rfl⟩ := (List.eq_nil_or_concat pieces).resolve_left nonempty
  rw [List.concat_eq_append] at walked ⊢
  obtain ⟨folder, early, last⟩ := (walk_append_eq_ok_iff _ _ _ _ _).1 walked
  obtain ⟨next, gone, done⟩ := (walk_cons_eq_ok_iff _ _ _ _ _).1 last
  obtain rfl := Except.ok.inj done
  have named : isFooting name = false := by
    cases kind : isFooting name with
    | false => rfl
    | true =>
      have inFolder := entry_of_footing_step kind gone
      simp [file] at inFolder
  obtain ⟨inFolder, leads, -⟩ := (step_eq_ok_iff _ _ _ _).1 gone
  rw [ofPiece?_of_not_isFooting named] at leads
  exact ⟨before, name, folder, rfl, named, early, inFolder, leads.symm⟩

/-- Idle pieces at the end lead nowhere else. -/
theorem walk_of_idle {pieces idle : List String} (all : ∀ piece ∈ idle, Path.isIdle piece = true)
    (walked : disk.walk location (pieces ++ idle) = .ok landed) :
    disk.walk location pieces = .ok landed := by
  obtain ⟨next, early, late⟩ := (walk_append_eq_ok_iff _ _ _ _ _).1 walked
  have stays := eq_land_of_walk late
  rw [Path.filterMap_ofPiece?_idle all] at stays
  rw [early, stays]
  rfl

/-- Pieces lead to the same place without the idle ones at their end. -/
theorem walk_trimIdle {pieces : List String} (walked : disk.walk location pieces = .ok landed) :
    disk.walk location (Path.trimIdle pieces) = .ok landed := by
  obtain ⟨idle, whole, all⟩ := Path.exists_trimIdle pieces
  rw [whole] at walked
  exact walk_of_idle all walked

/-- The empty piece stays in a folder. -/
theorem walk_empty (inFolder : disk.entry location = some .folder) :
    disk.walk location [""] = .ok location := by
  have stays : disk.step location "" = .ok location := by
    refine (step_eq_ok_iff _ _ _ _).2 ⟨inFolder, rfl, fun named => ?_⟩
    simp [isFooting, Path.isIdle] at named
  exact (walk_cons_eq_ok_iff _ _ _ _ _).2 ⟨location, stays, rfl⟩

end Disk

namespace Workspace

variable {workspace : Workspace} {folder : Location}

/-- A path is accepted when it is not empty, has no NUL and is not longer than a limit allows. -/
theorem acceptSpelling_iff (workspace : Workspace) (path : Path) :
    workspace.acceptSpelling path = .ok () ↔ Char.ofNat 0 ∉ path.spelling.toList ∧
      path.spelling ≠ "" ∧ ∀ most ∈ workspace.pathLimit, path.spelling.utf8ByteSize ≤ most := by
  unfold acceptSpelling
  by_cases nul : Char.ofNat 0 ∈ path.spelling.toList
  · simp [nul]
  · by_cases empty : path.spelling = ""
    · simp [empty]
    · cases limit : workspace.pathLimit with
      | none => simp [nul, empty]
      | some most => simp [nul, empty]

/-- Without a limit on its length, a path is accepted when it is not empty and has no NUL. -/
theorem acceptSpelling_eq_ok_iff (unlimited : workspace.pathLimit = none) (path : Path) :
    workspace.acceptSpelling path = .ok () ↔
      Char.ofNat 0 ∉ path.spelling.toList ∧ path.spelling ≠ "" := by
  rw [acceptSpelling_iff, unlimited]
  simp

/-- The pieces of a path from the root are followed from there. -/
theorem route_of_isAbsolute {path : Path} (absolute : path.isAbsolute = true) :
    workspace.route path = ([], path.pieces.tail) :=
  if_pos absolute

/-- The pieces of any other path are followed from the working folder. -/
theorem route_of_not_isAbsolute {path : Path} (relative : path.isAbsolute = false) :
    workspace.route path = (workspace.current, path.pieces) :=
  if_neg (by simp [relative])

/-- The path of the folder leads to where the pieces before the last name do. -/
theorem walk_route_folder {path : Path} {before : List String} {name : String}
    (cut : (workspace.route path).2 = before ++ [name]) (named : Disk.isFooting name = false)
    (walked : workspace.disk.walk (workspace.route path).1 before = .ok folder)
    (inFolder : workspace.disk.entry folder = some .folder) :
    workspace.disk.walk (workspace.route path.folder).1 (workspace.route path.folder).2 =
      .ok folder := by
  have busy : Path.isIdle name = false := (Bool.or_eq_false_iff.1 named).1
  have none : ∀ piece ∈ ([] : List String), Path.isIdle piece = true := by simp
  cases start : path.isAbsolute with
  | true =>
    rw [route_of_isAbsolute start] at cut walked
    obtain ⟨second, rest, whole⟩ := path.pieces_of_isAbsolute start
    have pieces : path.pieces = "" :: (before ++ [name]) := by
      rw [← cut, whole]
      rfl
    have folded := Path.pieces_folder pieces busy none
    have trimmed := Disk.walk_trimIdle walked
    by_cases root : Path.trimIdle before = []
    · -- The document lies in the root, which is spelled with a separator of its own.
      rw [if_pos ⟨rfl, root⟩] at folded
      have absolute := (Path.isAbsolute_iff folded).2 ⟨rfl, by simp⟩
      rw [root] at trimmed
      rw [route_of_isAbsolute absolute, folded, ← Except.ok.inj trimmed]
      exact Disk.walk_empty workspace.disk.root_folder
    · rw [if_neg fun both => root both.2] at folded
      have absolute := (Path.isAbsolute_iff folded).2 ⟨rfl, root⟩
      rw [route_of_isAbsolute absolute, folded]
      exact trimmed
  | false =>
    rw [route_of_not_isAbsolute start] at cut walked
    cases before with
    | nil =>
      rw [Path.folder_of_idle cut none]
      rw [← Except.ok.inj walked] at inFolder ⊢
      exact Disk.walk_empty inFolder
    | cons first middle =>
      have filled : first ≠ "" := by
        intro empty
        have absolute := (Path.isAbsolute_iff cut).2 ⟨empty, by simp⟩
        simp [start] at absolute
      have folded := Path.pieces_folder cut busy none
      rw [if_neg fun both => filled both.1] at folded
      have relative : path.folder.isAbsolute = false :=
        Bool.eq_false_iff.2 fun absolute => filled ((Path.isAbsolute_iff folded).1 absolute).1
      rw [route_of_not_isAbsolute relative, folded]
      obtain ⟨next, gone, later⟩ := (Disk.walk_cons_eq_ok_iff _ _ _ _ _).1 walked
      exact (Disk.walk_cons_eq_ok_iff _ _ _ _ _).2 ⟨next, gone, Disk.walk_trimIdle later⟩

/-- What is followed on a relative path that is joined to a base comes behind what is followed on
the base, up to an empty piece at the end of the base. -/
theorem route_join {base path : Path} (filled : base.spelling ≠ "")
    (relative : path.isAbsolute = false) :
    ∃ front, ((workspace.route base).2 = front ∨ (workspace.route base).2 = front ++ [""]) ∧
      workspace.route (base.join path) = ((workspace.route base).1, front ++ path.pieces) := by
  obtain ⟨first, rest, ends, joined⟩ := Path.pieces_join filled relative
  have starts := Path.isAbsolute_join filled relative
  cases start : base.isAbsolute with
  | true =>
    rw [start] at starts
    rw [route_of_isAbsolute start, route_of_isAbsolute starts, joined]
    refine ⟨rest, ?_, rfl⟩
    rcases ends with ⟨cut, -⟩ | cut
    · exact .inl (by rw [cut]; rfl)
    · exact .inr (by rw [cut]; rfl)
  | false =>
    rw [start] at starts
    rw [route_of_not_isAbsolute start, route_of_not_isAbsolute starts, joined]
    refine ⟨first :: rest, ?_, rfl⟩
    rcases ends with ⟨cut, -⟩ | cut
    · exact .inl cut
    · exact .inr cut

/-- A relative path that is joined to a path is followed from where that path leads. -/
theorem walk_route_join {base path : Path} (relative : path.isAbsolute = false)
    (walked : workspace.disk.walk (workspace.route base).1 (workspace.route base).2 = .ok folder) :
    workspace.disk.walk (workspace.route (base.join path)).1 (workspace.route (base.join path)).2 =
      workspace.disk.walk folder path.pieces := by
  by_cases empty : base.spelling = ""
  · obtain ⟨spelling⟩ := base
    obtain rfl : spelling = "" := empty
    have stays : workspace.current = folder := by
      rw [Disk.eq_land_of_walk walked]
      rfl
    rw [Path.join_empty relative, route_of_not_isAbsolute relative, stays]
  · obtain ⟨front, ends, joined⟩ := workspace.route_join empty relative
    have reached : workspace.disk.walk (workspace.route base).1 front = .ok folder := by
      rcases ends with cut | cut
      · rw [← cut]
        exact walked
      · rw [cut] at walked
        exact Disk.walk_of_idle (by simp [Path.isIdle]) walked
    rw [joined, Disk.walk_append, reached]
    rfl

/-- The path of a readable document ends with a name, and the pieces before it lead to the folder in
which the document lies. -/
theorem exists_name_of_read {document : Path} {text : String}
    (read : workspace.read document = .ok text) :
    ∃ before name folder, (workspace.route document).2 = before ++ [name] ∧
      Disk.isFooting name = false ∧
      workspace.disk.walk (workspace.route document).1 before = .ok folder ∧
      workspace.disk.entry folder = some .folder ∧
      Component.land workspace.current document.components = name :: folder := by
  obtain ⟨location, bytes, found, file, -⟩ := (workspace.read_eq_ok_iff document text).1 read
  obtain ⟨-, walked⟩ := (workspace.locate_eq_ok_iff document location).1 found
  rw [← eq_land_of_locate found]
  exact Disk.exists_name_of_walk (workspace.route_ne_nil document) walked file

/-- The last component of a readable document is a name. -/
theorem components_of_read {document : Path} {text : String}
    (read : workspace.read document = .ok text) :
    ∃ before name, document.components = before ++ [.name name] := by
  obtain ⟨before, name, folder, cut, named, -⟩ := exists_name_of_read read
  obtain ⟨head, whole, -⟩ := workspace.components_eq_route document
  have last : [name].filterMap Component.ofPiece? = [.name name] := by
    rw [List.filterMap_cons_some (Disk.ofPiece?_of_not_isFooting named)]
    rfl
  refine ⟨head ++ before.filterMap Component.ofPiece?, name, ?_⟩
  rw [whole, cut, List.filterMap_append, last, List.append_assoc]

/-- The path of the folder of a readable document leads to the folder in which the document lies. -/
theorem walk_folder_of_read {document : Path} {text : String}
    (read : workspace.read document = .ok text) :
    workspace.disk.walk (workspace.route document.folder).1 (workspace.route document.folder).2 =
      .ok (Component.land workspace.current document.components).tail := by
  obtain ⟨before, name, folder, cut, named, walked, inFolder, landed⟩ := exists_name_of_read read
  rw [landed]
  exact walk_route_folder cut named walked inFolder

/-- A relative path that is joined to the folder of a readable document is located where it leads
from the place of the document. -/
theorem locate_folder_join_iff (unlimited : workspace.pathLimit = none) {document path : Path}
    {text : String} (read : workspace.read document = .ok text)
    (relative : path.isAbsolute = false) (filled : path.spelling ≠ "") (location : Location) :
    workspace.locate (document.folder.join path) = .ok location ↔
      Char.ofNat 0 ∉ path.spelling.toList ∧
        workspace.disk.walk (Component.land workspace.current document.components).tail
          path.pieces = .ok location := by
  have joined := walk_route_join relative (walk_folder_of_read read)
  -- The document was accepted, so its folder brings no NUL into the joined path.
  have nul : Char.ofNat 0 ≠ '/' := by decide
  have clean : Char.ofNat 0 ∉ document.folder.spelling.toList := by
    obtain ⟨place, bytes, found, -⟩ := (workspace.read_eq_ok_iff document text).1 read
    have accepted := ((workspace.locate_eq_ok_iff document place).1 found).1
    have free := ((acceptSpelling_eq_ok_iff unlimited document).1 accepted).1
    exact fun member => free (Path.mem_of_mem_folder nul member)
  rw [locate_eq_ok_iff, joined, acceptSpelling_eq_ok_iff unlimited,
    Path.mem_join_iff nul relative]
  simp [clean, Path.join_filled document.folder filled]

/-- Two readable spellings of a document give one text. -/
theorem read_unique {left right : Path} (same : left.normalize = right.normalize)
    {text other : String} (leftRead : workspace.read left = .ok text)
    (rightRead : workspace.read right = .ok other) : text = other := by
  obtain ⟨place, bytes, found, file, decoded⟩ := (workspace.read_eq_ok_iff left text).1 leftRead
  obtain ⟨there, again, located, stored, spelled⟩ :=
    (workspace.read_eq_ok_iff right other).1 rightRead
  have one : place = there := by
    rw [eq_land_of_locate found, eq_land_of_locate located, land_eq_of_normalize_eq workspace same]
  rw [one, stored] at file
  obtain rfl : again = bytes := by simpa using file
  rw [spelled] at decoded
  exact (Option.some.inj decoded).symm

/-- What a link of a document points to is present for two readable spellings of the document
alike. -/
theorem present_folder_join_congr (unlimited : workspace.pathLimit = none) {left right : Path}
    (same : left.normalize = right.normalize) {text other : String}
    (leftRead : workspace.read left = .ok text) (rightRead : workspace.read right = .ok other)
    {path : Path} (filled : path.spelling ≠ "") :
    workspace.present (left.folder.join path) = workspace.present (right.folder.join path) := by
  cases start : path.isAbsolute with
  | true => simp [Path.join, start]
  | false =>
    rw [Bool.eq_iff_iff, present_iff, present_iff]
    simp only [locate_folder_join_iff unlimited leftRead start filled,
      locate_folder_join_iff unlimited rightRead start filled,
      land_eq_of_normalize_eq workspace same]

/-- What a link of a document points to has one normal form for two readable spellings of the
document. -/
theorem normalize_folder_join_congr {left right : Path} (same : left.normalize = right.normalize)
    {text other : String} (leftRead : workspace.read left = .ok text)
    (rightRead : workspace.read right = .ok other) (path : Path) :
    (left.folder.join path).normalize = (right.folder.join path).normalize := by
  obtain ⟨before, name, leftEnds⟩ := components_of_read leftRead
  obtain ⟨behind, another, rightEnds⟩ := components_of_read rightRead
  exact Path.normalize_join_congr (Path.normalize_folder_congr leftEnds rightEnds same) path

end Workspace

end Handbook
