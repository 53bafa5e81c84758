import Handbook.Disk.Basic
import Handbook.Disk.Files

/-!
# Working in a file tree

A workspace is a disk seen from a working folder. A path is followed piece by piece from the root or
from the working folder: every piece needs a folder to stand in, also a dot and the empty piece
after a trailing separator, and a step up from the root stays at the root. Reading follows the whole
path. Writing follows it up to its last name, which need not exist yet and must not be a folder's.
-/
namespace Handbook

/-- A disk, the folder from which relative paths start, and the longest path that is followed. -/
structure Workspace where
  /-- The file tree. -/
  disk : Disk
  /-- The working folder. -/
  current : Location
  /-- The most bytes a path may have, if there is a limit. -/
  pathLimit : Option Nat := some 4095

/-- The most bytes a name may have. -/
def nameLimit : Nat := 255

namespace Disk

/-- Require a folder at a location. -/
def requireFolder (disk : Disk) (location : Location) : Except FileError Unit :=
  match disk.entry location with
  | some .folder => .ok ()
  | some (.file _) => .error .notFolder
  | none => .error .notFound

/-- Follow one piece of a path from a folder. -/
def step (disk : Disk) (location : Location) (piece : String) : Except FileError Location := do
  disk.requireFolder location
  if Path.isIdle piece then .ok location
  else if piece = ".." then .ok location.tail
  else if nameLimit < piece.utf8ByteSize then .error .nameTooLong
  else if (disk.entry (piece :: location)).isSome then .ok (piece :: location)
  else .error .notFound

/-- Follow the pieces of a path in order. -/
def walk (disk : Disk) : Location → List String → Except FileError Location
  | location, [] => .ok location
  | location, piece :: rest => do disk.walk (← disk.step location piece) rest

/-- Follow the pieces of a path, making the folders that are missing. -/
def makeFolders (disk : Disk) (location : Location) :
    List String → Except FileError (Disk × Location)
  | [] => .ok (disk, location)
  | piece :: rest =>
    match inFolder : disk.entry location with
    | some .folder =>
      if Path.isIdle piece then disk.makeFolders location rest
      else if piece = ".." then disk.makeFolders location.tail rest
      else if (disk.entry (piece :: location)).isSome then
        disk.makeFolders (piece :: location) rest
      else (disk.addFolder piece location inFolder).makeFolders (piece :: location) rest
    | some (.file _) => .error .notFolder
    | none => .error .notFound

end Disk

namespace Workspace

/-- The location at which a path starts and the pieces to follow from there. -/
def route (workspace : Workspace) (path : Path) : Location × List String :=
  if path.isAbsolute then ([], path.pieces.tail) else (workspace.current, path.pieces)

/-- Refuse a spelling that is not followed at all. -/
def acceptSpelling (workspace : Workspace) (path : Path) : Except FileError Unit :=
  if path.spelling.toList.contains (Char.ofNat 0) then .error .nulByte
  else if path.spelling = "" then .error .notFound
  else if workspace.pathLimit.any (· < path.spelling.utf8ByteSize) then .error .nameTooLong
  else .ok ()

/-- The location that a path leads to. -/
def locate (workspace : Workspace) (path : Path) : Except FileError Location := do
  workspace.acceptSpelling path
  let (start, pieces) := workspace.route path
  workspace.disk.walk start pieces

/-- The text of the file at a path. -/
def read (workspace : Workspace) (path : Path) : Except FileError String := do
  let location ← workspace.locate path
  match workspace.disk.entry location with
  | some (.file bytes) =>
    match String.fromUTF8? bytes with
    | some text => .ok text
    | none => .error .notText
  | some .folder => .error .isFolder
  | none => .error .notFound

/-- Whether there is a file or a folder at a path. -/
def present (workspace : Workspace) (path : Path) : Bool :=
  match workspace.locate path with
  | .ok _ => true
  | .error _ => false

/-- What a check sees of the workspace. -/
def files (workspace : Workspace) : Files where
  read := workspace.read
  present := workspace.present

/-- The pieces of a path up to its last one that is not empty, the last one first. -/
def innermost (pieces : List String) : List String := pieces.reverse.dropWhile (·.isEmpty)

/-- The place at which a path lets a file be written. -/
def slot (workspace : Workspace) (path : Path) : Except FileError workspace.disk.Slot := do
  workspace.acceptSpelling path
  let (start, pieces) := workspace.route path
  match innermost pieces with
  | [] => .error .isFolder
  | last :: outer =>
    let folder ← workspace.disk.walk start outer.reverse
    workspace.disk.requireFolder folder
    if (last :: outer).length < pieces.length ∨ last = "." ∨ last = ".." then .error .isFolder
    else if nameLimit < last.utf8ByteSize then .error .nameTooLong
    else
      match inFolder : workspace.disk.entry folder,
          free : workspace.disk.entry (last :: folder) with
      | some .folder, none => .ok ⟨last, folder, inFolder, by simp [free]⟩
      | some .folder, some (.file _) => .ok ⟨last, folder, inFolder, by simp [free]⟩
      | some .folder, some .folder => .error .isFolder
      | some (.file _), _ => .error .notFolder
      | none, _ => .error .notFound

/-- Write a text to the file at a path, replacing what the file held. -/
def write (workspace : Workspace) (path : Path) (text : String) : Except FileError Workspace := do
  let slot ← workspace.slot path
  .ok { workspace with disk := workspace.disk.store slot text.toUTF8 }

/-- Make a folder at a path, and the folders on the way to it. -/
def makeFolder (workspace : Workspace) (path : Path) :
    Except FileError (Workspace × Location) := do
  let (start, pieces) := workspace.route path
  let (disk, location) ← workspace.disk.makeFolders start pieces
  .ok ({ workspace with disk }, location)

/-- Write a file at a path, making the folders on the way to it. -/
def plant (workspace : Workspace) (path : Path) (bytes : ByteArray) :
    Except FileError Workspace := do
  let (start, pieces) := workspace.route path
  let (disk, _) ← workspace.disk.makeFolders start pieces.dropLast
  let grown := { workspace with disk }
  let slot ← grown.slot path
  .ok { grown with disk := disk.store slot bytes }

/-- Take away the file or the folder at a path, with everything in it. -/
def remove (workspace : Workspace) (path : Path) : Except FileError Workspace := do
  match ← workspace.locate path with
  | [] => .error (.other "Device or resource busy (os error 16)")
  | name :: folder => .ok { workspace with disk := workspace.disk.remove name folder }

end Workspace

end Handbook
