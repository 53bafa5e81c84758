/-!
# Paths

A path is kept as it was spelled, since a message repeats it so and since the spelling decides
which folders are walked through. Between the separators stand its pieces; its components are the
pieces that mean something: the root, a leading dot, a step up, and names. Joining and taking the
folder of a path work on the spelling and leave the parts they keep as they were.
-/
namespace Handbook

/-- A path as it was spelled. -/
structure Path where
  /-- The text of the path. -/
  spelling : String
deriving DecidableEq, Inhabited

/-- What one part of a path stands for. -/
inductive Component where
  /-- The root of the file tree, which only the start of a path names. -/
  | root
  /-- A dot at the start of a relative path. -/
  | current
  /-- A step to the folder above. -/
  | parent
  /-- An entry of a folder. -/
  | name (text : String)
deriving DecidableEq, Inhabited

namespace Component

/-- The component as it is spelled. -/
def text : Component → String
  | root => "/"
  | current => "."
  | parent => ".."
  | name text => text

/-- What a piece after the first one of a path stands for, if anything. -/
def ofPiece? (piece : String) : Option Component :=
  if piece = "" ∨ piece = "." then none
  else if piece = ".." then some parent
  else some (name piece)

end Component

namespace Path

/-- Write pieces with a separator between neighbours. -/
def glue (pieces : List String) : String :=
  String.ofList (['/'].intercalate (pieces.map String.toList))

/-- The texts between the separators of a path; there is always a first one. -/
def pieces (path : Path) : List String :=
  (path.spelling.toList.splitOn '/').map String.ofList

/-- Whether a path starts at the root. -/
def isAbsolute (path : Path) : Bool := path.spelling.toList.head? == some '/'

/-- The components that the first piece of a path stands for; an empty first piece is the root when
a separator follows it. -/
def leading (first : String) (rest : List String) : List Component :=
  if first = "" then (if rest.isEmpty then [] else [.root])
  else if first = "." then [.current]
  else (Component.ofPiece? first).toList

/-- The components of a path in order. -/
def components (path : Path) : List Component :=
  match path.pieces with
  | [] => []
  | first :: rest => leading first rest ++ rest.filterMap Component.ofPiece?

/-- A path seen from a base: an absolute one stays as it is, any other is written after the base. -/
def join (base path : Path) : Path :=
  if path.isAbsolute then path
  else if base.spelling = "" ∨ base.spelling.toList.getLast? = some '/' then
    ⟨base.spelling ++ path.spelling⟩
  else ⟨base.spelling ++ "/" ++ path.spelling⟩

/-- Whether a piece after the first one stands for nothing. -/
def isIdle (piece : String) : Bool := piece == "" || piece == "."

/-- Leave out the idle pieces at the end. -/
def trimIdle (pieces : List String) : List String := (pieces.reverse.dropWhile isIdle).reverse

/-- The folder of a path: the path without its last component, and the empty path when there is
nothing to take away or nothing left. -/
def folder (path : Path) : Path :=
  match path.pieces with
  | [] => ⟨""⟩
  | first :: rest =>
    let body := trimIdle rest
    if body = [] then ⟨""⟩
    else
      let kept := trimIdle body.dropLast
      if first = "" ∧ kept = [] then ⟨"/"⟩ else ⟨glue (first :: kept)⟩

end Path

end Handbook
