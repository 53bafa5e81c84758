import Handbook.Disk.Files
import Handbook.Document.Index
import Handbook.Failure
import Handbook.Path.Normal

/-!
# Batches

The documents that are checked together. A document is known by the normal form of its path, so the
spellings of one path name one document: a second index for it replaces the first and keeps its
place. Documents stay in the order in which they were first added.
-/
namespace Handbook

/-- The documents of a check with their indexes, under normal paths. -/
structure Batch where
  /-- Normal paths and indexes in the order of the first insertions. -/
  documents : List (Path × Index) := []
deriving Inhabited

namespace Batch

/-- Replace the value under a key, or add the pair at the end. -/
def putPair (key : Path) (index : Index) : List (Path × Index) → List (Path × Index)
  | [] => [(key, index)]
  | (other, old) :: rest =>
    if other = key then (other, index) :: rest else (other, old) :: putPair key index rest

/-- Add the index of the document at a path, or replace the one that is there. -/
def insert (batch : Batch) (path : Path) (index : Index) : Batch :=
  ⟨putPair path.normalize index batch.documents⟩

/-- The paths of the documents in their order. -/
def paths (batch : Batch) : List Path := batch.documents.map (·.1)

/-- The number of documents. -/
def size (batch : Batch) : Nat := batch.documents.length

/-- The index of the document at a path. -/
def get? (batch : Batch) (path : Path) : Option Index := batch.documents.lookup path.normalize

/-- Whether the document at a path is in the batch. -/
def contains (batch : Batch) (path : Path) : Bool := (batch.get? path).isSome

/-- The batch that comes of inserting documents in order. -/
def ofList (documents : List (Path × Index)) : Batch :=
  documents.foldl (fun batch document => batch.insert document.1 document.2) {}

end Batch

namespace Files

/-- Read and index the document at a path. -/
def index (files : Files) (path : Path) : Except Failure Index :=
  match files.read path with
  | .ok content => .ok (Index.ofText path content)
  | .error error => .error (.unreadable path error)

/-- Read and index documents in order up to the first one that cannot be read: the indexes made,
and the failure if there was one. -/
def indexAll (files : Files) : List Path → List (Path × Index) × Option Failure
  | [] => ([], none)
  | path :: rest =>
    match files.index path with
    | .ok index =>
      let (later, failure) := files.indexAll rest
      ((path, index) :: later, failure)
    | .error failure => ([], some failure)

end Files

/-- The batch of the documents at the paths, or the failure to read the first unreadable one. -/
def Batch.ofFiles (files : Files) (paths : List Path) : Except Failure Batch :=
  match files.indexAll paths with
  | (documents, none) => .ok (ofList documents)
  | (_, some failure) => .error failure

end Handbook
