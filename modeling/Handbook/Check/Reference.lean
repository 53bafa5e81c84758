import Handbook.Check.Batch

/-!
# Checking a reference

A reference with an anchor into a document of the batch is sound when the document has a heading
with that anchor; the target is looked up by its normal form. Any other reference is sound when
there is something at its target as it is spelled, so a path that leads through a missing folder is
broken even where its normal form exists.
-/
namespace Handbook

/-- A reference that is not sound. -/
inductive Broken where
  /-- Nothing is at the target. -/
  | missingFile (source target : Path)
  /-- The target is a document of the batch that has no heading with the anchor. -/
  | danglingAnchor (source target : Path) (anchor : String)
deriving DecidableEq

namespace Broken

/-- The document with the broken reference. -/
def source : Broken → Path
  | missingFile source _ => source
  | danglingAnchor source _ _ => source

/-- The words for a broken reference. -/
def message : Broken → String
  | missingFile source target =>
    source.spelling ++ ": reference to missing file " ++ target.spelling
  | danglingAnchor source target anchor =>
    source.spelling ++ ": reference to missing heading " ++ target.spelling ++ "#" ++ anchor

end Broken

namespace Reference

/-- The index and the anchor to look for in it, when the reference has an anchor into a document of
the batch. -/
def lookup? (reference : Reference) (batch : Batch) : Option (Index × String) :=
  match reference.anchor with
  | none => none
  | some anchor =>
    if anchor = "" then none else (batch.get? reference.target).map (·, anchor)

/-- What is wrong with a reference of a document, if anything. -/
def broken? (present : Path → Bool) (batch : Batch) (source : Path) (reference : Reference) :
    Option Broken :=
  match reference.lookup? batch with
  | some (index, anchor) =>
    if index.hasAnchor anchor then none
    else some (.danglingAnchor source reference.target anchor)
  | none =>
    if present reference.target then none else some (.missingFile source reference.target)

end Reference

end Handbook
