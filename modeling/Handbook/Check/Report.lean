import Handbook.Check.Reference

/-!
# Reports

The report on a document lists the references that were examined and what was wrong with them, both
in the order of the document. A check either collects everything that is wrong or stops at the first
broken reference; stopping ends the report and the list of reports with that reference.
-/
namespace Handbook

/-- How far a check goes when a reference is broken. -/
inductive Mode where
  /-- Examine every reference of every document. -/
  | collect
  /-- Stop at the first broken reference. -/
  | failFast
deriving DecidableEq, Inhabited

/-- A reference that was examined. -/
structure Checked where
  /-- The reference. -/
  reference : Reference
  /-- Whether its anchor was looked up in a document of the batch. -/
  lookedUp : Bool
deriving DecidableEq

/-- What a check found in one document. -/
structure Report where
  /-- The path under which the document was examined. -/
  path : Path
  /-- The references that were examined. -/
  checked : List Checked := []
  /-- The references that are broken. -/
  errors : List Broken := []
deriving DecidableEq

/-- A reference in a trace: the anchor is shown when it was looked up. -/
def Checked.shown (checked : Checked) : String :=
  match checked.reference.anchor, checked.lookedUp with
  | some anchor, true => checked.reference.target.spelling ++ "#" ++ anchor
  | _, _ => checked.reference.target.spelling

namespace Report

/-- Whether no reference of the document is broken. -/
def isSound (report : Report) : Bool := report.errors.isEmpty

/-- The trace of a report: the document and, indented, every reference that was examined. -/
def trace (report : Report) : String :=
  "CHECK " ++ report.path.spelling ++ "\n" ++
    String.join (report.checked.map fun checked => "  " ++ checked.shown ++ "\n")

end Report

namespace Batch

/-- Note that a reference was examined. -/
def examine (batch : Batch) (reference : Reference) : Checked :=
  ⟨reference, (reference.lookup? batch).isSome⟩

/-- Examine references of a document in order. -/
def examineAll (batch : Batch) (present : Path → Bool) (mode : Mode) (source : Path) :
    List Reference → List Checked × List Broken
  | [] => ([], [])
  | reference :: rest =>
    let checked := batch.examine reference
    match reference.broken? present batch source, mode with
    | some broken, .failFast => ([checked], [broken])
    | some broken, .collect =>
      let (later, errors) := batch.examineAll present mode source rest
      (checked :: later, broken :: errors)
    | none, _ =>
      let (later, errors) := batch.examineAll present mode source rest
      (checked :: later, errors)

/-- The report on the document at a path; it is empty when the batch has no such document. -/
def report (batch : Batch) (present : Path → Bool) (mode : Mode) (path : Path) : Report :=
  match batch.get? path with
  | none => { path }
  | some index =>
    let (checked, errors) := batch.examineAll present mode path index.references
    { path, checked, errors }

/-- The reports on documents in order, up to the first broken one when the check stops there. -/
def reportAll (batch : Batch) (present : Path → Bool) (mode : Mode) : List Path → List Report
  | [] => []
  | path :: rest =>
    let report := batch.report present mode path
    if !report.isSound && mode == .failFast then [report]
    else report :: batch.reportAll present mode rest

/-- The reports on the documents of a batch. -/
def reports (batch : Batch) (present : Path → Bool) (mode : Mode) : List Report :=
  batch.reportAll present mode batch.paths

end Batch

/-- Index the documents at the paths, all of them before any is examined, and report on each. -/
def checkReferences (files : Files) (paths : List Path) (mode : Mode) :
    Except Failure (List Report) :=
  match Batch.ofFiles files paths with
  | .ok batch => .ok (batch.reports files.present mode)
  | .error failure => .error failure

end Handbook
