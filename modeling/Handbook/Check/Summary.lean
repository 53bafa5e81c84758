import Handbook.Log.Events
import Handbook.Path.Order

/-!
# The outcome of a reference check

A check that ran prints the traces of its reports. When references are broken it prints each of
them, then the different documents they stand in, in the order of paths, and fails; otherwise it
prints how much was checked.
-/
namespace Handbook

/-- What a reference check printed and how it ended. -/
structure CheckOutcome where
  /-- The traces. -/
  output : String := ""
  /-- The records that are shown whatever the log filter is. -/
  records : List Record := []
  /-- How the check ended. -/
  result : Except Failure Unit

namespace CheckOutcome

/-- The broken references of all reports in order. -/
def errors (reports : List Report) : List Broken := reports.flatMap (·.errors)

/-- The records about broken references: each of them, a heading, and the documents they stand in.
-/
def complaints (errors : List Broken) : List Record :=
  errors.map (fun broken => .complaint broken.message) ++
    [.complaint "Broken references in the following files:"] ++
    (Path.sortDistinct (errors.map (·.source))).map fun path => .complaint ("  " ++ path.spelling)

/-- The record about a check in which nothing is broken. -/
def statistics (reports : List Report) : Record :=
  let checked := reports.flatMap (·.checked)
  .allSound checked.length (checked.filter (·.lookedUp)).length reports.length

/-- The outcome of a check with the given reports. -/
def ofReports (reports : List Report) : CheckOutcome :=
  let output := String.join (reports.map (·.trace))
  match errors reports with
  | [] => ⟨output, [statistics reports], .ok ()⟩
  | first :: more =>
    ⟨output, complaints (first :: more), .error (.broken (first :: more).length)⟩

end CheckOutcome

/-- Check the documents at the paths. -/
def runReferenceCheck (files : Files) (paths : List Path) (mode : Mode) : CheckOutcome :=
  match checkReferences files paths mode with
  | .ok reports => .ofReports reports
  | .error failure => { result := .error failure }

end Handbook
