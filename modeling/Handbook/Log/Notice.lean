import Handbook.Log.Filter
import Handbook.Text.Control

/-!
# What is written to standard error

A record is printed as it is when it tells the outcome of a reference check. Any other record is
logged: it is written only if the log filter lets it through, and its line has no control sequences.
-/
namespace Handbook

open Text

/-- A record that is written, with the way in which it is. -/
inductive Notice where
  /-- The line of the record as it is. -/
  | printed (record : Record)
  /-- The line of the record without control sequences, which may take its end with them. -/
  | logged (record : Record)
deriving DecidableEq

/-- The text that is written at a time. -/
def Notice.text (time : String) : Notice → String
  | printed record => record.line time
  | logged record => withoutControls (record.line time)

/-- The notices of those records that a filter lets through. -/
def LogFilter.notices (filter : LogFilter) (records : List Record) : List Notice :=
  (records.filter filter.passes).map .logged

end Handbook
