import Handbook.Log.Record
import Handbook.Text.Blank
import Handbook.Text.Lines

/-!
# Log filters

A filter is a list of rules, each of which lets the records of some targets through up to a level of
detail. The rule with the longest matching start of a target decides. A rule given again for the
same targets takes the place of the earlier one, so there are two rules at most that speak of all
targets: one that names none and one that names the empty start. The one whose place is later
decides. Without any rule only errors get through; where rules exist but none matches, nothing does.
-/
namespace Handbook

open Text

/-- How much detail is let through for some targets. -/
structure LogRule where
  /-- The start of the targets; a rule that has none speaks of all of them. -/
  start : Option String
  /-- The greatest detail of the records. -/
  detail : Nat

namespace LogRule

/-- The start that the targets of a rule have; all targets have the empty one. -/
def reach (rule : LogRule) : String := rule.start.getD ""

/-- Whether a rule speaks of a target. -/
def covers (rule : LogRule) (target : String) : Bool :=
  rule.reach.toList.isPrefixOf target.toList

end LogRule

/-- Rules in the order of their places. -/
abbrev LogFilter := List LogRule

namespace LogFilter

/-- The greatest detail there is. -/
def fullDetail : Nat := 5

/-- The detail that a level word names, in any case of its letters. -/
def detail? (word : String) : Option Nat :=
  ["off", "error", "warn", "info", "debug", "trace"].idxOf?
    (String.ofList (word.toList.map Char.toLower))

/-- A text without the white space around it. -/
def trimmed (text : List Char) : List Char := trimEnd isBlank (text.dropWhile isBlank)

/-- The rule that a text writes: a level for all targets, a target, or both with an equals sign
between them. A target alone lets everything through. -/
def rule? (text : List Char) : Option LogRule :=
  match text.splitOn '=' with
  | [only] =>
    match detail? (String.ofList only) with
    | some detail => some ⟨none, detail⟩
    | none => some ⟨some (String.ofList only), fullDetail⟩
  | [target, level] =>
    if trimmed level = [] then some ⟨some (String.ofList target), fullDetail⟩
    else (detail? (String.ofList (trimmed level))).map (⟨some (String.ofList target), ·⟩)
  | _ => none

/-- A filter with one more rule, which takes the place of the rule for the same targets if there is
one. -/
def add (filter : LogFilter) (rule : LogRule) : LogFilter :=
  if filter.any (·.start == rule.start) then
    filter.map fun other => if other.start == rule.start then rule else other
  else filter ++ [rule]

/-- The filter that a text writes: rules with commas between them. A part that is no rule is passed
over. -/
def ofText (text : String) : LogFilter :=
  let parts := (text.toList.splitOn ',').map trimmed
  let rules := (parts.filter (!·.isEmpty)).filterMap rule?
  if rules.isEmpty then [⟨none, Level.error.detail⟩] else rules.foldl add []

/-- The detail that is let through for a target. -/
def detailOf (filter : LogFilter) (target : String) : Nat :=
  let better := fun (best : Option LogRule) (rule : LogRule) =>
    if best.all fun other => other.reach.length ≤ rule.reach.length then some rule else best
  (((filter.filter (·.covers target)).foldl better none).map (·.detail)).getD 0

/-- Whether a record gets through. -/
def passes (filter : LogFilter) (record : Record) : Bool :=
  record.level.detail ≤ filter.detailOf record.target

end LogFilter

end Handbook
