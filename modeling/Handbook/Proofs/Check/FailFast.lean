import Handbook.Check.Report
import Handbook.Proofs.Text.Splitting

/-!
# Stopping at the first broken reference

A check that stops lists the reports of a full check up to the first one with an error, and this one
only up to its first broken reference. `Batch.Cut` says so of two lists of reports, without saying
how either was made; a full check and the batch determine what is left after the cut.
-/
namespace Handbook

open Text

namespace Batch

variable {batch : Batch} {present : Path → Bool}

/-- What stopping at the first broken reference leaves of the reports of a full check. -/
inductive Cut (batch : Batch) (present : Path → Bool) : List Report → List Report → Prop
  /-- Reports without errors are all left. -/
  | sound {reports : List Report} : (∀ report ∈ reports, report.errors = []) →
    Cut batch present reports reports
  /-- The first report with an error is the last one left. It ends with its first broken reference
  and has the one error of that reference. -/
  | broken {before after : List Report} {path : Path} {passed later : List Checked}
      {first : Checked} {error : Broken} {errors : List Broken} :
    (∀ report ∈ before, report.errors = []) →
    (∀ checked ∈ passed, checked.reference.broken? present batch path = none) →
    first.reference.broken? present batch path = some error →
    Cut batch present (before ++ ⟨path, passed ++ first :: later, error :: errors⟩ :: after)
      (before ++ [⟨path, passed ++ [first], [error]⟩])

/-- Both checks go on behind a reference with which nothing is wrong. -/
theorem examineAll_cons_of_sound (mode : Mode) {source : Path} {first : Reference}
    (sound : first.broken? present batch source = none) (later : List Reference) :
    batch.examineAll present mode source (first :: later) =
      (batch.examine first :: (batch.examineAll present mode source later).1,
        (batch.examineAll present mode source later).2) := by
  rw [examineAll]
  exact sound

/-- References with which nothing is wrong are examined, and the check goes on behind them. -/
theorem examineAll_append (mode : Mode) {source : Path} {passed : List Reference}
    (sound : ∀ reference ∈ passed, reference.broken? present batch source = none)
    (rest : List Reference) :
    batch.examineAll present mode source (passed ++ rest) =
      (passed.map batch.examine ++ (batch.examineAll present mode source rest).1,
        (batch.examineAll present mode source rest).2) := by
  induction passed with
  | nil => rfl
  | cons reference more step =>
    obtain ⟨head, tail⟩ := List.forall_mem_cons.1 sound
    rw [List.cons_append, examineAll_cons_of_sound mode head, step tail]
    rfl

/-- A full check goes on behind a broken reference. -/
theorem examineAll_collect_cons {source : Path} {first : Reference} {error : Broken}
    (wrong : first.broken? present batch source = some error) (later : List Reference) :
    batch.examineAll present .collect source (first :: later) =
      (batch.examine first :: (batch.examineAll present .collect source later).1,
        error :: (batch.examineAll present .collect source later).2) := by
  rw [examineAll]
  exact wrong

/-- A check that stops ends with a broken reference. -/
theorem examineAll_failFast_cons {source : Path} {first : Reference} {error : Broken}
    (wrong : first.broken? present batch source = some error) (later : List Reference) :
    batch.examineAll present .failFast source (first :: later) =
      ([batch.examine first], [error]) := by
  rw [examineAll]
  exact wrong

/-- References are all sound, or there is a first broken one. -/
theorem exists_first_broken (batch : Batch) (present : Path → Bool) (source : Path)
    (references : List Reference) :
    (∀ reference ∈ references, reference.broken? present batch source = none) ∨
      ∃ passed first later error, references = passed ++ first :: later ∧
        first.broken? present batch source = some error ∧
        ∀ reference ∈ passed, reference.broken? present batch source = none := by
  cases found : references.findSome? (Reference.broken? present batch source) with
  | none => exact .inl (List.findSome?_eq_none_iff.1 found)
  | some error =>
    obtain ⟨passed, first, later, cut⟩ := List.findSome?_eq_some_iff.1 found
    exact .inr ⟨passed, first, later, error, cut⟩

/-- The report of a full check on a document has no error, and then stopping leaves it as it is; or
stopping cuts it behind the first broken reference. -/
theorem report_cut (batch : Batch) (present : Path → Bool) (path : Path) :
    ((batch.report present .collect path).errors = [] ∧
        batch.report present .failFast path = batch.report present .collect path) ∨
      ∃ passed first later error errors,
        batch.report present .collect path = ⟨path, passed ++ first :: later, error :: errors⟩ ∧
        (∀ checked ∈ passed, checked.reference.broken? present batch path = none) ∧
        first.reference.broken? present batch path = some error ∧
        batch.report present .failFast path = ⟨path, passed ++ [first], [error]⟩ := by
  unfold report
  cases batch.get? path with
  | none => exact .inl ⟨rfl, rfl⟩
  | some index =>
    obtain sound | ⟨passed, first, later, error, cut, wrong, sound⟩ :=
      batch.exists_first_broken present path index.references
    · left
      have examined : ∀ mode, batch.examineAll present mode path index.references =
          (index.references.map batch.examine, []) := by
        intro mode
        have whole := examineAll_append mode sound []
        rw [List.append_nil] at whole
        rw [whole]
        simp [examineAll]
      simp only [examined, and_self]
    · right
      refine ⟨passed.map batch.examine, batch.examine first,
        (batch.examineAll present .collect path later).1, error,
        (batch.examineAll present .collect path later).2, ?_, ?_, wrong, ?_⟩
      · simp only [cut, examineAll_append .collect sound, examineAll_collect_cons wrong]
      · simpa [examine] using sound
      · simp only [cut, examineAll_append .failFast sound, examineAll_failFast_cons wrong]

/-- A report without errors before the others stays before them. -/
theorem Cut.cons {report : Report} {reports others : List Report} (sound : report.errors = [])
    (cut : Cut batch present reports others) :
    Cut batch present (report :: reports) (report :: others) := by
  cases cut with
  | sound all => exact .sound (List.forall_mem_cons.2 ⟨sound, all⟩)
  | broken all passed wrong => exact .broken (List.forall_mem_cons.2 ⟨sound, all⟩) passed wrong

/-- Stopping cuts the reports on documents in order. -/
theorem reportAll_cut (batch : Batch) (present : Path → Bool) (documents : List Path) :
    Cut batch present (batch.reportAll present .collect documents)
      (batch.reportAll present .failFast documents) := by
  induction documents with
  | nil => exact .sound (by simp [reportAll])
  | cons path rest step =>
    unfold reportAll
    obtain ⟨sound, same⟩ | ⟨passed, first, later, error, errors, full, unbroken, wrong, stopped⟩ :=
      batch.report_cut present path
    · have goesOn : (batch.report present .collect path).isSound = true := by
        simp [Report.isSound, sound]
      simpa [same, goesOn] using step.cons sound
    · have stops : (batch.report present .failFast path).isSound = false := by
        simp [Report.isSound, stopped]
      have last : Cut batch present
          ([] ++ ⟨path, passed ++ first :: later, error :: errors⟩ ::
            batch.reportAll present .collect rest)
          ([] ++ [⟨path, passed ++ [first], [error]⟩]) := .broken (by simp) unbroken wrong
      simpa [full, stopped, Report.isSound] using last

/-- Nothing is cut from reports without errors. -/
theorem Cut.of_sound {reports others : List Report} (sound : ∀ report ∈ reports, report.errors = [])
    (cut : Cut batch present reports others) : others = reports := by
  cases cut with
  | sound => rfl
  | @broken before after path passed later first error errors =>
    have none : error :: errors = [] :=
      sound ⟨path, passed ++ first :: later, error :: errors⟩ (by simp)
    exact absurd none (List.cons_ne_nil error errors)

/-- Reports with an error are cut at the first one, behind its first broken reference. -/
theorem Cut.of_broken {before after others : List Report} {path : Path}
    {passed later : List Checked} {first : Checked} {error : Broken} {errors : List Broken}
    (sound : ∀ report ∈ before, report.errors = [])
    (unbroken : ∀ checked ∈ passed, checked.reference.broken? present batch path = none)
    (wrong : first.reference.broken? present batch path = some error)
    (cut : Cut batch present
      (before ++ ⟨path, passed ++ first :: later, error :: errors⟩ :: after) others) :
    others = before ++ [⟨path, passed ++ [first], [error]⟩] := by
  generalize whole : before ++ ⟨path, passed ++ first :: later, error :: errors⟩ :: after = reports
    at cut
  cases cut with
  | sound all =>
    have none : error :: errors = [] :=
      all ⟨path, passed ++ first :: later, error :: errors⟩ (by simp [← whole])
    exact absurd none (List.cons_ne_nil error errors)
  | @broken before' after' path' passed' later' first' error' errors' all unbroken' wrong' =>
    have erroneous : ∀ {reports : List Report}, (∀ report ∈ reports, report.errors = []) →
        ∀ report ∈ reports, ¬report.errors ≠ [] :=
      fun none report member => not_not_intro (none report member)
    obtain ⟨rfl, same, -⟩ := eq_of_first (fun report : Report => report.errors ≠ [])
      (erroneous sound) (List.cons_ne_nil error errors) (erroneous all)
      (List.cons_ne_nil error' errors') whole
    obtain ⟨rfl, examined, found⟩ := Report.mk.inj same
    obtain ⟨rfl, -⟩ := List.cons.inj found
    have breaks : ∀ {passed : List Checked},
        (∀ checked ∈ passed, checked.reference.broken? present batch path = none) →
        ∀ checked ∈ passed, ¬checked.reference.broken? present batch path ≠ none :=
      fun none checked member => not_not_intro (none checked member)
    obtain ⟨rfl, rfl, -⟩ := eq_of_first
      (fun checked : Checked => checked.reference.broken? present batch path ≠ none)
      (breaks unbroken) (by simp [wrong]) (breaks unbroken') (by simp [wrong']) examined
    rfl

/-- The reports of a full check determine what stopping leaves of them. -/
theorem Cut.unique {reports others another : List Report} (cut : Cut batch present reports others)
    (again : Cut batch present reports another) : others = another := by
  cases cut with
  | sound all => exact (again.of_sound all).symm
  | broken all unbroken wrong => exact (again.of_broken all unbroken wrong).symm

/-- A check that stops gives exactly the reports that the cut leaves of the reports of a full check
of the same batch on the same files. -/
theorem reports_failFast_eq_iff (batch : Batch) (present : Path → Bool) (reports : List Report) :
    batch.reports present .failFast = reports ↔
      Cut batch present (batch.reports present .collect) reports := by
  have cut := batch.reportAll_cut present batch.paths
  constructor
  · rintro rfl
    exact cut
  · exact cut.unique

-- Neither the second broken reference of the first document nor the second document is examined.
example : (ofList [(⟨"a.md"⟩, ⟨[], [⟨⟨"x.md"⟩, none⟩, ⟨⟨"y.md"⟩, none⟩]⟩),
    (⟨"b.md"⟩, ⟨[], [⟨⟨"x.md"⟩, none⟩]⟩)]).reports (fun _ => false) .failFast =
      [⟨⟨"a.md"⟩, [⟨⟨⟨"x.md"⟩, none⟩, false⟩], [.missingFile ⟨"a.md"⟩ ⟨"x.md"⟩]⟩] := by
  decide +kernel

end Batch

end Handbook
