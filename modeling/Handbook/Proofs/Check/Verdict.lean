import Handbook.Check.Summary
import Handbook.Proofs.Check.History

/-!
# The verdict of a reference check

A check ends well exactly when every listed document can be read and every reference of the indexes
that are kept resolves. Whether a reference resolves is said here on the files and the listed paths
alone: `Resolves` knows no batch, no reports and no mode. So both modes come to one verdict, and the
places of two documents in the list do not matter for the links between them.
-/
namespace Handbook

/-- A reference whose anchor, unless it is empty, is one of the index that is kept for its
target. -/
def FindsHeading (files : Files) (paths : List Path) (reference : Reference) : Prop :=
  ∃ anchor index, reference.anchor = some anchor ∧ anchor ≠ "" ∧
    IsKept files paths reference.target.normalize index ∧ anchor ∈ index.anchors

/-- When a reference resolves. An anchor into a listed document has to be an anchor of the index
that is kept for the document; any other reference needs something on disk at its target, as it is
spelled. -/
inductive Resolves (files : Files) (paths : List Path) (reference : Reference) : Prop
  /-- The listed document that the reference names has a heading with the anchor. -/
  | heading : FindsHeading files paths reference → Resolves files paths reference
  /-- There is no anchor to look for, or no listed document to look in, and the target exists. -/
  | entry :
    (reference.anchor = none ∨ reference.anchor = some "" ∨
        ∀ path ∈ paths, path.normalize ≠ reference.target.normalize) →
      files.present reference.target = true → Resolves files paths reference

namespace Reference

/-- An anchor is looked for when it is not empty and the target is a document of the batch. -/
theorem lookup?_eq_some_iff (reference : Reference) (batch : Batch) (index : Index)
    (anchor : String) :
    reference.lookup? batch = some (index, anchor) ↔
      reference.anchor = some anchor ∧ anchor ≠ "" ∧ batch.get? reference.target = some index := by
  unfold lookup?
  cases reference.anchor with
  | none => simp
  | some written =>
    by_cases empty : written = ""
    · simp only [empty, if_true, reduceCtorEq, Option.some.injEq, false_iff]
      rintro ⟨rfl, filled, -⟩
      exact filled rfl
    · simp only [if_neg empty, Option.map_eq_some_iff, Prod.mk.injEq, Option.some.injEq]
      constructor
      · rintro ⟨found, known, rfl, rfl⟩
        exact ⟨rfl, empty, known⟩
      · rintro ⟨rfl, -, known⟩
        exact ⟨index, known, rfl, rfl⟩

/-- No anchor is looked for when there is none, when it is empty, or when the target is no document
of the batch. -/
theorem lookup?_eq_none_iff (reference : Reference) (batch : Batch) :
    reference.lookup? batch = none ↔
      reference.anchor = none ∨ reference.anchor = some "" ∨
        reference.target.normalize ∉ batch.paths := by
  rw [← Batch.isSome_get?_iff]
  unfold lookup?
  cases reference.anchor with
  | none => simp
  | some written => by_cases empty : written = "" <;> simp [empty]

/-- Nothing is wrong with a reference when its anchor is found where it is looked for, or when no
anchor is looked for and the target exists. -/
theorem broken?_eq_none_iff (present : Path → Bool) (batch : Batch) (source : Path)
    (reference : Reference) :
    reference.broken? present batch source = none ↔
      (∃ anchor index, reference.lookup? batch = some (index, anchor) ∧ anchor ∈ index.anchors) ∨
        (reference.lookup? batch = none ∧ present reference.target = true) := by
  unfold broken?
  cases reference.lookup? batch with
  | none => simp
  | some pair =>
    obtain ⟨index, anchor⟩ := pair
    simp [Index.hasAnchor]

end Reference

namespace Batch

variable {files : Files} {paths : List Path} {batch : Batch}

/-- In the batch of the listed documents, nothing is wrong with a reference exactly when it
resolves. -/
theorem broken?_eq_none_iff_resolves (indexed : ofFiles files paths = .ok batch) (source : Path)
    (reference : Reference) :
    reference.broken? files.present batch source = none ↔ Resolves files paths reference := by
  rw [Reference.broken?_eq_none_iff]
  constructor
  · rintro (⟨anchor, index, found, member⟩ | ⟨none, present⟩)
    · obtain ⟨written, filled, known⟩ := (reference.lookup?_eq_some_iff _ _ _).1 found
      have kept := (get?_ofFiles_eq_some_iff indexed _ _).1 known
      exact .heading ⟨anchor, index, written, filled, kept, member⟩
    · refine .entry ?_ present
      simpa [mem_paths_ofFiles indexed] using (reference.lookup?_eq_none_iff _).1 none
  · intro resolves
    cases resolves with
    | heading finds =>
      obtain ⟨anchor, index, written, filled, kept, member⟩ := finds
      have known := (get?_ofFiles_eq_some_iff indexed _ _).2 kept
      exact .inl ⟨anchor, index, (reference.lookup?_eq_some_iff _ _ _).2 ⟨written, filled, known⟩,
        member⟩
    | entry plain present =>
      refine .inr ⟨(reference.lookup?_eq_none_iff _).2 ?_, present⟩
      simpa [mem_paths_ofFiles indexed] using plain

/-- Examining references finds nothing wrong exactly when nothing is wrong with any of them, also
when it stops at the first broken one. -/
theorem examineAll_errors_eq_nil_iff (batch : Batch) (present : Path → Bool) (mode : Mode)
    (source : Path) (references : List Reference) :
    (batch.examineAll present mode source references).2 = [] ↔
      ∀ reference ∈ references, reference.broken? present batch source = none := by
  induction references with
  | nil => simp [examineAll]
  | cons reference rest step =>
    unfold examineAll
    cases wrong : reference.broken? present batch source with
    | none => simpa [wrong] using step
    | some broken => cases mode <;> simp [wrong]

/-- The report on a document of the batch is free of errors exactly when nothing is wrong with the
references of its index. -/
theorem report_errors_eq_nil_iff (batch : Batch) (present : Path → Bool) (mode : Mode)
    (path : Path) :
    (batch.report present mode path).errors = [] ↔
      ∀ index, batch.get? path = some index → ∀ reference ∈ index.references,
        reference.broken? present batch path = none := by
  unfold report
  cases batch.get? path with
  | none => simp
  | some index =>
    simp only [Option.some.injEq, forall_eq']
    exact examineAll_errors_eq_nil_iff batch present mode path index.references

/-- Reports list no error exactly when no document has one, also when they end with the first broken
document. -/
theorem reportAll_errors_eq_nil_iff (batch : Batch) (present : Path → Bool) (mode : Mode)
    (documents : List Path) :
    CheckOutcome.errors (batch.reportAll present mode documents) = [] ↔
      ∀ path ∈ documents, (batch.report present mode path).errors = [] := by
  induction documents with
  | nil => simp [reportAll, CheckOutcome.errors]
  | cons path rest step =>
    unfold reportAll
    by_cases sound : (batch.report present mode path).errors = []
    · simpa [CheckOutcome.errors, Report.isSound, sound] using step
    · cases mode <;> simp [CheckOutcome.errors, Report.isSound, sound]

/-- The reports on the listed documents list no error exactly when every reference of the kept
indexes resolves. -/
theorem reports_errors_eq_nil_iff (indexed : ofFiles files paths = .ok batch) (mode : Mode) :
    CheckOutcome.errors (batch.reports files.present mode) = [] ↔
      ∀ path ∈ paths, ∀ index, IsKept files paths path.normalize index →
        ∀ reference ∈ index.references, Resolves files paths reference := by
  unfold reports
  simp only [reportAll_errors_eq_nil_iff, report_errors_eq_nil_iff, mem_paths_ofFiles indexed,
    get?_ofFiles_eq_some_iff indexed, broken?_eq_none_iff_resolves indexed]
  -- A document is known by a normal path, which is its own normal form.
  simp only [forall_exists_index, and_imp, forall_apply_eq_imp_iff₂, Path.normalize_normalize]

end Batch

/-- The outcome of reports is good exactly when they list no error. -/
theorem CheckOutcome.ofReports_result (reports : List Report) :
    (ofReports reports).result = .ok () ↔ errors reports = [] := by
  unfold ofReports
  cases errors reports <;> simp

/-- A check ends well exactly when every listed document can be read and every reference in the last
listed spelling of each document resolves; the mode has no part in it. -/
theorem runReferenceCheck_eq_ok_iff (files : Files) (paths : List Path) :
    (∀ mode, (runReferenceCheck files paths mode).result = .ok () ↔
      (∀ path ∈ paths, ∃ text, files.read path = .ok text) ∧
        ∀ path ∈ paths, ∀ index, IsKept files paths path.normalize index →
          ∀ reference ∈ index.references, Resolves files paths reference) ∧
      ((runReferenceCheck files paths .collect).result = .ok () ↔
        (runReferenceCheck files paths .failFast).result = .ok ()) := by
  have verdict : ∀ mode, (runReferenceCheck files paths mode).result = .ok () ↔
      (∀ path ∈ paths, ∃ text, files.read path = .ok text) ∧
        ∀ path ∈ paths, ∀ index, IsKept files paths path.normalize index →
          ∀ reference ∈ index.references, Resolves files paths reference := by
    intro mode
    rw [← Batch.exists_ofFiles_iff]
    unfold runReferenceCheck checkReferences
    cases indexed : Batch.ofFiles files paths with
    | error failure => simp
    | ok batch =>
      simp only [CheckOutcome.ofReports_result, Batch.reports_errors_eq_nil_iff indexed]
      simp
  exact ⟨verdict, (verdict .collect).trans (verdict .failFast).symm⟩

end Handbook
