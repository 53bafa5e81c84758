import Mathlib.Data.List.Nodup
import Handbook.Proofs.Check.Keys
import Handbook.Proofs.Check.Verdict

/-!
# Other orders of the documents

A check of the same documents in another order gives the same reports in another order, as long as
no document is listed under two spellings. What a batch answers does not depend on the order then,
and a report depends on nothing but the answers of the whole batch. A check that stops may end with
another document, but it finds an error exactly when it finds one in the other order.
-/
namespace Handbook

/-- Every document is listed under one spelling, which may be repeated. -/
def SpelledOnce (paths : List Path) : Prop :=
  ∀ left ∈ paths, ∀ right ∈ paths, left.normalize = right.normalize → left = right

/-- Whether every document is listed under one spelling can be computed. -/
instance (paths : List Path) : Decidable (SpelledOnce paths) :=
  inferInstanceAs (Decidable (∀ left ∈ paths, ∀ right ∈ paths,
    left.normalize = right.normalize → left = right))

namespace Batch

variable {left right : Batch} {files : Files} {paths others : List Path} {batch other : Batch}

/-- Two batches with the same answers. -/
def Agree (left right : Batch) : Prop := ∀ path, left.get? path = right.get? path

/-- The same is looked up for a reference in batches with the same answers. -/
theorem Agree.lookup? (agree : Agree left right) (reference : Reference) :
    reference.lookup? left = reference.lookup? right := by
  unfold Reference.lookup?
  rw [agree reference.target]

/-- A reference is examined alike in batches with the same answers. -/
theorem Agree.examine (agree : Agree left right) (reference : Reference) :
    left.examine reference = right.examine reference := by
  unfold Batch.examine
  rw [agree.lookup? reference]

/-- References are examined alike in batches with the same answers. -/
theorem Agree.examineAll (agree : Agree left right) (present : Path → Bool) (mode : Mode)
    (source : Path) (references : List Reference) :
    left.examineAll present mode source references =
      right.examineAll present mode source references := by
  induction references with
  | nil => rfl
  | cons reference rest step =>
    have same := Reference.broken?_congr (agree.lookup? reference) present source
    unfold Batch.examineAll
    rw [same, agree.examine reference, step]

/-- Batches with the same answers give one report on a document. -/
theorem Agree.report (agree : Agree left right) (present : Path → Bool) (mode : Mode)
    (path : Path) : left.report present mode path = right.report present mode path := by
  unfold Batch.report
  rw [agree path]
  cases right.get? path with
  | none => rfl
  | some index => simp only [agree.examineAll present mode path index.references]

/-- The report on a document bears its path. -/
theorem report_path (batch : Batch) (present : Path → Bool) (mode : Mode) (path : Path) :
    (batch.report present mode path).path = path := by
  unfold report
  cases batch.get? path <;> rfl

/-- A full check reports on every document. -/
theorem reportAll_collect (batch : Batch) (present : Path → Bool) (documents : List Path) :
    batch.reportAll present .collect documents =
      documents.map (batch.report present .collect) := by
  induction documents with
  | nil => rfl
  | cons path rest step =>
    have goesOn : (Mode.collect == Mode.failFast) = false := rfl
    simp only [reportAll, goesOn, Bool.and_false, Bool.false_eq_true, if_false, step, List.map_cons]

/-- Where documents are listed under one spelling, a batch answers with the index of the listed
spelling. -/
theorem get?_eq_some_iff_of_spelledOnce (indexed : ofFiles files paths = .ok batch)
    (spelled : SpelledOnce paths) (path : Path) (index : Index) :
    batch.get? path = some index ↔
      ∃ listed ∈ paths, listed.normalize = path.normalize ∧ files.index listed = .ok index := by
  have answers : ∀ {index}, batch.get? path = some index →
      ∃ listed ∈ paths, listed.normalize = path.normalize ∧ files.index listed = .ok index := by
    intro index known
    have kept := (get?_ofFiles_eq_some_iff indexed path index).1 known
    obtain ⟨before, listed, after, text, whole, same, -, read, rfl⟩ := kept
    have read : files.index listed = .ok (Index.ofText listed text) :=
      (files.index_eq_ok_iff listed _).2 ⟨text, read, rfl⟩
    exact ⟨listed, by simp [whole], same, read⟩
  refine ⟨answers, ?_⟩
  rintro ⟨listed, member, same, read⟩
  have inBatch : path.normalize ∈ batch.paths :=
    (mem_paths_ofFiles indexed path.normalize).2 ⟨listed, member, same⟩
  have answered := (batch.isSome_get?_iff path).2 inBatch
  obtain ⟨other, known⟩ := Option.isSome_iff_exists.1 answered
  obtain ⟨found, inList, normal, again⟩ := answers known
  -- The list has one spelling of the document, so the answer is the index of this one.
  have one : found = listed := spelled found inList listed member (normal.trans same.symm)
  rw [one, read] at again
  rw [known, Except.ok.inj again]

/-- Batches that are read from one list in two orders have the same answers. -/
theorem agree_of_perm (indexed : ofFiles files paths = .ok batch)
    (again : ofFiles files others = .ok other) (spelled : SpelledOnce paths)
    (order : paths.Perm others) : Agree batch other := by
  have rearranged : SpelledOnce others := fun left inLeft right inRight =>
    spelled left (order.mem_iff.2 inLeft) right (order.mem_iff.2 inRight)
  intro path
  apply Option.ext
  intro index
  rw [get?_eq_some_iff_of_spelledOnce indexed spelled,
    get?_eq_some_iff_of_spelledOnce again rearranged]
  simp only [order.mem_iff]

/-- A batch that is read from listed paths has no document twice. -/
theorem nodup_paths_ofFiles (indexed : ofFiles files paths = .ok batch) : batch.paths.Nodup := by
  obtain ⟨history, rfl, -⟩ := exists_history indexed
  exact (follows_ofList history).distinct

/-- Batches that are read from one list in two orders have the same documents. -/
theorem paths_perm_of_perm (indexed : ofFiles files paths = .ok batch)
    (again : ofFiles files others = .ok other) (order : paths.Perm others) :
    batch.paths.Perm other.paths := by
  apply (List.perm_ext_iff_of_nodup (nodup_paths_ofFiles indexed) (nodup_paths_ofFiles again)).2
  intro key
  rw [mem_paths_ofFiles indexed, mem_paths_ofFiles again]
  simp only [order.mem_iff]

/-- A full check reports on each document what the whole batch answers about it. -/
theorem mem_reports_collect_iff (batch : Batch) (present : Path → Bool) (report : Report) :
    report ∈ batch.reports present .collect ↔
      ∃ path ∈ batch.paths, batch.report present .collect path = report := by
  unfold reports
  rw [reportAll_collect, List.mem_map]

/-- Batches with the same answers and the same documents give the same reports. -/
theorem Agree.reports_perm (agree : Agree left right) (documents : left.paths.Perm right.paths)
    (present : Path → Bool) :
    (left.reports present .collect).Perm (right.reports present .collect) := by
  have same : left.report present .collect = right.report present .collect :=
    funext (agree.report present .collect)
  unfold reports
  rw [reportAll_collect, reportAll_collect, same]
  exact documents.map _

/-- Reports on one document by full checks with the same answers are the same. -/
theorem Agree.eq_of_mem_reports (agree : Agree left right) {present : Path → Bool}
    {report another : Report} (member : report ∈ left.reports present .collect)
    (inOther : another ∈ right.reports present .collect) (same : report.path = another.path) :
    report = another := by
  obtain ⟨path, -, rfl⟩ := (left.mem_reports_collect_iff present report).1 member
  obtain ⟨spelling, -, rfl⟩ := (right.mem_reports_collect_iff present another).1 inOther
  rw [report_path, report_path] at same
  rw [same]
  exact agree.report present .collect spelling

/-- Batches with the same answers and the same documents both have an error or neither has. -/
theorem Agree.errors_eq_nil_iff (agree : Agree left right)
    (documents : left.paths.Perm right.paths) (present : Path → Bool) (mode : Mode) :
    CheckOutcome.errors (left.reports present mode) = [] ↔
      CheckOutcome.errors (right.reports present mode) = [] := by
  have same : left.report present mode = right.report present mode :=
    funext (agree.report present mode)
  unfold reports
  rw [reportAll_errors_eq_nil_iff, reportAll_errors_eq_nil_iff, same]
  simp only [documents.mem_iff]

end Batch

/-- What a check makes of one list of documents in two orders. -/
inductive Rearranged (files : Files) (paths others : List Path) : Prop
  /-- Some document cannot be read, and the check fails in both orders. -/
  | failed {failure another : Failure} :
    (∀ mode, checkReferences files paths mode = .error failure) →
    (∀ mode, checkReferences files others mode = .error another) → Rearranged files paths others
  /-- A full check gives the same reports, one on each document, and a check that stops finds an
  error in both orders or in neither. -/
  | checked {reports rearranged stopped ended : List Report} :
    checkReferences files paths .collect = .ok reports →
    checkReferences files others .collect = .ok rearranged →
    reports.Perm rearranged →
    (∀ report ∈ reports, ∀ other ∈ rearranged, report.path = other.path → report = other) →
    checkReferences files paths .failFast = .ok stopped →
    checkReferences files others .failFast = .ok ended →
    (CheckOutcome.errors stopped ≠ [] ↔ CheckOutcome.errors ended ≠ []) →
    Rearranged files paths others

/-- The order in which documents are listed does not matter to a check, as long as each is listed
under one spelling. -/
theorem checkReferences_rearranged {files : Files} {paths others : List Path}
    (spelled : SpelledOnce paths) (order : paths.Perm others) : Rearranged files paths others := by
  have readable : (∃ batch, Batch.ofFiles files paths = .ok batch) ↔
      ∃ batch, Batch.ofFiles files others = .ok batch := by
    rw [Batch.exists_ofFiles_iff, Batch.exists_ofFiles_iff]
    simp only [order.mem_iff]
  cases indexed : Batch.ofFiles files paths with
  | error failure =>
    cases again : Batch.ofFiles files others with
    | error another =>
      have fails : ∀ mode, checkReferences files paths mode = .error failure := by
        simp [checkReferences, indexed]
      have failsAgain : ∀ mode, checkReferences files others mode = .error another := by
        simp [checkReferences, again]
      exact .failed fails failsAgain
    | ok other =>
      have read := readable.2 ⟨other, again⟩
      simp [indexed] at read
  | ok batch =>
    obtain ⟨other, again⟩ := readable.1 ⟨batch, indexed⟩
    have agree := Batch.agree_of_perm indexed again spelled order
    have documents := Batch.paths_perm_of_perm indexed again order
    have checks : ∀ mode, checkReferences files paths mode =
        .ok (batch.reports files.present mode) := by
      simp [checkReferences, indexed]
    have checksAgain : ∀ mode, checkReferences files others mode =
        .ok (other.reports files.present mode) := by
      simp [checkReferences, again]
    apply Rearranged.checked (checks .collect) (checksAgain .collect)
    · exact agree.reports_perm documents files.present
    · exact fun report member another inOther => agree.eq_of_mem_reports member inOther
    · exact checks .failFast
    · exact checksAgain .failFast
    · exact not_congr (agree.errors_eq_nil_iff documents files.present .failFast)

/-- Two documents that link to each other; the first one also links to a missing file. -/
def linkedPair : Files where
  read path :=
    if path = ⟨"a.md"⟩ then .ok "## Top\n[x](b.md#end) [y](gone.md)\n"
    else if path = ⟨"b.md"⟩ then .ok "## End\n[z](a.md#top) [w](a.md#end)\n"
    else .error .notFound
  present path := path = ⟨"a.md"⟩ ∨ path = ⟨"b.md"⟩

/-- The first document of the pair is listed twice, around the second one or behind it. -/
theorem checkReferences_rearranged_linkedPair :
    SpelledOnce [⟨"a.md"⟩, ⟨"b.md"⟩, ⟨"a.md"⟩] ∧
      [(⟨"a.md"⟩ : Path), ⟨"b.md"⟩, ⟨"a.md"⟩].Perm [⟨"b.md"⟩, ⟨"a.md"⟩, ⟨"a.md"⟩] ∧
      Rearranged linkedPair [⟨"a.md"⟩, ⟨"b.md"⟩, ⟨"a.md"⟩] [⟨"b.md"⟩, ⟨"a.md"⟩, ⟨"a.md"⟩] := by
  have spelled : SpelledOnce [⟨"a.md"⟩, ⟨"b.md"⟩, ⟨"a.md"⟩] := by decide +kernel
  have order : [(⟨"a.md"⟩ : Path), ⟨"b.md"⟩, ⟨"a.md"⟩].Perm
      [⟨"b.md"⟩, ⟨"a.md"⟩, ⟨"a.md"⟩] := by decide
  exact ⟨spelled, order, checkReferences_rearranged spelled order⟩

end Handbook
