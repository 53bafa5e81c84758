import Handbook.Proofs.Check.Accounts
import Handbook.Proofs.Check.Orders
import Handbook.Proofs.Document.LinkGrammar
import Handbook.Proofs.Path.Ascending

/-!
# What a check prints

A check of documents that can be read prints the traces of its reports and then one of two things.
If a reference does not resolve, it prints every error of the reports, a heading, and the documents
with errors, each once and ascending; otherwise it prints how many references the kept indexes have,
how many of them ask for a heading of a listed document, and how many documents there are. `Prints`
says so of the reports and the files, and of no batch.
-/
namespace Handbook

/-- Normal forms with the same components are the same path. -/
theorem Path.eq_of_components_eq {path other : Path} (normal : path.normalize = path)
    (fixed : other.normalize = other) (same : path.components = other.components) :
    path = other := by
  calc
    path = path.normalize := normal.symm
    _ = other.normalize := congrArg (fun list => ofComponents (Component.normal list)) same
    _ = other := fixed

/-- What a check with the given reports prints and how it ends. -/
inductive Prints (files : Files) (paths : List Path) (reports : List Report) : CheckOutcome → Prop
  /-- Some reference of a kept index does not resolve. -/
  | complaints {failed : List Path} :
    (∃ path ∈ paths, ∃ index, IsKept files paths path.normalize index ∧
      ∃ reference ∈ index.references, ¬Resolves files paths reference) →
    failed.Pairwise Path.Precedes →
    (∀ path, path ∈ failed ↔ ∃ report ∈ reports, report.path = path ∧ report.errors ≠ []) →
    Prints files paths reports
      { output := String.join (reports.map (·.trace))
        records :=
          (reports.flatMap (·.errors)).map (⟨.error, "doc_check", ·.message⟩) ++
            [⟨.error, "doc_check", "Broken references in the following files:"⟩] ++
            failed.map (⟨.error, "doc_check", "  " ++ ·.spelling⟩)
        result := .error (.broken (reports.flatMap (·.errors)).length) }
  /-- Every reference of the kept indexes, of which there is one for each document, resolves. -/
  | statistics {indexes : List Index} {total lookedUp documents : Nat} :
    (∀ path ∈ paths, ∀ index, IsKept files paths path.normalize index →
      ∀ reference ∈ index.references, Resolves files paths reference) →
    List.Forall₂ (IsKept files paths) (paths.map (·.normalize)).eraseDups indexes →
    total = (indexes.flatMap (·.references)).length →
    lookedUp =
      (indexes.flatMap (·.references)).countP (·.AsksAmong (paths.map (·.normalize))) →
    documents = (paths.map (·.normalize)).eraseDups.length →
    Prints files paths reports
      { output := String.join (reports.map (·.trace))
        records :=
          [⟨.info, "doc_check",
            "Validated " ++ toString total ++ " reference(s) (" ++ toString lookedUp ++
              " anchor(s) looked up) in " ++ toString documents ++ " document(s)"⟩]
        result := .ok () }

/-- A check that fails says how many errors its reports have. -/
theorem Prints.message_of_failed {files : Files} {paths : List Path} {reports : List Report}
    {outcome : CheckOutcome} (prints : Prints files paths reports outcome) {failure : Failure}
    (failed : outcome.result = .error failure) :
    failure.message = toString (reports.flatMap (·.errors)).length ++ " broken reference(s)" := by
  cases prints with
  | complaints =>
    cases failed
    rfl
  | statistics => cases failed

/-- The outcome of reports with errors. -/
theorem CheckOutcome.ofReports_of_errors {reports : List Report} (wrong : errors reports ≠ []) :
    ofReports reports = ⟨String.join (reports.map (·.trace)), complaints (errors reports),
      .error (.broken (errors reports).length)⟩ := by
  unfold ofReports
  cases found : errors reports with
  | nil => exact absurd found wrong
  | cons => rfl

/-- The outcome of reports without errors. -/
theorem CheckOutcome.ofReports_of_sound {reports : List Report} (sound : errors reports = []) :
    ofReports reports = ⟨String.join (reports.map (·.trace)), [statistics reports], .ok ()⟩ := by
  unfold ofReports
  rw [sound]

/-- Errors of examined references bear the document that was given. -/
theorem Checked.Accounts.source_eq {present : Path → Bool} {batch : Batch} {source : Path}
    {checked : List Checked} {errors : List Broken}
    (accounts : Checked.Accounts present batch source checked errors) :
    ∀ error ∈ errors, error.source = source := by
  induction accounts with
  | none => simp
  | failing _ told _ step =>
    refine List.forall_mem_cons.2 ⟨?_, step⟩
    cases told <;> rfl
  | passing _ _ step => exact step

namespace Batch

variable {files : Files} {paths : List Path} {batch : Batch} {present : Path → Bool} {mode : Mode}

/-- The errors of a report bear its path. -/
theorem source_of_mem_errors {path : Path} {error : Broken}
    (member : error ∈ (batch.report present mode path).errors) : error.source = path := by
  unfold report at member
  cases known : batch.get? path with
  | none => simp [known] at member
  | some index =>
    simp only [known] at member
    exact (batch.accounts_examineAll present mode path index.references).source_eq error member

/-- The documents that are reported stand at the start of the list, and each has its report. -/
theorem exists_reported (batch : Batch) (present : Path → Bool) (mode : Mode)
    (documents : List Path) :
    ∃ reported left, documents = reported ++ left ∧
      batch.reportAll present mode documents = reported.map (batch.report present mode) ∧
        (left ≠ [] → mode = .failFast ∧
          CheckOutcome.errors (batch.reportAll present mode documents) ≠ []) := by
  induction documents with
  | nil => exact ⟨[], [], rfl, rfl, by simp⟩
  | cons path rest step =>
    obtain ⟨reported, left, whole, reports, stops⟩ := step
    unfold reportAll
    by_cases ends : (!(batch.report present mode path).isSound && mode == .failFast) = true
    · rw [if_pos ends]
      simp only [Bool.and_eq_true, Bool.not_eq_true', beq_iff_eq] at ends
      refine ⟨[path], rest, rfl, rfl, fun _ => ⟨ends.2, ?_⟩⟩
      simpa [CheckOutcome.errors, Report.isSound] using ends.1
    · rw [if_neg ends]
      refine ⟨path :: reported, left, by rw [whole]; rfl, by rw [reports]; rfl, fun remain => ?_⟩
      obtain ⟨fast, later⟩ := stops remain
      refine ⟨fast, fun none => later ?_⟩
      simp only [CheckOutcome.errors, List.flatMap_cons, List.append_eq_nil_iff] at none
      exact none.2

/-- The documents of a batch that is read from listed paths are the different normal forms of the
paths in the order in which they come first. -/
theorem paths_ofFiles (indexed : ofFiles files paths = .ok batch) :
    batch.paths = (paths.map (·.normalize)).eraseDups := by
  obtain ⟨history, rfl, rfl, -⟩ := exists_history indexed
  rw [(follows_ofList history).paths, List.map_map]
  rfl

/-- The documents of a batch that is read from listed paths are their own normal forms. -/
theorem normalize_of_mem_paths (indexed : ofFiles files paths = .ok batch) {key : Path}
    (document : key ∈ batch.paths) : key.normalize = key := by
  obtain ⟨path, -, rfl⟩ := (mem_paths_ofFiles indexed key).1 document
  exact path.normalize_normalize

/-- A report without errors notes every reference of its document. -/
theorem checked_of_sound {path : Path} {index : Index} (known : batch.get? path = some index)
    (sound : (batch.report present mode path).errors = []) :
    (batch.report present mode path).checked = index.references.map batch.examine := by
  have passes := (batch.report_errors_eq_nil_iff present mode path).1 sound index known
  obtain ⟨examined, left, whole, notes, stops⟩ :=
    batch.exists_examined present mode path index.references
  have all : left = [] := by
    by_contra remain
    obtain ⟨-, last, final, fails⟩ := stops remain
    have listed : last ∈ index.references := by
      rw [whole]
      exact List.mem_append_left left (List.mem_of_getLast? final)
    exact (broken?_eq_none_iff_not_fails present batch path last).1 (passes last listed) fails
  have made : (batch.report present mode path).checked =
      (batch.examineAll present mode path index.references).1 := by
    simp only [report, known]
  rw [made, notes, whole, all, List.append_nil]

/-- Reports without errors note the references of their documents one after the other. -/
theorem flatMap_checked_of_sound {documents : List Path} {indexes : List Index}
    (known : List.Forall₂ (fun key index => batch.get? key = some index) documents indexes)
    (sound : ∀ path ∈ documents, (batch.report present mode path).errors = []) :
    (documents.map (batch.report present mode)).flatMap (·.checked) =
      (indexes.flatMap (·.references)).map batch.examine := by
  induction known with
  | nil => rfl
  | cons first _ step =>
    obtain ⟨head, tail⟩ := List.forall_mem_cons.1 sound
    rw [List.map_cons, List.flatMap_cons, step tail, checked_of_sound first head,
      List.flatMap_cons, List.map_append]

/-- Each document of a batch that is read from listed paths has the index that is kept for it. -/
theorem exists_indexes (indexed : ofFiles files paths = .ok batch) :
    ∃ indexes, List.Forall₂ (fun key index => batch.get? key = some index) batch.paths indexes := by
  have found := Index.forall₂_filterMap batch.get? batch.paths
  have answered : ∀ key ∈ batch.paths, (batch.get? key).isSome = true := by
    intro key document
    rw [isSome_get?_iff, normalize_of_mem_paths indexed document]
    exact document
  rw [List.filter_eq_self.2 answered] at found
  exact ⟨_, found⟩

/-- The reports on documents bear their paths. -/
theorem map_path_report (batch : Batch) (present : Path → Bool) (mode : Mode)
    (documents : List Path) :
    (documents.map (batch.report present mode)).map (·.path) = documents := by
  rw [List.map_map]
  exact (List.map_congr_left fun path _ => batch.report_path present mode path).trans
    (List.map_id documents)

/-- The documents with errors are the sources of the errors. -/
theorem mem_sources_iff (batch : Batch) (present : Path → Bool) (mode : Mode)
    (documents : List Path) (path : Path) :
    path ∈ (CheckOutcome.errors (documents.map (batch.report present mode))).map (·.source) ↔
      ∃ report ∈ documents.map (batch.report present mode),
        report.path = path ∧ report.errors ≠ [] := by
  simp only [CheckOutcome.errors, List.mem_map, List.mem_flatMap]
  constructor
  · rintro ⟨error, ⟨report, ⟨document, listed, rfl⟩, member⟩, rfl⟩
    refine ⟨_, ⟨document, listed, rfl⟩, ?_, List.ne_nil_of_mem member⟩
    rw [report_path, source_of_mem_errors member]
  · rintro ⟨report, ⟨document, listed, rfl⟩, rfl, filled⟩
    obtain ⟨error, member⟩ := List.exists_mem_of_ne_nil _ filled
    refine ⟨error, ⟨_, ⟨document, listed, rfl⟩, member⟩, ?_⟩
    rw [report_path, source_of_mem_errors member]

/-- A check in which something is broken prints the complaints. -/
theorem prints_of_errors (indexed : ofFiles files paths = .ok batch)
    (wrong : CheckOutcome.errors (batch.reports files.present mode) ≠ []) :
    Prints files paths (batch.reports files.present mode)
      (.ofReports (batch.reports files.present mode)) := by
  have unresolved : ∃ path ∈ paths, ∃ index, IsKept files paths path.normalize index ∧
      ∃ reference ∈ index.references, ¬Resolves files paths reference := by
    by_contra all
    refine wrong ((reports_errors_eq_nil_iff indexed mode).2 ?_)
    intro path listed index kept reference member
    by_contra unresolved
    exact all ⟨path, listed, index, kept, reference, member, unresolved⟩
  obtain ⟨reported, left, whole, reports, -⟩ :=
    batch.exists_reported files.present mode batch.paths
  have made : batch.reports files.present mode =
      reported.map (batch.report files.present mode) := reports
  have sources := batch.mem_sources_iff files.present mode reported
  rw [← made] at sources
  have normal : ∀ path ∈ (CheckOutcome.errors (batch.reports files.present mode)).map (·.source),
      path.normalize = path := by
    intro path member
    obtain ⟨report, listed, rfl, -⟩ := (sources path).1 member
    rw [made] at listed
    obtain ⟨document, inReported, rfl⟩ := List.mem_map.1 listed
    rw [report_path]
    apply normalize_of_mem_paths indexed
    rw [whole]
    exact List.mem_append_left left inReported
  rw [CheckOutcome.ofReports_of_errors wrong]
  refine .complaints unresolved (Path.pairwise_sortDistinct _) fun path => ?_
  rw [Path.mem_sortDistinct_iff fun path member other inList =>
    Path.eq_of_components_eq (normal path member) (normal other inList), sources]

/-- Without errors every document is reported, in both modes. -/
theorem reports_of_sound (sound : CheckOutcome.errors (batch.reports present mode) = []) :
    batch.reports present mode = batch.paths.map (batch.report present mode) := by
  obtain ⟨reported, left, whole, reports, stops⟩ := batch.exists_reported present mode batch.paths
  have all : left = [] := by
    by_contra remain
    exact (stops remain).2 sound
  rw [all, List.append_nil] at whole
  rw [Batch.reports, reports, ← whole]

/-- As many references are noted to ask for a heading as do so. -/
theorem length_lookedUp_examine (indexed : ofFiles files paths = .ok batch)
    (references : List Reference) :
    ((references.map batch.examine).filter (·.lookedUp)).length =
      references.countP (·.AsksAmong (paths.map (·.normalize))) := by
  rw [← List.countP_eq_length_filter, List.countP_map]
  apply List.countP_congr
  intro reference _
  rw [Function.comp_apply, batch.lookedUp_examine_iff, paths_ofFiles indexed, decide_eq_true_iff]
  simp only [Reference.AsksAmong, List.mem_eraseDups]

/-- The statistics of reports without errors are those of the kept indexes. -/
theorem statistics_of_sound (indexed : ofFiles files paths = .ok batch) {indexes : List Index}
    (known : List.Forall₂ (fun key index => batch.get? key = some index) batch.paths indexes)
    (sound : CheckOutcome.errors (batch.reports present mode) = []) :
    CheckOutcome.statistics (batch.reports present mode) =
      .allSound (indexes.flatMap (·.references)).length
        ((indexes.flatMap (·.references)).countP (·.AsksAmong (paths.map (·.normalize))))
        (paths.map (·.normalize)).eraseDups.length := by
  have clean := (batch.reportAll_errors_eq_nil_iff present mode batch.paths).1 sound
  have notes := flatMap_checked_of_sound known clean
  rw [← reports_of_sound sound] at notes
  have many : (batch.reports present mode).length =
      (paths.map (·.normalize)).eraseDups.length := by
    rw [reports_of_sound sound, List.length_map, paths_ofFiles indexed]
  unfold CheckOutcome.statistics
  simp only [notes, many, length_lookedUp_examine indexed, List.length_map]

/-- The kept indexes are those with which a batch that is read from listed paths answers. -/
theorem forall₂_isKept (indexed : ofFiles files paths = .ok batch) {indexes : List Index}
    (known : List.Forall₂ (fun key index => batch.get? key = some index) batch.paths indexes) :
    List.Forall₂ (IsKept files paths) (paths.map (·.normalize)).eraseDups indexes := by
  rw [← paths_ofFiles indexed]
  refine List.forall₂_iff_zip.2 ⟨known.length_eq, fun {key index} inBoth => ?_⟩
  have document := (List.of_mem_zip inBoth).1
  have answered := (List.forall₂_iff_zip.1 known).2 inBoth
  rw [get?_ofFiles_eq_some_iff indexed, normalize_of_mem_paths indexed document] at answered
  exact answered

/-- A check in which nothing is broken prints the statistics. -/
theorem prints_of_sound (indexed : ofFiles files paths = .ok batch)
    (sound : CheckOutcome.errors (batch.reports files.present mode) = []) :
    Prints files paths (batch.reports files.present mode)
      (.ofReports (batch.reports files.present mode)) := by
  obtain ⟨indexes, known⟩ := exists_indexes indexed
  have resolved := (reports_errors_eq_nil_iff indexed mode).1 sound
  rw [CheckOutcome.ofReports_of_sound sound, statistics_of_sound indexed known sound]
  exact .statistics resolved (forall₂_isKept indexed known) rfl rfl rfl

end Batch

/-- Checking documents that can be read prints the traces of the reports, which go through the
documents in the order in which they are first listed, and then the complaints or the statistics. If
it fails, it says how many errors there are. -/
theorem runReferenceCheck_prints {files : Files} {paths : List Path}
    (readable : ∀ path ∈ paths, ∃ text, files.read path = .ok text) (mode : Mode) :
    ∃ reports, checkReferences files paths mode = .ok reports ∧
      reports.map (·.path) <+: (paths.map (·.normalize)).eraseDups ∧
      (mode = .collect → reports.map (·.path) = (paths.map (·.normalize)).eraseDups) ∧
      Prints files paths reports (runReferenceCheck files paths mode) ∧
      ∀ failure, (runReferenceCheck files paths mode).result = .error failure →
        failure.message =
          toString (reports.flatMap (·.errors)).length ++ " broken reference(s)" := by
  obtain ⟨batch, indexed⟩ := (Batch.exists_ofFiles_iff files paths).2 readable
  have checks : checkReferences files paths mode = .ok (batch.reports files.present mode) := by
    simp [checkReferences, indexed]
  obtain ⟨reported, left, whole, reports, -⟩ :=
    batch.exists_reported files.present mode batch.paths
  have prints : Prints files paths (batch.reports files.present mode)
      (runReferenceCheck files paths mode) := by
    rw [runReferenceCheck, checks]
    by_cases sound : CheckOutcome.errors (batch.reports files.present mode) = []
    · exact Batch.prints_of_sound indexed sound
    · exact Batch.prints_of_errors indexed sound
  rw [← Batch.paths_ofFiles indexed]
  refine ⟨_, checks, ?_, ?_, prints, fun _ => prints.message_of_failed⟩
  · rw [Batch.reports, reports, batch.map_path_report, whole]
    exact List.prefix_append reported left
  · rintro rfl
    rw [Batch.reports, batch.reportAll_collect, batch.map_path_report]

/-- Two documents with broken links. As a text the path of the first one is less, but its folder has
the greater name. -/
def brokenPair : Files where
  read path :=
    if path = ⟨"a-b/x.md"⟩ then .ok "[x](gone.md) [y](../a/x.md#none)\n"
    else if path = ⟨"a/x.md"⟩ then .ok "[z](gone.md)\n"
    else .error .notFound
  present path := path = ⟨"a-b/x.md"⟩ ∨ path = ⟨"a/x.md"⟩

/-- The paths of the two documents. -/
def brokenPairPaths : List Path := [⟨"a-b/x.md"⟩, ⟨"a/x.md"⟩]

/-- Two documents with links that resolve, one to a heading of the other, one to an own heading and
one to the other as a whole. -/
def soundPair : Files where
  read path :=
    if path.normalize = ⟨"x.md"⟩ then .ok "## Top\n[x](y.md#end) [y](#top) [z](y.md)\n"
    else if path.normalize = ⟨"y.md"⟩ then .ok "## End\n"
    else .error .notFound
  present path := path.normalize = ⟨"x.md"⟩ ∨ path.normalize = ⟨"y.md"⟩

/-- The paths of the two documents, of which the first one is listed again. -/
def soundPairPaths : List Path := [⟨"x.md"⟩, ⟨"y.md"⟩, ⟨"./x.md"⟩]

/-- The errors of the broken pair are told in the order of the list and its documents in that of
their components. Of the sound pair it is told how much was checked. -/
theorem runReferenceCheck_prints_pairs :
    ((∀ path ∈ brokenPairPaths, ∃ text, brokenPair.read path = .ok text) ∧
      (runReferenceCheck brokenPair brokenPairPaths .collect).records.map (·.line "12:00:00") =
        ["12:00:00 [ERROR] (doc_check): a-b/x.md: reference to missing file a-b/gone.md\n",
          "12:00:00 [ERROR] (doc_check): " ++
            "a-b/x.md: reference to missing heading a-b/../a/x.md#none\n",
          "12:00:00 [ERROR] (doc_check): a/x.md: reference to missing file a/gone.md\n",
          "12:00:00 [ERROR] (doc_check): Broken references in the following files:\n",
          "12:00:00 [ERROR] (doc_check):   a/x.md\n",
          "12:00:00 [ERROR] (doc_check):   a-b/x.md\n"] ∧
      ∃ reports, checkReferences brokenPair brokenPairPaths .collect = .ok reports ∧
        Prints brokenPair brokenPairPaths reports
          (runReferenceCheck brokenPair brokenPairPaths .collect)) ∧
    (∀ path ∈ soundPairPaths, ∃ text, soundPair.read path = .ok text) ∧
      (runReferenceCheck soundPair soundPairPaths .collect).records.map (·.line "12:00:00") =
        ["12:00:00 [INFO] (doc_check): " ++
          "Validated 3 reference(s) (2 anchor(s) looked up) in 2 document(s)\n"] ∧
      ∃ reports, checkReferences soundPair soundPairPaths .collect = .ok reports ∧
        Prints soundPair soundPairPaths reports
          (runReferenceCheck soundPair soundPairPaths .collect) := by
  have brokenReadable : ∀ path ∈ brokenPairPaths, ∃ text, brokenPair.read path = .ok text := by
    simp [brokenPair, brokenPairPaths]
  have soundReadable : ∀ path ∈ soundPairPaths, ∃ text, soundPair.read path = .ok text := by
    have first : (⟨"x.md"⟩ : Path).normalize = ⟨"x.md"⟩ := by decide +kernel
    have second : (⟨"y.md"⟩ : Path).normalize = ⟨"y.md"⟩ := by decide +kernel
    have third : (⟨"./x.md"⟩ : Path).normalize = ⟨"x.md"⟩ := by decide +kernel
    simp [soundPair, soundPairPaths, first, second, third]
  obtain ⟨broken, checkedBroken, -, -, printsBroken, -⟩ :=
    runReferenceCheck_prints brokenReadable .collect
  obtain ⟨sound, checkedSound, -, -, printsSound, -⟩ :=
    runReferenceCheck_prints soundReadable .collect
  exact ⟨⟨brokenReadable, by decide +kernel, broken, checkedBroken, printsBroken⟩,
    soundReadable, by decide +kernel, sound, checkedSound, printsSound⟩

end Handbook
