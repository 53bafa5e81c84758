import Mathlib.Data.List.Forall2
import Handbook.Proofs.Check.FailFast
import Handbook.Proofs.Check.Verdict

/-!
# What a report accounts for

A report says three things about each reference that was examined: whether its anchor was looked up,
what is wrong with it, and how it is shown in the trace. `Report.Faithful` ties the three to one
another and to the document, without saying how a report is made: the anchor is looked up exactly
when the reference asks for a heading of a document of the batch, the errors are those of the
references that fail, one for each, and their kinds and the anchors in the trace follow the look-up.
-/
namespace Handbook

/-- A reference with an anchor, not empty, into one of the given documents. -/
def Reference.AsksAmong (documents : List Path) (reference : Reference) : Prop :=
  (∃ anchor ∈ reference.anchor, anchor ≠ "") ∧ reference.target.normalize ∈ documents

/-- Whether a reference asks for a heading of one of the documents can be computed. -/
instance (documents : List Path) : DecidablePred (Reference.AsksAmong documents) := fun reference =>
  inferInstanceAs (Decidable
    ((∃ anchor ∈ reference.anchor, anchor ≠ "") ∧ reference.target.normalize ∈ documents))

/-- How a reference fails. -/
inductive Reference.Fails (present : Path → Bool) (batch : Batch) (reference : Reference) : Prop
  /-- It asks for a heading that the document of the batch does not have. -/
  | heading {anchor : String} {index : Index} : reference.anchor = some anchor → anchor ≠ "" →
    batch.get? reference.target = some index → anchor ∉ index.anchors →
    Fails present batch reference
  /-- It does not ask for a heading, and nothing is at its target as it is spelled. -/
  | entry : ¬reference.AsksAmong batch.paths → present reference.target = false →
    Fails present batch reference

namespace Checked

/-- The error that tells of an examined reference: its kind is decided by whether the anchor was
looked up. -/
inductive ToldBy (source : Path) (checked : Checked) : Broken → Prop
  /-- The anchor was looked up in vain. -/
  | dangling {anchor : String} : checked.lookedUp = true → checked.reference.anchor = some anchor →
    ToldBy source checked (.danglingAnchor source checked.reference.target anchor)
  /-- Only the target was looked for. -/
  | missing : checked.lookedUp = false →
    ToldBy source checked (.missingFile source checked.reference.target)

/-- The entry of an examined reference in a trace. -/
inductive ShownAs (checked : Checked) : String → Prop
  /-- The anchor that was looked up stands behind the target. -/
  | anchored {anchor : String} : checked.lookedUp = true → checked.reference.anchor = some anchor →
    ShownAs checked ("  " ++ (checked.reference.target.spelling ++ "#" ++ anchor) ++ "\n")
  /-- Without a look-up the target stands alone. -/
  | plain : checked.lookedUp = false →
    ShownAs checked ("  " ++ checked.reference.target.spelling ++ "\n")

/-- The errors that examined references give rise to: in their order one for each that fails, and
none for any other. -/
inductive Accounts (present : Path → Bool) (batch : Batch) (source : Path) :
    List Checked → List Broken → Prop
  /-- Without references there are no errors. -/
  | none : Accounts present batch source [] []
  /-- A reference that fails has the next error. -/
  | failing {checked : Checked} {rest : List Checked} {error : Broken} {errors : List Broken} :
    checked.reference.Fails present batch → checked.ToldBy source error →
      Accounts present batch source rest errors →
        Accounts present batch source (checked :: rest) (error :: errors)
  /-- A reference that does not fail has no error. -/
  | passing {checked : Checked} {rest : List Checked} {errors : List Broken} :
    ¬checked.reference.Fails present batch → Accounts present batch source rest errors →
      Accounts present batch source (checked :: rest) errors

end Checked

/-- What a report on a document with the given references owes to them. -/
structure Report.Faithful (present : Path → Bool) (batch : Batch) (mode : Mode) (path : Path)
    (references : List Reference) (report : Report) : Prop where
  /-- The report bears the path of the document. -/
  source : report.path = path
  /-- The references are examined in their order, with repetitions. -/
  ordered : report.checked.map (·.reference) <+: references
  /-- Unless the check stops at a broken reference, all of them are examined. -/
  complete : mode = .collect → report.checked.map (·.reference) = references
  /-- A check that stops does so only at a reference that fails. -/
  stopped : report.checked.map (·.reference) = references ∨
    ∃ last ∈ report.checked.getLast?, last.reference.Fails present batch
  /-- An anchor is looked up when it is not empty and the target is a document of the batch. -/
  lookedUp : ∀ checked ∈ report.checked,
    checked.lookedUp = true ↔ checked.reference.AsksAmong batch.paths
  /-- The errors are those of the references that fail. -/
  errors : Checked.Accounts present batch path report.checked report.errors
  /-- The trace names the document and has one entry for each reference that was examined. -/
  trace : ∃ entries, List.Forall₂ Checked.ShownAs report.checked entries ∧
    report.trace = "CHECK " ++ path.spelling ++ "\n" ++ String.join entries

namespace Batch

variable {present : Path → Bool} {batch : Batch} {source : Path}

/-- No anchor is looked for exactly when the reference asks for no heading of a document of the
batch. -/
theorem lookup?_eq_none_iff_not_asksAmong (reference : Reference) (batch : Batch) :
    reference.lookup? batch = none ↔ ¬reference.AsksAmong batch.paths := by
  rw [reference.lookup?_eq_none_iff, Reference.AsksAmong]
  cases reference.anchor with
  | none => simp
  | some anchor => by_cases empty : anchor = "" <;> simp [empty]

/-- The note on an examined reference says whether it asks for a heading of a document of the
batch. -/
theorem lookedUp_examine_iff (batch : Batch) (reference : Reference) :
    (batch.examine reference).lookedUp = true ↔ reference.AsksAmong batch.paths := by
  rw [← not_iff_not, ← lookup?_eq_none_iff_not_asksAmong, examine]
  simp

/-- A reference fails when its anchor is looked for in vain, or when no anchor is looked for and the
target does not exist. -/
theorem fails_iff (present : Path → Bool) (batch : Batch) (reference : Reference) :
    reference.Fails present batch ↔
      (∃ anchor index, reference.lookup? batch = some (index, anchor) ∧ anchor ∉ index.anchors) ∨
        (reference.lookup? batch = none ∧ present reference.target = false) := by
  constructor
  · intro fails
    cases fails with
    | heading written filled known unheard =>
      have found := (reference.lookup?_eq_some_iff batch _ _).2 ⟨written, filled, known⟩
      exact .inl ⟨_, _, found, unheard⟩
    | entry unasked absent =>
      exact .inr ⟨(lookup?_eq_none_iff_not_asksAmong reference batch).2 unasked, absent⟩
  · rintro (⟨anchor, index, found, unheard⟩ | ⟨unasked, absent⟩)
    · obtain ⟨written, filled, known⟩ := (reference.lookup?_eq_some_iff batch _ _).1 found
      exact .heading written filled known unheard
    · exact .entry ((lookup?_eq_none_iff_not_asksAmong reference batch).1 unasked) absent

/-- Nothing is wrong with a reference exactly when it does not fail. -/
theorem broken?_eq_none_iff_not_fails (present : Path → Bool) (batch : Batch) (source : Path)
    (reference : Reference) :
    reference.broken? present batch source = none ↔ ¬reference.Fails present batch := by
  rw [fails_iff, Reference.broken?_eq_none_iff]
  cases reference.lookup? batch with
  | none => simp
  | some pair =>
    obtain ⟨index, anchor⟩ := pair
    simp only [Option.some.injEq, Prod.mk.injEq, reduceCtorEq, false_and, or_false]
    constructor
    · rintro ⟨_, _, ⟨rfl, rfl⟩, heard⟩ ⟨_, _, ⟨rfl, rfl⟩, unheard⟩
      exact unheard heard
    · intro passes
      by_contra unheard
      exact passes ⟨anchor, index, ⟨rfl, rfl⟩, fun heard =>
        unheard ⟨anchor, index, ⟨rfl, rfl⟩, heard⟩⟩

/-- A reference with which something is wrong fails. -/
theorem fails_of_broken? {reference : Reference} {error : Broken}
    (wrong : reference.broken? present batch source = some error) :
    reference.Fails present batch := by
  by_contra passes
  rw [← broken?_eq_none_iff_not_fails present batch source, wrong] at passes
  exact absurd passes (by simp)

/-- What is wrong with a reference is told by its note. -/
theorem toldBy_of_broken? {reference : Reference} {error : Broken}
    (wrong : reference.broken? present batch source = some error) :
    (batch.examine reference).ToldBy source error := by
  unfold Reference.broken? at wrong
  cases found : reference.lookup? batch with
  | none =>
    have unasked : (batch.examine reference).lookedUp = false := by simp [examine, found]
    simp only [found] at wrong
    split at wrong
    · simp at wrong
    · rw [← Option.some.inj wrong]
      exact .missing unasked
  | some pair =>
    obtain ⟨index, anchor⟩ := pair
    obtain ⟨written, -, -⟩ := (reference.lookup?_eq_some_iff batch _ _).1 found
    have asked : (batch.examine reference).lookedUp = true := by simp [examine, found]
    simp only [found] at wrong
    split at wrong
    · simp at wrong
    · rw [← Option.some.inj wrong]
      exact .dangling asked written

/-- The errors of examined references are those of the ones that fail. -/
theorem accounts_examineAll (batch : Batch) (present : Path → Bool) (mode : Mode) (source : Path)
    (references : List Reference) :
    Checked.Accounts present batch source (batch.examineAll present mode source references).1
      (batch.examineAll present mode source references).2 := by
  induction references with
  | nil => exact .none
  | cons reference rest step =>
    cases wrong : reference.broken? present batch source with
    | none =>
      have passes := (broken?_eq_none_iff_not_fails present batch source reference).1 wrong
      rw [examineAll_cons_of_sound mode wrong]
      exact .passing passes step
    | some error =>
      have fails := fails_of_broken? wrong
      have told := toldBy_of_broken? wrong
      cases mode with
      | collect =>
        rw [examineAll_collect_cons wrong]
        exact .failing fails told step
      | failFast =>
        rw [examineAll_failFast_cons wrong]
        exact .failing fails told .none

/-- The references that are examined stand at the start of the list, and if others are left over, a
check that stops has come to one that fails. -/
theorem exists_examined (batch : Batch) (present : Path → Bool) (mode : Mode) (source : Path)
    (references : List Reference) :
    ∃ examined left, references = examined ++ left ∧
      (batch.examineAll present mode source references).1 = examined.map batch.examine ∧
        (left ≠ [] → mode = .failFast ∧ ∃ last ∈ examined.getLast?, last.Fails present batch) := by
  induction references with
  | nil => exact ⟨[], [], rfl, rfl, by simp⟩
  | cons reference rest step =>
    obtain ⟨examined, left, whole, notes, stops⟩ := step
    -- One more reference in front does not change at which one the check stops.
    have goesOn : left ≠ [] → mode = .failFast ∧
        ∃ last ∈ (reference :: examined).getLast?, last.Fails present batch := by
      intro remain
      obtain ⟨fast, last, final, fails⟩ := stops remain
      rw [Option.mem_def] at final
      exact ⟨fast, last, by simp [List.getLast?_cons, final], fails⟩
    cases wrong : reference.broken? present batch source with
    | none =>
      refine ⟨reference :: examined, left, by rw [whole]; rfl, ?_, goesOn⟩
      rw [examineAll_cons_of_sound mode wrong, notes, List.map_cons]
    | some error =>
      cases mode with
      | collect =>
        refine ⟨reference :: examined, left, by rw [whole]; rfl, ?_, goesOn⟩
        rw [examineAll_collect_cons wrong, notes, List.map_cons]
      | failFast =>
        have fails := fails_of_broken? wrong
        exact ⟨[reference], rest, rfl, by rw [examineAll_failFast_cons wrong]; rfl,
          fun _ => ⟨rfl, reference, rfl, fails⟩⟩

end Batch

namespace Checked

/-- The entry under which an examined reference is shown, if its anchor was looked up only where it
has one. -/
theorem shownAs_shown {checked : Checked}
    (anchored : checked.lookedUp = true → ∃ anchor, checked.reference.anchor = some anchor) :
    checked.ShownAs ("  " ++ checked.shown ++ "\n") := by
  obtain ⟨⟨target, anchor⟩, lookedUp⟩ := checked
  cases lookedUp with
  | false =>
    have plain : (Checked.mk ⟨target, anchor⟩ false).shown = target.spelling := by
      cases anchor <;> rfl
    rw [plain]
    exact .plain rfl
  | true =>
    obtain ⟨anchor, rfl⟩ := anchored rfl
    exact .anchored rfl rfl

end Checked

namespace Batch

variable {batch : Batch} {path : Path}

/-- The trace of noted references has an entry for each of them. -/
theorem shownAs_map_examine (batch : Batch) (examined : List Reference) :
    List.Forall₂ Checked.ShownAs (examined.map batch.examine)
      ((examined.map batch.examine).map fun checked => "  " ++ checked.shown ++ "\n") := by
  rw [List.forall₂_map_right_iff, List.forall₂_same]
  intro checked member
  obtain ⟨reference, -, rfl⟩ := List.mem_map.1 member
  apply Checked.shownAs_shown
  intro looked
  obtain ⟨⟨anchor, written, -⟩, -⟩ := (batch.lookedUp_examine_iff reference).1 looked
  exact ⟨anchor, written⟩

/-- For every document of a batch, in both modes and whatever is on disk, the report is faithful to
the references of the document. -/
theorem report_faithful (listed : path.normalize ∈ batch.paths) (present : Path → Bool)
    (mode : Mode) : ∃ index, batch.get? path = some index ∧
      (batch.report present mode path).Faithful present batch mode path index.references := by
  obtain ⟨index, known⟩ := Option.isSome_iff_exists.1 ((batch.isSome_get?_iff path).2 listed)
  obtain ⟨examined, left, whole, notes, stops⟩ :=
    batch.exists_examined present mode path index.references
  have accounts := batch.accounts_examineAll present mode path index.references
  have made : batch.report present mode path =
      ⟨path, examined.map batch.examine,
        (batch.examineAll present mode path index.references).2⟩ := by
    simp only [report, known, notes]
  have references : (examined.map batch.examine).map (·.reference) = examined := by
    simp [examine, Function.comp_def]
  rw [notes] at accounts
  refine ⟨index, known, ?_⟩
  rw [made]
  refine
    { source := rfl
      ordered := ?_
      complete := ?_
      stopped := ?_
      lookedUp := ?_
      errors := accounts
      trace := ⟨_, batch.shownAs_map_examine examined, rfl⟩ }
  · rw [references, whole]
    exact List.prefix_append examined left
  · rintro rfl
    have all : left = [] := by
      by_contra remain
      exact absurd (stops remain).1 (by decide)
    rw [references, whole, all, List.append_nil]
  · rw [references, whole]
    by_cases remain : left = []
    · left
      rw [remain, List.append_nil]
    · right
      obtain ⟨-, last, final, fails⟩ := stops remain
      refine ⟨batch.examine last, ?_, fails⟩
      rw [List.getLast?_map]
      exact Option.mem_map_of_mem batch.examine final
  · intro checked member
    obtain ⟨reference, -, rfl⟩ := List.mem_map.1 member
    exact batch.lookedUp_examine_iff reference

/-- A batch of one document, which links to a heading that it does not have, twice, and to a heading
of a document that is not in the batch. -/
def loneDocument : Batch :=
  ofList [(⟨"a.md"⟩, ⟨["top"],
    [⟨⟨"./a.md"⟩, some "end"⟩, ⟨⟨"b.md"⟩, some "end"⟩, ⟨⟨"./a.md"⟩, some "end"⟩]⟩)]

/-- The document is reported under the path by which it is asked for; of the two kinds of errors the
one for the other document is that nothing is there. -/
theorem report_faithful_loneDocument :
    (⟨"docs/../a.md"⟩ : Path).normalize ∈ loneDocument.paths ∧
      (loneDocument.report (fun _ => false) .collect ⟨"docs/../a.md"⟩).errors =
        [.danglingAnchor ⟨"docs/../a.md"⟩ ⟨"./a.md"⟩ "end",
          .missingFile ⟨"docs/../a.md"⟩ ⟨"b.md"⟩,
          .danglingAnchor ⟨"docs/../a.md"⟩ ⟨"./a.md"⟩ "end"] ∧
      (loneDocument.report (fun _ => false) .collect ⟨"docs/../a.md"⟩).trace =
        "CHECK docs/../a.md\n  ./a.md#end\n  b.md\n  ./a.md#end\n" ∧
      ∃ index, loneDocument.get? ⟨"docs/../a.md"⟩ = some index ∧
        (loneDocument.report (fun _ => false) .collect ⟨"docs/../a.md"⟩).Faithful (fun _ => false)
          loneDocument .collect ⟨"docs/../a.md"⟩ index.references := by
  have listed : (⟨"docs/../a.md"⟩ : Path).normalize ∈ loneDocument.paths := by decide +kernel
  exact ⟨listed, by decide +kernel, by decide +kernel,
    report_faithful listed (fun _ => false) .collect⟩

end Batch

end Handbook
