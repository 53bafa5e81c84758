import Mathlib.Data.List.Forall2
import Handbook.Proofs.Check.History
import Handbook.Proofs.Disk.Folders
import Handbook.Proofs.Document.LinkGrammar
import Handbook.Check.Report

/-!
# Other spellings of the documents

A check of documents that are listed under other spellings gives the same reports, except that the
targets of references are spelled otherwise. The indexes of two readable spellings of a document are
alike: their references have targets with one normal form, and either both targets exist or neither
does. Every step of a check makes alike results of what is alike.
-/
namespace Handbook

variable {present : Path → Bool}

/-- Two references that differ at most in the spelling of their targets. -/
structure Reference.Respells (left right : Reference) : Prop where
  /-- The targets have one normal form. -/
  target : left.target.normalize = right.target.normalize
  /-- The anchor is the same. -/
  anchor : left.anchor = right.anchor

/-- Two examined references that differ at most in the spelling of their targets. -/
structure Checked.Respells (left right : Checked) : Prop where
  /-- The references are the same up to spelling. -/
  reference : left.reference.Respells right.reference
  /-- Both anchors were looked up or neither was. -/
  lookedUp : left.lookedUp = right.lookedUp

/-- Two broken references of one document that are broken in the same way and differ at most in the
spelling of their targets. -/
inductive Broken.Respells : Broken → Broken → Prop
  /-- Nothing is at either target. -/
  | missingFile {source left right : Path} : left.normalize = right.normalize →
    Respells (.missingFile source left) (.missingFile source right)
  /-- Neither target has a heading with the anchor. -/
  | danglingAnchor {source left right : Path} {anchor : String} : left.normalize = right.normalize →
    Respells (.danglingAnchor source left anchor) (.danglingAnchor source right anchor)

/-- Two reports on one document that differ at most in the spelling of targets. -/
structure Report.Respells (left right : Report) : Prop where
  /-- The document has the same path. -/
  path : left.path = right.path
  /-- The same references were examined, in the same order. -/
  checked : List.Forall₂ Checked.Respells left.checked right.checked
  /-- The same references are broken, in the same order. -/
  errors : List.Forall₂ Broken.Respells left.errors right.errors

/-- Reports that are the same up to spelling are both free of errors or neither is. -/
theorem Report.Respells.isSound_eq {report other : Report}
    (respells : report.Respells other) : report.isSound = other.isSound := by
  have errors := respells.errors
  unfold Report.isSound
  generalize report.errors = broken at errors ⊢
  generalize other.errors = wrong at errors ⊢
  cases errors with
  | nil => rfl
  | cons _ _ => rfl

/-- Two references that a check treats alike: the targets are the same up to spelling, and either
both exist or neither does. -/
structure Reference.Alike (present : Path → Bool) (left right : Reference) : Prop extends
    Reference.Respells left right where
  /-- Both targets exist or neither does. -/
  present : present left.target = present right.target

/-- Two indexes with the same anchors and alike references. -/
structure Index.Alike (present : Path → Bool) (left right : Index) : Prop where
  /-- The anchors are the same. -/
  anchors : left.anchors = right.anchors
  /-- The references are alike, one by one. -/
  references : List.Forall₂ (Reference.Alike present) left.references right.references

namespace Batch

/-- Two documents under one key with alike indexes. -/
def AlikeDocument (present : Path → Bool) (document other : Path × Index) : Prop :=
  document.1 = other.1 ∧ Index.Alike present document.2 other.2

/-- Two documents under spellings of one path with alike indexes. -/
def AlikeEntry (present : Path → Bool) (document other : Path × Index) : Prop :=
  document.1.normalize = other.1.normalize ∧ Index.Alike present document.2 other.2

/-- Two batches of the same documents with alike indexes. -/
def Alike (present : Path → Bool) (left right : Batch) : Prop :=
  List.Forall₂ (AlikeDocument present) left.documents right.documents

variable {left right : Batch}

/-- Putting alike indexes under one key leaves documents alike. -/
theorem putPair_alike {key : Path} {index other : Index} (new : Index.Alike present index other)
    {documents others : List (Path × Index)}
    (alike : List.Forall₂ (AlikeDocument present) documents others) :
    List.Forall₂ (AlikeDocument present) (putPair key index documents)
      (putPair key other others) := by
  induction alike with
  | nil => exact .cons ⟨rfl, new⟩ .nil
  | @cons document another rest more known later step =>
    obtain ⟨path, old⟩ := document
    obtain ⟨spelled, stored⟩ := another
    obtain ⟨same, kept⟩ := known
    obtain rfl : path = spelled := same
    unfold putPair
    by_cases found : path = key
    · rw [if_pos found, if_pos found]
      exact .cons ⟨rfl, new⟩ later
    · rw [if_neg found, if_neg found]
      exact .cons ⟨rfl, kept⟩ step

/-- Alike documents have alike indexes under a key. -/
theorem lookup_alike (key : Path) {documents others : List (Path × Index)}
    (alike : List.Forall₂ (AlikeDocument present) documents others) :
    Option.Rel (Index.Alike present) (documents.lookup key) (others.lookup key) := by
  induction alike with
  | nil => exact .none
  | @cons document another rest more known later step =>
    obtain ⟨path, index⟩ := document
    obtain ⟨spelled, stored⟩ := another
    obtain ⟨same, new⟩ := known
    obtain rfl : path = spelled := same
    rw [List.lookup_cons, List.lookup_cons]
    cases key == path with
    | true => exact .some new
    | false => exact step

/-- Inserting alike indexes under two spellings of a path leaves batches alike. -/
theorem Alike.insert (alike : Alike present left right) {path spelled : Path}
    (same : path.normalize = spelled.normalize) {index other : Index}
    (new : Index.Alike present index other) :
    Alike present (left.insert path index) (right.insert spelled other) := by
  unfold Batch.insert
  rw [same]
  exact putPair_alike new alike

/-- Histories with alike indexes under spellings of the same paths make alike batches. -/
theorem Alike.ofList {history others : List (Path × Index)}
    (alike : List.Forall₂ (AlikeEntry present) history others) :
    Alike present (Batch.ofList history) (Batch.ofList others) := by
  have grows : ∀ {left right : Batch}, Alike present left right →
      Alike present (history.foldl (fun batch document => batch.insert document.1 document.2) left)
        (others.foldl (fun batch document => batch.insert document.1 document.2) right) := by
    induction alike with
    | nil => exact id
    | cons known _ step => exact fun batches => step (batches.insert known.1 known.2)
  exact grows .nil

/-- Alike batches have the same documents in the same order. -/
theorem Alike.paths_eq (alike : Alike present left right) : left.paths = right.paths := by
  have keys := List.Forall₂.imp (fun _ _ both => both.1) alike
  rw [← List.forall₂_eq_eq_eq, paths, paths, List.forall₂_map_left_iff,
    List.forall₂_map_right_iff]
  exact keys

/-- Alike batches have alike indexes under two spellings of a path. -/
theorem Alike.get? (alike : Alike present left right) {path spelled : Path}
    (same : path.normalize = spelled.normalize) :
    Option.Rel (Index.Alike present) (left.get? path) (right.get? spelled) := by
  unfold Batch.get?
  rw [same]
  exact lookup_alike spelled.normalize alike

end Batch

namespace Reference

variable {left right : Batch} {reference other : Reference}

/-- Alike references look for one anchor in alike indexes. -/
theorem Alike.lookup? (batches : Batch.Alike present left right)
    (alike : Reference.Alike present reference other) :
    Option.Rel (fun pair another => Index.Alike present pair.1 another.1 ∧ pair.2 = another.2)
      (reference.lookup? left) (other.lookup? right) := by
  unfold Reference.lookup?
  rw [alike.anchor]
  cases other.anchor with
  | none => exact .none
  | some anchor =>
    have indexes := batches.get? alike.target
    by_cases empty : anchor = ""
    · simp only [if_pos empty]
      exact .none
    · simp only [if_neg empty]
      generalize left.get? reference.target = found at indexes ⊢
      generalize right.get? other.target = known at indexes ⊢
      cases indexes with
      | none => exact .none
      | some new => exact .some ⟨new, rfl⟩

/-- The anchors of alike references are looked up alike. -/
theorem Alike.examine (batches : Batch.Alike present left right)
    (alike : Reference.Alike present reference other) :
    Checked.Respells (left.examine reference) (right.examine other) := by
  have found := alike.lookup? batches
  refine ⟨alike.toRespells, ?_⟩
  unfold Batch.examine
  generalize reference.lookup? left = pair at found ⊢
  generalize other.lookup? right = another at found ⊢
  cases found with
  | none => rfl
  | some _ => rfl

/-- With alike references the same is wrong. -/
theorem Alike.broken? (batches : Batch.Alike present left right)
    (alike : Reference.Alike present reference other) (source : Path) :
    Option.Rel Broken.Respells (reference.broken? present left source)
      (other.broken? present right source) := by
  have found := alike.lookup? batches
  unfold Reference.broken?
  generalize reference.lookup? left = pair at found ⊢
  generalize other.lookup? right = another at found ⊢
  cases found with
  | none =>
    rw [alike.present]
    cases present other.target with
    | true => exact .none
    | false => exact .some (.missingFile alike.target)
  | @some pair another known =>
    obtain ⟨index, anchor⟩ := pair
    obtain ⟨stored, looked⟩ := another
    obtain ⟨new, same⟩ := known
    obtain rfl : anchor = looked := same
    have headings : index.hasAnchor anchor = stored.hasAnchor anchor := by
      rw [Index.hasAnchor, Index.hasAnchor, new.anchors]
    simp only [headings]
    cases stored.hasAnchor anchor with
    | true => exact .none
    | false => exact .some (.danglingAnchor alike.target)

end Reference

namespace Batch

variable {left right : Batch}

/-- Examining alike references finds the same, and stops at the same place. -/
theorem Alike.examineAll (batches : Alike present left right) (mode : Mode) (source : Path)
    {references others : List Reference}
    (alike : List.Forall₂ (Reference.Alike present) references others) :
    List.Forall₂ Checked.Respells (left.examineAll present mode source references).1
        (right.examineAll present mode source others).1 ∧
      List.Forall₂ Broken.Respells (left.examineAll present mode source references).2
        (right.examineAll present mode source others).2 := by
  induction alike with
  | nil => exact ⟨.nil, .nil⟩
  | @cons reference other rest more known later step =>
    have first := known.examine batches
    have wrong := known.broken? batches source
    unfold Batch.examineAll
    generalize reference.broken? present left source = error at wrong ⊢
    generalize other.broken? present right source = another at wrong ⊢
    cases wrong with
    | none => exact ⟨.cons first step.1, step.2⟩
    | some broken =>
      -- The modes part behind a broken reference only.
      cases mode with
      | failFast => exact ⟨.cons first .nil, .cons broken .nil⟩
      | collect => exact ⟨.cons first step.1, .cons broken step.2⟩

/-- The reports on a document of alike batches are the same up to spelling. -/
theorem Alike.report (batches : Alike present left right) (mode : Mode) (path : Path) :
    Report.Respells (left.report present mode path) (right.report present mode path) := by
  have indexes := batches.get? (Eq.refl path.normalize)
  unfold Batch.report
  generalize left.get? path = found at indexes ⊢
  generalize right.get? path = known at indexes ⊢
  cases indexes with
  | none => exact ⟨rfl, .nil, .nil⟩
  | some new =>
    obtain ⟨checked, errors⟩ := batches.examineAll mode path new.references
    exact ⟨rfl, checked, errors⟩

/-- The reports on the documents of alike batches are the same up to spelling, and end with the same
document. -/
theorem Alike.reportAll (batches : Alike present left right) (mode : Mode)
    (documents : List Path) :
    List.Forall₂ Report.Respells (left.reportAll present mode documents)
      (right.reportAll present mode documents) := by
  induction documents with
  | nil => exact .nil
  | cons path rest step =>
    have first := batches.report mode path
    unfold Batch.reportAll
    simp only [first.isSound_eq]
    split
    · exact .cons first .nil
    · exact .cons first step

end Batch

namespace Link

/-- A link that is found in a text has no empty path. -/
theorem filled_of_mem_scan {text : List Char} {link : Link} (member : link ∈ scan text)
    {path : String} (written : link.path = some path) : path ≠ "" := by
  rw [scan_eq_filterMap_tails] at member
  obtain ⟨tail, -, found⟩ := List.mem_filterMap.1 member
  obtain ⟨⟨other, rest⟩, read, same⟩ := Option.map_eq_some_iff.1 found
  obtain rfl : other = link := same
  obtain ⟨label, -, legal, -⟩ := begins_of_atStart? read
  exact (legal.1 path written).1

end Link

namespace Workspace

variable {workspace : Workspace} {left right : Path} {text : String}

/-- A link of a document points to alike references from two readable spellings of the document. -/
theorem resolve?_alike (unlimited : workspace.pathLimit = none)
    (same : left.normalize = right.normalize) (leftRead : workspace.read left = .ok text)
    (rightRead : workspace.read right = .ok text) {link : Link}
    (filled : ∀ path, link.path = some path → path ≠ "") :
    Option.Rel (Reference.Alike workspace.present) (link.resolve? left) (link.resolve? right) := by
  obtain ⟨path, fragment⟩ := link
  cases path with
  | some path =>
    have targets := normalize_folder_join_congr same leftRead rightRead ⟨path⟩
    have exist := present_folder_join_congr unlimited same leftRead rightRead (filled path rfl)
    exact .some ⟨⟨targets, rfl⟩, exist⟩
  | none =>
    cases fragment with
    | none => exact .none
    | some fragment =>
      -- A fragment alone names the document itself, which is there in both spellings.
      have exist : workspace.present left = workspace.present right := by
        rw [present_of_read leftRead, present_of_read rightRead]
      exact .some ⟨⟨same, rfl⟩, exist⟩

/-- The indexes of two readable spellings of a document are alike. -/
theorem ofText_alike (unlimited : workspace.pathLimit = none)
    (same : left.normalize = right.normalize) (leftRead : workspace.read left = .ok text)
    (rightRead : workspace.read right = .ok text) :
    Index.Alike workspace.present (Index.ofText left text) (Index.ofText right text) := by
  refine ⟨rfl, List.rel_filterMap (R := fun link other => link = other ∧
    ∀ path, link.path = some path → path ≠ "") ?_ ?_⟩
  · rintro link other ⟨rfl, filled⟩
    exact resolve?_alike unlimited same leftRead rightRead filled
  · rw [List.forall₂_same]
    exact fun link member => ⟨rfl, fun path => Link.filled_of_mem_scan member⟩

/-- Two spellings of a document, both of which can be read. -/
def Respelled (workspace : Workspace) (left right : Path) : Prop :=
  left.normalize = right.normalize ∧ (∃ text, workspace.read left = .ok text) ∧
    ∃ text, workspace.read right = .ok text

/-- Documents that are listed under two readable spellings each are indexed alike. -/
theorem exists_indexAll_alike (unlimited : workspace.pathLimit = none) {lefts rights : List Path}
    (respelled : List.Forall₂ workspace.Respelled lefts rights) :
    ∃ history others, workspace.files.indexAll lefts = (history, none) ∧
      workspace.files.indexAll rights = (others, none) ∧
      List.Forall₂ (Batch.AlikeEntry workspace.present) history others := by
  induction respelled with
  | nil => exact ⟨[], [], rfl, rfl, .nil⟩
  | @cons left right _ _ known _ step =>
    obtain ⟨same, ⟨text, leftRead⟩, ⟨other, rightRead⟩⟩ := known
    obtain rfl : text = other := read_unique same leftRead rightRead
    obtain ⟨history, others, leftDone, rightDone, alike⟩ := step
    have leftIndexed := (workspace.files.index_eq_ok_iff left _).2 ⟨text, leftRead, rfl⟩
    have rightIndexed := (workspace.files.index_eq_ok_iff right _).2 ⟨text, rightRead, rfl⟩
    have new := ofText_alike unlimited same leftRead rightRead
    refine ⟨_, _, (workspace.files.indexAll_cons_eq_iff _ _ _).2 ⟨_, _, leftIndexed, leftDone, rfl⟩,
      (workspace.files.indexAll_cons_eq_iff _ _ _).2 ⟨_, _, rightIndexed, rightDone, rfl⟩, ?_⟩
    exact .cons ⟨same, new⟩ alike

/-- Without a limit on the length of paths, checks of documents that are listed under two readable
spellings each give reports that are the same up to the spelling of targets, in both modes. -/
theorem checkReferences_respells (unlimited : workspace.pathLimit = none)
    {lefts rights : List Path} (respelled : List.Forall₂ workspace.Respelled lefts rights)
    (mode : Mode) :
    ∃ reports others, checkReferences workspace.files lefts mode = .ok reports ∧
      checkReferences workspace.files rights mode = .ok others ∧
      List.Forall₂ Report.Respells reports others := by
  obtain ⟨history, others, leftDone, rightDone, alike⟩ := exists_indexAll_alike unlimited respelled
  have batches := Batch.Alike.ofList alike
  have reports := batches.reportAll mode (Batch.ofList history).paths
  refine ⟨(Batch.ofList history).reports workspace.present mode,
    (Batch.ofList others).reports workspace.present mode, ?_, ?_, ?_⟩
  · rw [checkReferences, Batch.ofFiles, leftDone]
    rfl
  · rw [checkReferences, Batch.ofFiles, rightDone]
    rfl
  · unfold Batch.reports
    rw [← batches.paths_eq]
    exact reports

/-- A working folder with the folder `notes` and the document `a.md`, which links to itself, to a
heading that it does not have, and to a document that does not exist. -/
def selfLinked : Workspace where
  disk := (Disk.empty.addFolder "notes" [] Disk.empty.root_folder).store
    ⟨"a.md", [], by simp [Disk.addFolder, Disk.empty], by simp [Disk.addFolder, Disk.empty]⟩
    "## Top\n[x](notes/../a.md#top) [y](#end) [z](c.md)\n".toUTF8
  current := []
  pathLimit := none

/-- The document is listed twice, under four spellings in all. -/
theorem checkReferences_respells_selfLinked :
    selfLinked.pathLimit = none ∧
      List.Forall₂ selfLinked.Respelled [⟨"a.md"⟩, ⟨"notes/../a.md"⟩]
        [⟨"notes//.././a.md"⟩, ⟨"./a.md"⟩] ∧
      ∃ reports others,
        checkReferences selfLinked.files [⟨"a.md"⟩, ⟨"notes/../a.md"⟩] .collect = .ok reports ∧
        checkReferences selfLinked.files [⟨"notes//.././a.md"⟩, ⟨"./a.md"⟩] .collect =
          .ok others ∧
        List.Forall₂ Report.Respells reports others := by
  have read : ∀ path ∈ ["a.md", "notes/../a.md", "notes//.././a.md", "./a.md"],
      selfLinked.read ⟨path⟩ = .ok "## Top\n[x](notes/../a.md#top) [y](#end) [z](c.md)\n" := by
    simp only [List.forall_mem_cons]
    exact ⟨rfl, rfl, rfl, rfl, by simp⟩
  have first : selfLinked.Respelled ⟨"a.md"⟩ ⟨"notes//.././a.md"⟩ :=
    ⟨by decide +kernel, ⟨_, read _ (by simp)⟩, ⟨_, read _ (by simp)⟩⟩
  have second : selfLinked.Respelled ⟨"notes/../a.md"⟩ ⟨"./a.md"⟩ :=
    ⟨by decide +kernel, ⟨_, read _ (by simp)⟩, ⟨_, read _ (by simp)⟩⟩
  have listed := List.Forall₂.cons first (List.Forall₂.cons second .nil)
  exact ⟨rfl, listed, checkReferences_respells rfl listed .collect⟩

end Workspace

end Handbook
