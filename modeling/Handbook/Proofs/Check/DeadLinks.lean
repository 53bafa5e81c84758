import Handbook.Proofs.Check.Verdict
import Handbook.Proofs.Disk.Landing

/-!
# Links that pass without a target

An anchor that is found in a listed document is not checked against the disk, and the document is
found under the normal form of the target. So a link with such an anchor passes also when its target
leads through a folder that is missing, and taking the anchor away breaks it. That is the only way
for a link to nothing to pass: everywhere else a reference that is sound has its target on disk.
-/
namespace Handbook

namespace Reference

/-- Without an anchor a reference is sound exactly when its target exists. -/
theorem broken?_without_anchor (present : Path → Bool) (batch : Batch) (source : Path)
    (reference : Reference) :
    { reference with anchor := none }.broken? present batch source = none ↔
      present reference.target = true := by
  simp [broken?, lookup?]

end Reference

namespace Workspace

variable {workspace : Workspace} {paths : List Path} {batch : Batch}

/-- A target with an anchor that is found exists exactly when its spelling stands in folders, since
the document that is listed for it exists. -/
theorem present_iff_of_findsHeading {reference : Reference}
    (finds : FindsHeading workspace.files paths reference) :
    workspace.present reference.target = true ↔ workspace.StandsInFolders reference.target := by
  obtain ⟨-, -, -, -, ⟨before, path, after, text, -, same, -, read, -⟩, -⟩ := finds
  exact present_iff_standsInFolders (present_of_read read) same

/-- A reference that passes has its target on disk, and passes without its anchor too, exactly when
an anchor that is found comes with a target that stands in folders: accepted as it is spelled, and
with an existing folder before every step up, dot and doubled or last separator. -/
theorem passes_imp_present_iff (indexed : Batch.ofFiles workspace.files paths = .ok batch)
    (source : Path) (reference : Reference) :
    ((reference.broken? workspace.present batch source = none →
        workspace.present reference.target = true) ↔
      (FindsHeading workspace.files paths reference →
        workspace.StandsInFolders reference.target)) ∧
    ((reference.broken? workspace.present batch source = none →
        { reference with anchor := none }.broken? workspace.present batch source = none) ↔
      (FindsHeading workspace.files paths reference →
        workspace.StandsInFolders reference.target)) := by
  have passes : reference.broken? workspace.present batch source = none ↔
      Resolves workspace.files paths reference :=
    Batch.broken?_eq_none_iff_resolves indexed source reference
  rw [Reference.broken?_without_anchor, and_self_iff, passes]
  constructor
  · intro holds finds
    exact (present_iff_of_findsHeading finds).1 (holds (.heading finds))
  · intro stands resolves
    cases resolves with
    | heading finds => exact (present_iff_of_findsHeading finds).2 (stands finds)
    | entry _ present => exact present

/-- A working folder with the folder `docs` and the document `b.md`, which has the heading `Top`. -/
def smallManual : Workspace where
  disk := (Disk.empty.addFolder "docs" [] rfl).store
    ⟨"b.md", [], by simp [Disk.addFolder, Disk.empty], by simp [Disk.addFolder, Disk.empty]⟩
    "## Top\n".toUTF8
  current := []

/-- The batch of the one document of the small manual. -/
def smallBatch : Batch := .ofList [(⟨"b.md"⟩, ⟨["top"], []⟩)]

/-- The document of the small manual is read and indexed. -/
theorem ofFiles_smallManual : Batch.ofFiles smallManual.files [⟨"b.md"⟩] = .ok smallBatch := by
  have read : smallManual.files.read ⟨"b.md"⟩ = .ok "## Top\n" := by rfl
  have indexed : Index.ofText ⟨"b.md"⟩ "## Top\n" = ⟨["top"], []⟩ := by decide +kernel
  simp [Batch.ofFiles, Files.indexAll, Files.index, read, indexed, smallBatch]

/-- A link that leads through the folder `docs` with an anchor that is found has its target on disk,
and so its target stands in folders. -/
theorem passes_imp_present_through_docs :
    Batch.ofFiles smallManual.files [⟨"b.md"⟩] = .ok smallBatch ∧
    FindsHeading smallManual.files [⟨"b.md"⟩] ⟨⟨"docs/../b.md"⟩, some "top"⟩ ∧
    smallManual.present ⟨"docs/../b.md"⟩ = true ∧
    smallManual.StandsInFolders ⟨"docs/../b.md"⟩ := by
  have indexed : (⟨["top"], []⟩ : Index) = Index.ofText ⟨"b.md"⟩ "## Top\n" := by decide +kernel
  have finds : FindsHeading smallManual.files [⟨"b.md"⟩] ⟨⟨"docs/../b.md"⟩, some "top"⟩ :=
    ⟨"top", ⟨["top"], []⟩, rfl, by decide,
      ⟨[], ⟨"b.md"⟩, [], "## Top\n", rfl, by decide +kernel, by simp, rfl, indexed⟩, by simp⟩
  have present : smallManual.present ⟨"docs/../b.md"⟩ = true := by decide +kernel
  have passes := passes_imp_present_iff ofFiles_smallManual ⟨"a.md"⟩
    ⟨⟨"docs/../b.md"⟩, some "top"⟩
  exact ⟨ofFiles_smallManual, finds, present, passes.1.1 (fun _ => present) finds⟩

/-- A link that leads through a missing folder passes with an anchor that is found, has no target,
and is broken when its anchor is taken away. -/
theorem passes_through_missing_folder :
    Batch.ofFiles smallManual.files [⟨"b.md"⟩] = .ok smallBatch ∧
    Reference.broken? smallManual.present smallBatch ⟨"a.md"⟩
      ⟨⟨"nosuchdir/../b.md"⟩, some "top"⟩ = none ∧
    smallManual.present ⟨"nosuchdir/../b.md"⟩ = false ∧
    Reference.broken? smallManual.present smallBatch ⟨"a.md"⟩ ⟨⟨"nosuchdir/../b.md"⟩, none⟩ =
      some (.missingFile ⟨"a.md"⟩ ⟨"nosuchdir/../b.md"⟩) :=
  ⟨ofFiles_smallManual, by decide +kernel, by decide +kernel, by decide +kernel⟩

end Workspace

end Handbook
