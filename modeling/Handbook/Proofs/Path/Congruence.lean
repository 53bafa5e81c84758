import Handbook.Proofs.Check.Identity
import Handbook.Proofs.Check.Spellings

/-!
# Joining and folders up to spelling

A normal form can be computed part by part. The rules that shorten a list of components can be used
behind any other components, so both parts of a list may be normalized before they are put together,
although a step up at the start of the second part takes a name of the first part away. On paths it
follows that a base and what is joined to it may be replaced by their normal forms. Two spellings of
a path that ends in a name have spellings of one folder, so a document has references to the same
documents under each spelling of its own path.
-/
namespace Handbook

open Relation

namespace Component

/-- A rule can be used behind other components. -/
theorem Shortens.append_left {components next : List Component} (front : List Component)
    (shortens : Shortens components next) : Shortens (front ++ components) (front ++ next) := by
  cases shortens with
  | dot before after =>
    rw [← List.append_assoc, ← List.append_assoc]
    exact .dot (front ++ before) after
  | pair before text after =>
    rw [← List.append_assoc, ← List.append_assoc]
    exact .pair (front ++ before) text after
  | top before after =>
    rw [← List.append_assoc, ← List.append_assoc]
    exact .top (front ++ before) after

/-- What stands behind other components may be normalized first. -/
theorem normal_append_normal (before after : List Component) :
    normal (before ++ normal after) = normal (before ++ after) := by
  have alone : ReflTransGen Shortens after (normal after) := reaches_normal after
  have behind : ReflTransGen Shortens (before ++ after) (before ++ normal after) :=
    alone.lift (before ++ ·) fun _ _ => Shortens.append_left before
  exact (normal_eq_of_reaches behind).symm

/-- The normal form of two lists of components together depends on their normal forms only. -/
theorem normal_append_congr₂ {left right after behind : List Component}
    (first : normal left = normal right) (second : normal after = normal behind) :
    normal (left ++ after) = normal (right ++ behind) :=
  calc
    normal (left ++ after) = normal (right ++ after) := normal_append_congr first after
    _ = normal (right ++ normal after) := (normal_append_normal right after).symm
    _ = normal (right ++ normal behind) := by rw [second]
    _ = normal (right ++ behind) := normal_append_normal right behind

end Component

namespace Path

/-- A base and what is joined to it may be normalized first. -/
theorem normalize_join (base path : Path) :
    (base.join path).normalize = (base.normalize.join path.normalize).normalize := by
  have kept : path.normalize.isAbsolute = path.isAbsolute := path.isAbsolute_normalize
  cases start : path.isAbsolute with
  | true =>
    -- What starts at the root replaces the base, and its normal form does so too.
    have replaced : base.join path = path := if_pos start
    have again : base.normalize.join path.normalize = path.normalize := if_pos (kept.trans start)
    rw [replaced, again, path.normalize_normalize]
  | false =>
    have bases : Component.normal base.components = Component.normal base.normalize.components :=
      base.normal_components_normalize.symm
    have paths : Component.normal path.components = Component.normal path.normalize.components :=
      path.normal_components_normalize.symm
    rw [normalize_eq_iff, normal_components_join base start,
      normal_components_join base.normalize (kept.trans start)]
    exact Component.normal_append_congr₂ bases paths

/-- The last component of a path is a name. -/
def EndsInName (path : Path) : Prop := ∃ text, path.components.getLast? = some (.name text)

/-- A path that ends in a name has other components before it. -/
theorem EndsInName.exists_components {path : Path} (ends : path.EndsInName) :
    ∃ before text, path.components = before ++ [.name text] := by
  obtain ⟨text, last⟩ := ends
  obtain ⟨before, whole⟩ := List.getLast?_eq_some_iff.1 last
  exact ⟨before, text, whole⟩

/-- Spellings of a path that ends in a name have spellings of one folder. -/
theorem EndsInName.normalize_folder {left right : Path} (leftEnds : left.EndsInName)
    (rightEnds : right.EndsInName) (same : left.normalize = right.normalize) :
    left.folder.normalize = right.folder.normalize := by
  obtain ⟨before, text, leftWhole⟩ := leftEnds.exists_components
  obtain ⟨behind, other, rightWhole⟩ := rightEnds.exists_components
  exact normalize_folder_congr leftWhole rightWhole same

/-- A link points to one document from two spellings of its own document. -/
theorem resolve?_respells {left right : Path} (same : left.normalize = right.normalize)
    (folders : left.folder.normalize = right.folder.normalize) (link : Link) :
    Option.Rel Reference.Respells (link.resolve? left) (link.resolve? right) := by
  obtain ⟨path, fragment⟩ := link
  cases path with
  | some path =>
    have targets : (left.folder.join ⟨path⟩).normalize = (right.folder.join ⟨path⟩).normalize :=
      normalize_join_congr folders ⟨path⟩
    exact .some ⟨targets, rfl⟩
  | none =>
    cases fragment with
    | none => exact .none
    | some fragment => exact .some ⟨same, rfl⟩

/-- A text has references to the same documents under two spellings of its path. -/
theorem references_respell {left right : Path} (same : left.normalize = right.normalize)
    (folders : left.folder.normalize = right.folder.normalize) (content : String) :
    List.Forall₂ Reference.Respells (Index.ofText left content).references
      (Index.ofText right content).references := by
  apply List.rel_filterMap (R := Eq)
  · rintro link other rfl
    exact resolve?_respells same folders link
  · exact List.forall₂_same.2 fun _ _ => rfl

/-- The normal form of a joined path is that of its joined normal parts. Two spellings of a path
that ends in a name have spellings of one folder, and a text has references to the same documents,
with the same anchors, under both of them. -/
theorem normalize_congruence :
    (∀ base path : Path,
      (base.join path).normalize = (base.normalize.join path.normalize).normalize) ∧
      ∀ left right : Path, left.EndsInName → right.EndsInName →
        left.normalize = right.normalize →
          left.folder.normalize = right.folder.normalize ∧
            ∀ content : String, List.Forall₂ Reference.Respells
              (Index.ofText left content).references (Index.ofText right content).references := by
  refine ⟨normalize_join, fun left right leftEnds rightEnds same => ?_⟩
  have folders : left.folder.normalize = right.folder.normalize :=
    leftEnds.normalize_folder rightEnds same
  exact ⟨folders, references_respell same folders⟩

/-- The folder is spelled with a step up once and with a dot once, and one link goes up from it. -/
theorem normalize_congruence_dotted :
    EndsInName ⟨"docs/x/../a.md"⟩ ∧ EndsInName ⟨".//docs/./a.md/."⟩ ∧
      normalize ⟨"docs/x/../a.md"⟩ = normalize ⟨".//docs/./a.md/."⟩ ∧
      (folder ⟨"docs/x/../a.md"⟩).normalize = (folder ⟨".//docs/./a.md/."⟩).normalize ∧
      List.Forall₂ Reference.Respells
        (Index.ofText ⟨"docs/x/../a.md"⟩ "[x](../../b.md#c) [y](/e//f.md) [z](#top)").references
        (Index.ofText ⟨".//docs/./a.md/."⟩
          "[x](../../b.md#c) [y](/e//f.md) [z](#top)").references := by
  have leftEnds : EndsInName ⟨"docs/x/../a.md"⟩ := ⟨"a.md", by decide +kernel⟩
  have rightEnds : EndsInName ⟨".//docs/./a.md/."⟩ := ⟨"a.md", by decide +kernel⟩
  have same : normalize ⟨"docs/x/../a.md"⟩ = normalize ⟨".//docs/./a.md/."⟩ := by decide +kernel
  obtain ⟨folders, references⟩ := normalize_congruence.2 _ _ leftEnds rightEnds same
  exact ⟨leftEnds, rightEnds, same, folders, references _⟩

end Path

end Handbook
