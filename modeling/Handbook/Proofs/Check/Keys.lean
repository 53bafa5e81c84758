import Mathlib.Data.Finset.Card
import Handbook.Check.Reference
import Handbook.Proofs.Check.History

/-!
# The documents of a batch

What a batch holds after any insertions is told by its history: its documents are the normal forms
of the inserted paths, each once and in the order of their first insertions, and a path is answered
with the last index that was inserted under its normal form. `Batch.Follows` is the invariant, which
one insertion keeps. A batch keeps order and indexes in one list; `Catalogue` keeps them apart, and
the two parts stay in step. One more insertion matters to a reference only if the reference asks for
a heading of the inserted document.
-/
namespace Handbook

/-- Documents in two parts: their keys in the order of the first insertions, and their indexes. -/
@[ext]
structure Catalogue where
  /-- The keys in order. -/
  order : List Path := []
  /-- The index under a key. -/
  index? : Path → Option Index := fun _ => none

namespace Catalogue

/-- Put the index of the document at a path under its normal form, which becomes the last key when
nothing was under it. -/
def insert (catalogue : Catalogue) (path : Path) (index : Index) : Catalogue where
  order :=
    if catalogue.index? path.normalize = none then catalogue.order ++ [path.normalize]
    else catalogue.order
  index? other := if path.normalize = other then some index else catalogue.index? other

/-- The catalogue that comes of inserting documents in order. -/
def ofList (history : List (Path × Index)) : Catalogue :=
  history.foldl (fun catalogue document => catalogue.insert document.1 document.2) {}

end Catalogue

/-- A reference with an anchor, not empty, into the document at a path. -/
def Reference.AsksAt (reference : Reference) (path : Path) : Prop :=
  ∃ anchor, reference.anchor = some anchor ∧ anchor ≠ "" ∧
    reference.target.normalize = path.normalize

/-- What is wrong with a reference depends on a batch through what is looked up in it. -/
theorem Reference.broken?_congr {reference : Reference} {left right : Batch}
    (looked : reference.lookup? left = reference.lookup? right) (present : Path → Bool)
    (source : Path) :
    reference.broken? present left source = reference.broken? present right source := by
  unfold broken?
  rw [looked]

namespace Batch

variable {batch : Batch} {history : List (Path × Index)}

/-- What a batch owes to its history. -/
structure Follows (batch : Batch) (history : List (Path × Index)) : Prop where
  /-- The documents are the normal forms of the inserted paths in the order in which they come
  first. -/
  paths : batch.paths = (history.map fun document => document.1.normalize).eraseDups
  /-- No document is listed twice. -/
  distinct : batch.paths.Nodup
  /-- A path is answered with the last index under its normal form. -/
  found : ∀ path index, batch.get? path = some index ↔ IsLastUnder path.normalize history index

/-- One more key counts when it was not there. -/
theorem eraseDups_concat (keys : List Path) (key : Path) :
    (keys ++ [key]).eraseDups =
      if key ∈ keys then keys.eraseDups else keys.eraseDups ++ [key] := by
  rw [List.eraseDups_append]
  by_cases known : key ∈ keys
  · simp [List.removeAll, known]
  · simp [List.removeAll, known, List.eraseDups_cons]

/-- The empty batch follows the empty history. -/
theorem follows_nil : Follows {} [] where
  paths := rfl
  distinct := List.nodup_nil
  found path index := by simp [get?, IsLastUnder]

/-- An insertion makes the history one document longer. -/
theorem Follows.insert (follows : batch.Follows history) (path : Path) (index : Index) :
    (batch.insert path index).Follows (history ++ [(path, index)]) where
  paths := by
    have known : path.normalize ∈ batch.paths ↔
        path.normalize ∈ history.map fun document => document.1.normalize := by
      rw [follows.paths, List.mem_eraseDups]
    rw [paths_insert, List.map_append, List.map_singleton, eraseDups_concat, ← follows.paths]
    simp only [known]
  distinct := by
    rw [paths_insert]
    split
    · exact follows.distinct
    · rename_i new
      exact List.nodup_append_comm.1 (List.nodup_cons.2 ⟨new, follows.distinct⟩)
  found other found := by
    rw [get?_insert, isLastUnder_append_singleton, ← follows.found]
    split <;> simp

/-- A batch follows the history of its insertions. -/
theorem follows_ofList (history : List (Path × Index)) : (ofList history).Follows history := by
  induction history using List.reverseRecOn with
  | nil => exact follows_nil
  | append_singleton history document step =>
    rw [ofList_append_singleton]
    exact step.insert document.1 document.2

/-- The documents of a batch are the normal forms of the inserted paths. -/
theorem Follows.mem_paths_iff (follows : batch.Follows history) (key : Path) :
    key ∈ batch.paths ↔ ∃ document ∈ history, document.1.normalize = key := by
  rw [follows.paths, List.mem_eraseDups, List.mem_map]

/-- A document is its own normal form. -/
theorem Follows.normal (follows : batch.Follows history) {key : Path} (listed : key ∈ batch.paths) :
    key.normalize = key := by
  have inserted := (follows.mem_paths_iff key).1 listed
  obtain ⟨document, -, rfl⟩ := inserted
  exact document.1.normalize_normalize

/-- The size of a batch is the number of different normal forms. -/
theorem Follows.size_eq (follows : batch.Follows history) :
    batch.size = (history.map fun document => document.1.normalize).toFinset.card := by
  have counted : batch.size = batch.paths.length := (List.length_map _).symm
  have same : batch.paths.toFinset =
      (history.map fun document => document.1.normalize).toFinset := by
    apply Finset.ext
    intro key
    rw [follows.paths, List.mem_toFinset, List.mem_toFinset, List.mem_eraseDups]
  rw [counted, ← List.toFinset_card_of_nodup follows.distinct, same]

/-- A path is not answered exactly when nothing was inserted under its normal form. -/
theorem Follows.get?_eq_none_iff (follows : batch.Follows history) (path : Path) :
    batch.get? path = none ↔ ∀ document ∈ history, document.1.normalize ≠ path.normalize := by
  have answered := batch.isSome_get?_iff path
  rw [follows.mem_paths_iff, Option.isSome_iff_ne_none] at answered
  rw [← not_iff_not, ← ne_eq, answered]
  simp

/-- The two parts of a batch. -/
def catalogue (batch : Batch) : Catalogue where
  order := batch.paths
  index? key := batch.documents.lookup key

/-- The second part has an index under the keys of the first. -/
theorem mem_order_catalogue_iff (batch : Batch) (key : Path) :
    key ∈ batch.catalogue.order ↔ ∃ index, batch.catalogue.index? key = some index := by
  rw [← Option.isSome_iff_exists]
  simp [catalogue, paths, List.lookup_isSome_iff]

/-- An insertion changes both parts in step. -/
theorem catalogue_insert (batch : Batch) (path : Path) (index : Index) :
    (batch.insert path index).catalogue = batch.catalogue.insert path index := by
  have held : batch.catalogue.index? path.normalize = none ↔ path.normalize ∉ batch.paths := by
    have answered := batch.mem_order_catalogue_iff path.normalize
    rw [← Option.ne_none_iff_exists'] at answered
    exact not_iff_not.1 (by rw [not_not]; exact answered.symm)
  apply Catalogue.ext
  · show (batch.insert path index).paths = _
    rw [paths_insert, ← ite_not]
    simp only [Catalogue.insert, held]
    rfl
  · funext other
    exact lookup_putPair path.normalize other index batch.documents

/-- The two parts of a batch are those of its history. -/
theorem catalogue_ofList (history : List (Path × Index)) :
    (ofList history).catalogue = Catalogue.ofList history := by
  induction history using List.reverseRecOn with
  | nil => exact Catalogue.ext rfl rfl
  | append_singleton history document step =>
    have longer : Catalogue.ofList (history ++ [document]) =
        (Catalogue.ofList history).insert document.1 document.2 := by
      simp [Catalogue.ofList]
    rw [ofList_append_singleton, catalogue_insert, step, longer]

/-- An insertion does not matter to a reference that does not ask at its path. -/
theorem broken?_insert_of_not_asksAt (present : Path → Bool) (batch : Batch) (source : Path)
    {path : Path} (index : Index) {reference : Reference} (elsewhere : ¬reference.AsksAt path) :
    reference.broken? present (batch.insert path index) source =
      reference.broken? present batch source := by
  apply Reference.broken?_congr
  unfold Reference.lookup?
  cases written : reference.anchor with
  | none => rfl
  | some anchor =>
    by_cases empty : anchor = ""
    · simp [empty]
    · have other : path.normalize ≠ reference.target.normalize := fun same =>
        elsewhere ⟨anchor, written, empty, same.symm⟩
      simp only [empty, if_false, get?_insert, if_neg other]

/-- After any insertions, the documents of a batch are the different normal forms of the inserted
paths in the order of their first insertions, each one its own normal form and each a key of the
indexes; a path is answered with the last index that was inserted under its normal form, if any was.
One more insertion changes the check of a reference only if the reference has an anchor into the
inserted document. -/
theorem documents_ofList (history : List (Path × Index)) :
    (ofList history).paths = (history.map fun document => document.1.normalize).eraseDups ∧
    (ofList history).paths.Nodup ∧
    (∀ key ∈ (ofList history).paths, key.normalize = key) ∧
    (ofList history).catalogue = Catalogue.ofList history ∧
    (∀ key, key ∈ (Catalogue.ofList history).order ↔
      ∃ index, (Catalogue.ofList history).index? key = some index) ∧
    (ofList history).size = (history.map fun document => document.1.normalize).toFinset.card ∧
    (∀ path index, (ofList history).get? path = some index ↔
      IsLastUnder path.normalize history index) ∧
    (∀ path, (ofList history).get? path = none ↔
      ∀ document ∈ history, document.1.normalize ≠ path.normalize) ∧
    ∀ (present : Path → Bool) (source path : Path) (index : Index) (reference : Reference),
      reference.broken? present ((ofList history).insert path index) source ≠
          reference.broken? present (ofList history) source →
        reference.AsksAt path := by
  have follows := follows_ofList history
  have parts := catalogue_ofList history
  have inStep := (ofList history).mem_order_catalogue_iff
  rw [parts] at inStep
  refine ⟨follows.paths, follows.distinct, fun key => follows.normal, parts, inStep,
    follows.size_eq, follows.found, follows.get?_eq_none_iff, ?_⟩
  intro present source path index reference changed
  by_contra elsewhere
  exact changed (broken?_insert_of_not_asksAt present (ofList history) source index elsewhere)

-- The second spelling of `a.md` replaces its index and keeps its place.
example : (ofList [(⟨"a.md"⟩, ⟨[], []⟩), (⟨"b.md"⟩, ⟨[], []⟩),
    (⟨"docs/../a.md"⟩, ⟨["top"], []⟩)]).documents =
      [(⟨"a.md"⟩, ⟨["top"], []⟩), (⟨"b.md"⟩, ⟨[], []⟩)] := by
  decide +kernel

end Batch

end Handbook
