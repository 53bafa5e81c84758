import Mathlib.Data.List.Induction
import Handbook.Check.Batch
import Handbook.Proofs.Path.NormalForm

/-!
# Batches and their histories

A batch that grew by insertions answers for a path with the last index that was inserted under its
normal form, and its documents are the normal forms of the inserted paths. `IsLastUnder` says which
index of a history is the last one under a path. For a batch that was read from listed paths,
`IsKept` says the same about the files, without a batch.
-/
namespace Handbook

/-- An index of a history under a normal path, after which none follows under that path. -/
def IsLastUnder (key : Path) (history : List (Path × Index)) (index : Index) : Prop :=
  ∃ before path after, history = before ++ (path, index) :: after ∧ path.normalize = key ∧
    ∀ later ∈ after, later.1.normalize ≠ key

/-- The index kept for a normal path when documents are listed: that of the last listed path with
this normal form, as the file at that very path is read. -/
def IsKept (files : Files) (paths : List Path) (key : Path) (index : Index) : Prop :=
  ∃ before path after text, paths = before ++ path :: after ∧ path.normalize = key ∧
    (∀ later ∈ after, later.normalize ≠ key) ∧ files.read path = .ok text ∧
    index = Index.ofText path text

namespace Batch

/-- Putting a pair changes what is found under its key and nothing else. -/
theorem lookup_putPair (key other : Path) (index : Index) (documents : List (Path × Index)) :
    (putPair key index documents).lookup other =
      if key = other then some index else documents.lookup other := by
  induction documents with
  | nil => grind [putPair]
  | cons document rest step =>
    obtain ⟨path, old⟩ := document
    unfold putPair
    by_cases same : path = key
    · grind
    · rw [if_neg same, List.lookup_cons, List.lookup_cons, step]
      grind

/-- Putting a pair keeps the keys in their order and adds its key at the end when it is new. -/
theorem keys_putPair (key : Path) (index : Index) (documents : List (Path × Index)) :
    (putPair key index documents).map (·.1) =
      if key ∈ documents.map (·.1) then documents.map (·.1)
      else documents.map (·.1) ++ [key] := by
  induction documents with
  | nil => rfl
  | cons document rest step =>
    obtain ⟨path, old⟩ := document
    unfold putPair
    by_cases same : path = key
    · simp [same]
    · simp only [if_neg same, List.map_cons, step, List.mem_cons, Ne.symm same, false_or]
      split <;> rfl

/-- After an insertion the inserted index is found under every spelling of its path, and everything
else as before. -/
theorem get?_insert (batch : Batch) (path other : Path) (index : Index) :
    (batch.insert path index).get? other =
      if path.normalize = other.normalize then some index else batch.get? other :=
  lookup_putPair path.normalize other.normalize index batch.documents

/-- An insertion adds the normal form of its path to the documents, unless it is there. -/
theorem paths_insert (batch : Batch) (path : Path) (index : Index) :
    (batch.insert path index).paths =
      if path.normalize ∈ batch.paths then batch.paths else batch.paths ++ [path.normalize] :=
  keys_putPair path.normalize index batch.documents

/-- A batch has an index for a path exactly when the normal form of the path is one of its
documents. -/
theorem isSome_get?_iff (batch : Batch) (path : Path) :
    (batch.get? path).isSome ↔ path.normalize ∈ batch.paths := by
  simp [get?, paths, List.lookup_isSome_iff]

/-- A history that is one document longer. -/
theorem ofList_append_singleton (history : List (Path × Index)) (document : Path × Index) :
    ofList (history ++ [document]) = (ofList history).insert document.1 document.2 := by
  simp [ofList]

/-- The last index under a path in a history that is one document longer. -/
theorem isLastUnder_append_singleton (key path : Path) (history : List (Path × Index))
    (new index : Index) :
    IsLastUnder key (history ++ [(path, new)]) index ↔
      if path.normalize = key then new = index else IsLastUnder key history index := by
  constructor
  · rintro ⟨before, found, after, whole, normal, none⟩
    rcases List.eq_nil_or_concat after with rfl | ⟨after, last, rfl⟩
    · obtain ⟨-, same⟩ := List.append_inj' whole rfl
      obtain ⟨rfl, rfl⟩ : path = found ∧ new = index := by simpa using same
      rw [if_pos normal]
    · rw [List.concat_eq_append, ← List.cons_append, ← List.append_assoc] at whole
      obtain ⟨rfl, same⟩ := List.append_inj' whole rfl
      obtain rfl : (path, new) = last := by simpa using same
      have other : path.normalize ≠ key := none (path, new) (by simp)
      rw [if_neg other]
      exact ⟨before, found, after, rfl, normal, fun later member => none later (by simp [member])⟩
  · split
    · rename_i normal
      rintro rfl
      exact ⟨history, path, [], rfl, normal, by simp⟩
    · rename_i other
      rintro ⟨before, found, after, rfl, normal, none⟩
      refine ⟨before, found, after ++ [(path, new)], by simp, normal, fun later member => ?_⟩
      rcases List.mem_append.1 member with early | last
      · exact none later early
      · rw [List.mem_singleton.1 last]
        exact other

/-- A batch answers for a path with the last index of its history under the normal form. -/
theorem get?_ofList_eq_some_iff (history : List (Path × Index)) (path : Path) (index : Index) :
    (ofList history).get? path = some index ↔ IsLastUnder path.normalize history index := by
  induction history using List.reverseRecOn with
  | nil => simp [ofList, get?, IsLastUnder]
  | append_singleton history document step =>
    obtain ⟨inserted, new⟩ := document
    rw [ofList_append_singleton, get?_insert, isLastUnder_append_singleton, ← step]
    split <;> simp

/-- The documents of a batch are the normal forms of the paths of its history. -/
theorem mem_paths_ofList (history : List (Path × Index)) (key : Path) :
    key ∈ (ofList history).paths ↔ ∃ document ∈ history, document.1.normalize = key := by
  induction history using List.reverseRecOn with
  | nil => simp [ofList, paths]
  | append_singleton history document step =>
    simp only [ofList_append_singleton, paths_insert, List.mem_append, List.mem_singleton,
      or_and_right, exists_or, exists_eq_left, ← step]
    split
    · rename_i known
      exact ⟨.inl, fun member => member.elim id fun same => same ▸ known⟩
    · simp [eq_comm]

end Batch

namespace Files

/-- Indexing goes through when it does for the first path and for the others. -/
theorem indexAll_cons_eq_iff (files : Files) (path : Path) (rest : List Path)
    (documents : List (Path × Index)) :
    files.indexAll (path :: rest) = (documents, none) ↔
      ∃ index later, files.index path = .ok index ∧ files.indexAll rest = (later, none) ∧
        documents = (path, index) :: later := by
  rw [indexAll]
  cases read : files.index path with
  | error failure => simp
  | ok index =>
    constructor
    · intro indexed
      obtain ⟨same, done⟩ := Prod.mk.inj indexed
      exact ⟨index, (files.indexAll rest).1, rfl, Prod.ext rfl done, same.symm⟩
    · rintro ⟨other, later, same, done, rfl⟩
      rw [← Except.ok.inj same, done]

/-- Indexing goes through exactly when every document of the result is the index of its path, and
the paths are the listed ones. -/
theorem indexAll_eq_iff (files : Files) (paths : List Path) (documents : List (Path × Index)) :
    files.indexAll paths = (documents, none) ↔
      documents.map (·.1) = paths ∧
        ∀ document ∈ documents, files.index document.1 = .ok document.2 := by
  induction paths generalizing documents with
  | nil =>
    rw [List.map_eq_nil_iff]
    constructor
    · intro same
      rw [← (Prod.mk.inj same).1]
      simp
    · rintro ⟨none, -⟩
      rw [none]
      rfl
  | cons path rest step =>
    rw [indexAll_cons_eq_iff]
    constructor
    · rintro ⟨index, later, read, done, rfl⟩
      obtain ⟨listed, all⟩ := (step later).1 done
      refine ⟨by rw [List.map_cons, listed], ?_⟩
      rw [List.forall_mem_cons]
      exact ⟨read, all⟩
    · rintro ⟨listed, all⟩
      obtain ⟨⟨first, index⟩, later, rfl, rfl, rfl⟩ := List.map_eq_cons_iff.1 listed
      rw [List.forall_mem_cons] at all
      have done := (step later).2 ⟨rfl, all.2⟩
      exact ⟨index, later, all.1, done, rfl⟩

/-- Indexing goes through when every listed path can be read. -/
theorem exists_indexAll (files : Files) (paths : List Path)
    (readable : ∀ path ∈ paths, ∃ text, files.read path = .ok text) :
    ∃ documents, files.indexAll paths = (documents, none) := by
  induction paths with
  | nil => exact ⟨[], rfl⟩
  | cons path rest step =>
    obtain ⟨text, read⟩ := readable path List.mem_cons_self
    obtain ⟨documents, done⟩ := step fun other member =>
      readable other (List.mem_cons_of_mem path member)
    have first : files.index path = .ok (Index.ofText path text) := by simp [index, read]
    exact ⟨_, (files.indexAll_cons_eq_iff path rest _).2 ⟨_, documents, first, done, rfl⟩⟩

/-- The index of a path is that of the text read there. -/
theorem index_eq_ok_iff (files : Files) (path : Path) (index : Index) :
    files.index path = .ok index ↔
      ∃ text, files.read path = .ok text ∧ index = Index.ofText path text := by
  unfold Files.index
  cases files.read path with
  | error error => simp
  | ok text => simp [eq_comm]

end Files

namespace Batch

variable {files : Files} {paths : List Path} {batch : Batch}

/-- A batch is read from listed paths exactly when each of them can be read. -/
theorem exists_ofFiles_iff (files : Files) (paths : List Path) :
    (∃ batch, ofFiles files paths = .ok batch) ↔
      ∀ path ∈ paths, ∃ text, files.read path = .ok text := by
  constructor
  · rintro ⟨batch, indexed⟩ path listed
    unfold ofFiles at indexed
    split at indexed
    · rename_i documents done
      obtain ⟨rfl, all⟩ := (files.indexAll_eq_iff paths documents).1 done
      obtain ⟨document, member, rfl⟩ := List.mem_map.1 listed
      obtain ⟨text, read, -⟩ := (files.index_eq_ok_iff _ _).1 (all document member)
      exact ⟨text, read⟩
    · simp at indexed
  · intro readable
    obtain ⟨documents, done⟩ := files.exists_indexAll paths readable
    exact ⟨ofList documents, by simp [ofFiles, done]⟩

/-- The batch that is read from listed paths has a history with these paths and their indexes. -/
theorem exists_history (indexed : ofFiles files paths = .ok batch) :
    ∃ history, batch = ofList history ∧ history.map (·.1) = paths ∧
      ∀ document ∈ history, files.index document.1 = .ok document.2 := by
  unfold ofFiles at indexed
  split at indexed
  · rename_i documents done
    exact ⟨documents, (Except.ok.inj indexed).symm, (files.indexAll_eq_iff _ _).1 done⟩
  · simp at indexed

/-- A batch that is read from listed paths answers with the index that is kept for a path. -/
theorem get?_ofFiles_eq_some_iff (indexed : ofFiles files paths = .ok batch) (path : Path)
    (index : Index) : batch.get? path = some index ↔ IsKept files paths path.normalize index := by
  obtain ⟨history, rfl, rfl, all⟩ := exists_history indexed
  rw [get?_ofList_eq_some_iff]
  constructor
  · rintro ⟨before, found, after, rfl, normal, none⟩
    obtain ⟨text, read, same⟩ := (files.index_eq_ok_iff _ _).1 (all (found, index) (by simp))
    exact ⟨before.map (·.1), found, after.map (·.1), text, by simp, normal, by simpa using none,
      read, same⟩
  · rintro ⟨before, found, after, text, whole, normal, none, read, rfl⟩
    obtain ⟨early, late, rfl, rfl, tail⟩ := List.map_eq_append_iff.1 whole
    obtain ⟨⟨spelled, old⟩, later, rfl, rfl, rfl⟩ := List.map_eq_cons_iff.1 tail
    have known := all (spelled, old) (by simp)
    obtain rfl : Index.ofText spelled text = old := by
      simpa [Files.index, read] using known
    exact ⟨early, spelled, later, rfl, normal, by simpa using none⟩

/-- The documents of a batch that is read from listed paths are the normal forms of the paths. -/
theorem mem_paths_ofFiles (indexed : ofFiles files paths = .ok batch) (key : Path) :
    key ∈ batch.paths ↔ ∃ path ∈ paths, path.normalize = key := by
  obtain ⟨history, rfl, rfl, -⟩ := exists_history indexed
  rw [mem_paths_ofList]
  simp

/-- For a listed path a batch keeps the index of a listed path with the same normal form, as the
file at that path is read. -/
theorem exists_kept (indexed : ofFiles files paths = .ok batch) {path : Path}
    (listed : path ∈ paths) : ∃ kept ∈ paths, ∃ text, kept.normalize = path.normalize ∧
      files.read kept = .ok text ∧ batch.get? path = some (Index.ofText kept text) := by
  have document : path.normalize ∈ batch.paths :=
    (mem_paths_ofFiles indexed path.normalize).2 ⟨path, listed, rfl⟩
  obtain ⟨index, found⟩ := Option.isSome_iff_exists.1 ((batch.isSome_get?_iff path).2 document)
  obtain ⟨before, kept, after, text, rfl, same, -, read, rfl⟩ :=
    (get?_ofFiles_eq_some_iff indexed path index).1 found
  exact ⟨kept, by simp, text, same, read, found⟩

end Batch

end Handbook
