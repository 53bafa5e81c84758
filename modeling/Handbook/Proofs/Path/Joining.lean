import Mathlib.Data.List.DropRight
import Handbook.Proofs.Path.NormalForm

/-!
# Joining paths and taking their folders

Both work on the spelling and are simple on the components: the components of a joined path stand
behind those of the base, where a leading dot means nothing, and the folder of a path has its
components except the last. So both can be computed on normal forms, and what a link of a document
points to has one normal form for every spelling of the document.
-/
namespace Handbook

namespace Component

/-- A normal form goes on from the normal form of what stands before. -/
theorem normal_append_congr {left right : List Component} (same : normal left = normal right)
    (after : List Component) : normal (left ++ after) = normal (right ++ after) := by
  have kept : left.foldl push [] = right.foldl push [] := List.reverse_injective same
  rw [normal, normal, List.foldl_append, List.foldl_append, kept]

/-- A name at the end stays the last component of the normal form. -/
theorem normal_concat_name (components : List Component) (text : String) :
    normal (components ++ [name text]) = normal components ++ [name text] := by
  rw [normal, List.foldl_append]
  exact List.reverse_cons

/-- Dots do not count. -/
theorem normal_append_current (before after : List Component) :
    normal (before ++ current :: after) = normal (before ++ after) := by
  rw [normal, normal, List.foldl_append, List.foldl_append]
  rfl

end Component

namespace Path

/-- Every path has a first piece. -/
theorem pieces_ne_nil (path : Path) : path.pieces ≠ [] := by
  simp [pieces]

/-- A path starts at the root when its first piece is empty and not its last. -/
theorem isAbsolute_iff {path : Path} {first : String} {rest : List String}
    (cut : path.pieces = first :: rest) : path.isAbsolute = true ↔ first = "" ∧ rest ≠ [] := by
  constructor
  · intro absolute
    obtain ⟨second, more, whole⟩ := path.pieces_of_isAbsolute absolute
    rw [cut] at whole
    obtain ⟨rfl, rfl⟩ := List.cons.inj whole
    exact ⟨rfl, List.cons_ne_nil second more⟩
  · rintro ⟨rfl, more⟩
    by_contra other
    obtain single | ⟨first, later, filled, whole⟩ :=
      path.pieces_of_not_isAbsolute (Bool.eq_false_iff.2 other)
    · rw [cut] at single
      exact more (List.cons.inj single).2
    · rw [cut] at whole
      exact filled (List.cons.inj whole).1.symm

/-- Only the empty path has an empty piece and no other. -/
theorem pieces_eq_singleton_iff (path : Path) : path.pieces = [""] ↔ path.spelling = "" := by
  constructor
  · intro cut
    have whole : ['/'].intercalate (path.spelling.toList.splitOn '/') = path.spelling.toList :=
      List.intercalate_splitOn '/'
    have parts : path.spelling.toList.splitOn '/' = [[]] := by
      have back := congrArg (List.map String.toList) cut
      simpa [pieces, Function.comp_def] using back
    rw [parts] at whole
    exact String.toList_eq_nil_iff.1 whole.symm
  · intro empty
    simp [pieces, empty]

/-- The characters of a path other than the separator are those of its pieces. -/
theorem exists_mem_pieces_iff {character : Char} (other : character ≠ '/') (path : Path) :
    (∃ piece ∈ path.pieces, character ∈ piece.toList) ↔ character ∈ path.spelling.toList := by
  rw [← Text.exists_mem_splitOn_iff other]
  simp [pieces]

/-- The pieces on both sides of a separator are the pieces of the whole path. -/
theorem pieces_separated (before after : String) :
    pieces ⟨before ++ "/" ++ after⟩ = pieces ⟨before⟩ ++ pieces ⟨after⟩ := by
  have spelled : (before ++ "/" ++ after).toList = before.toList ++ '/' :: after.toList := by simp
  simp only [pieces, spelled, List.splitOn_append_cons_self, List.map_append]

/-- Pieces are those up to the last one that means something, and idle ones behind it. -/
theorem exists_trimIdle (pieces : List String) :
    ∃ idle, pieces = trimIdle pieces ++ idle ∧ ∀ piece ∈ idle, isIdle piece = true := by
  refine ⟨pieces.rtakeWhile isIdle, ?_, fun piece member => ?_⟩
  · exact List.rdropWhile_append_rtakeWhile.symm
  · exact List.mem_rtakeWhile_imp member

/-- Idle pieces stand for nothing. -/
theorem filterMap_ofPiece?_idle {idle : List String} (all : ∀ piece ∈ idle, isIdle piece = true) :
    idle.filterMap Component.ofPiece? = [] := by
  rw [List.filterMap_eq_nil_iff]
  intro piece member
  have kind := all piece member
  rw [isIdle, Bool.or_eq_true, beq_iff_eq, beq_iff_eq] at kind
  exact if_pos kind

/-- Idle pieces at the end do not count. -/
theorem filterMap_ofPiece?_trimIdle (pieces : List String) :
    (trimIdle pieces).filterMap Component.ofPiece? = pieces.filterMap Component.ofPiece? := by
  obtain ⟨idle, whole, all⟩ := exists_trimIdle pieces
  have split := congrArg (List.filterMap Component.ofPiece?) whole
  rw [List.filterMap_append, filterMap_ofPiece?_idle all, List.append_nil] at split
  exact split.symm

/-- Idle pieces are left out at the end up to a piece that is not idle. -/
theorem trimIdle_append {middle idle : List String} {last : String} (busy : isIdle last = false)
    (all : ∀ piece ∈ idle, isIdle piece = true) :
    trimIdle (middle ++ last :: idle) = middle ++ [last] := by
  have split : (middle ++ last :: idle).reverse = idle.reverse ++ last :: middle.reverse := by simp
  have allBack : ∀ piece ∈ idle.reverse, isIdle piece = true := by simpa using all
  rw [trimIdle, split, List.dropWhile_append_of_pos allBack]
  simp [busy]

/-- A piece that is not idle stands for a component. -/
theorem exists_ofPiece?_of_busy {piece : String} (busy : isIdle piece = false) :
    ∃ component, Component.ofPiece? piece = some component := by
  rw [isIdle, Bool.or_eq_false_iff, beq_eq_false_iff_ne, beq_eq_false_iff_ne] at busy
  unfold Component.ofPiece?
  rw [if_neg (not_or.2 busy)]
  split <;> exact ⟨_, rfl⟩

/-- Nothing is left of idle pieces. -/
theorem trimIdle_of_idle {idle : List String} (all : ∀ piece ∈ idle, isIdle piece = true) :
    trimIdle idle = [] :=
  List.rdropWhile_eq_nil_iff.2 all

/-- Pieces are all idle, or there is a last one that is not. -/
theorem exists_last_busy (pieces : List String) :
    (∀ piece ∈ pieces, isIdle piece = true) ∨ ∃ middle last idle,
      pieces = middle ++ last :: idle ∧ isIdle last = false ∧
        ∀ piece ∈ idle, isIdle piece = true := by
  induction pieces with
  | nil => exact .inl (by simp)
  | cons first rest step =>
    obtain all | ⟨middle, last, idle, rfl, busy, all⟩ := step
    · cases kind : isIdle first with
      | true => exact .inl (List.forall_mem_cons.2 ⟨kind, all⟩)
      | false => exact .inr ⟨[], first, rest, rfl, kind, all⟩
    · exact .inr ⟨first :: middle, last, idle, rfl, busy, all⟩

/-- A path in which nothing follows the first piece has the empty path for its folder. -/
theorem folder_of_idle {path : Path} {first : String} {rest : List String}
    (cut : path.pieces = first :: rest) (all : ∀ piece ∈ rest, isIdle piece = true) :
    path.folder = ⟨""⟩ := by
  simp [folder, cut, trimIdle_of_idle all]

/-- What is kept of the pieces of a path for its folder are pieces of the path. -/
theorem cons_trimIdle_subset {path : Path} {first : String} {middle rest : List String}
    (cut : path.pieces = first :: (middle ++ rest)) :
    first :: trimIdle middle ⊆ path.pieces := by
  have kept : trimIdle middle ⊆ middle := (List.rdropWhile_prefix isIdle middle).subset
  rw [cut]
  exact List.cons_subset_cons first (List.subset_append_of_subset_left rest kept)

/-- The pieces of the folder of a path are those of the path before the last one that is not idle,
without the idle ones at their end. The root keeps its separator. -/
theorem pieces_folder {path : Path} {first last : String} {middle idle : List String}
    (cut : path.pieces = first :: (middle ++ last :: idle)) (busy : isIdle last = false)
    (all : ∀ piece ∈ idle, isIdle piece = true) :
    path.folder.pieces =
      first :: (if first = "" ∧ trimIdle middle = [] then [""] else trimIdle middle) := by
  have body : trimIdle (middle ++ last :: idle) = middle ++ [last] := trimIdle_append busy all
  have nonempty : middle ++ [last] ≠ [] := by simp
  simp only [folder, cut, body, if_neg nonempty, List.dropLast_concat]
  split
  · rename_i root
    rw [root.1]
    decide
  · exact pieces_glue (List.cons_ne_nil first _) fun piece member =>
      path.pieces_clean (cons_trimIdle_subset cut member)

/-- The folder of a path has no characters that the path does not have, besides separators. -/
theorem mem_of_mem_folder {path : Path} {character : Char} (other : character ≠ '/')
    (member : character ∈ path.folder.spelling.toList) : character ∈ path.spelling.toList := by
  obtain ⟨first, rest, cut⟩ := List.exists_cons_of_ne_nil path.pieces_ne_nil
  obtain all | ⟨middle, last, idle, rfl, busy, all⟩ := exists_last_busy rest
  · rw [folder_of_idle cut all] at member
    simp at member
  · rw [← exists_mem_pieces_iff other, pieces_folder cut busy all] at member
    rw [← exists_mem_pieces_iff other]
    obtain ⟨piece, kept, inside⟩ := member
    refine ⟨piece, ?_, inside⟩
    split at kept
    · obtain rfl | rfl : piece = first ∨ piece = "" := by simpa using kept
      · exact cons_trimIdle_subset cut List.mem_cons_self
      · simp at inside
    · exact cons_trimIdle_subset cut kept

/-- The first component of a path depends on the other pieces only if it is a root. -/
theorem leading_congr {first : String} {rest other : List String}
    (alike : first = "" → (rest = [] ↔ other = [])) : leading first rest = leading first other := by
  unfold leading
  by_cases empty : first = ""
  · have ends := alike empty
    by_cases none : rest = []
    · rw [none, ends.1 none]
    · have some : other ≠ [] := fun same => none (ends.2 same)
      simp [none, some]
  · rw [if_neg empty, if_neg empty]

/-- The components of a path, from its pieces. -/
theorem components_of_pieces {path : Path} {first : String} {rest : List String}
    (cut : path.pieces = first :: rest) :
    path.components = leading first rest ++ rest.filterMap Component.ofPiece? := by
  rw [components, cut]

/-- The folder of a path has the components of the path except the last. -/
theorem components_folder (path : Path) : path.folder.components = path.components.dropLast := by
  obtain ⟨first, rest, cut⟩ := List.exists_cons_of_ne_nil path.pieces_ne_nil
  have whole := components_of_pieces cut
  obtain all | ⟨middle, last, idle, rfl, busy, all⟩ := exists_last_busy rest
  · have short : (leading first rest).dropLast = [] := by
      unfold leading Component.ofPiece?
      split_ifs <;> rfl
    rw [folder_of_idle cut all, whole, filterMap_ofPiece?_idle all, List.append_nil, short]
    rfl
  · have folded := pieces_folder cut busy all
    obtain ⟨component, stands⟩ := exists_ofPiece?_of_busy busy
    have front : path.components.dropLast =
        leading first (middle ++ last :: idle) ++ middle.filterMap Component.ofPiece? := by
      rw [whole, List.filterMap_append, List.filterMap_cons_some stands,
        filterMap_ofPiece?_idle all, ← List.append_assoc, List.dropLast_concat]
    have kept := filterMap_ofPiece?_trimIdle middle
    rw [front, components_of_pieces folded]
    by_cases root : first = "" ∧ trimIdle middle = []
    · have heads : leading first [""] = leading first (middle ++ last :: idle) :=
        leading_congr (by simp)
      rw [root.2] at kept
      rw [if_pos root, ← kept, heads]
      rfl
    · have heads : leading first (trimIdle middle) = leading first (middle ++ last :: idle) :=
        leading_congr fun empty => by simp [show trimIdle middle ≠ [] by simpa [empty] using root]
      rw [if_neg root, kept, heads]

/-- A relative path stays as it is when it is joined to the empty path. -/
theorem join_empty {path : Path} (relative : path.isAbsolute = false) : join ⟨""⟩ path = path := by
  simp [join, relative]

/-- Besides separators, a joined path has the characters of the base and of the path. -/
theorem mem_join_iff {base path : Path} {character : Char} (other : character ≠ '/')
    (relative : path.isAbsolute = false) :
    character ∈ (base.join path).spelling.toList ↔
      character ∈ base.spelling.toList ∨ character ∈ path.spelling.toList := by
  unfold join
  rw [if_neg (by simp [relative])]
  split <;> simp [other]

/-- Joining a path that is not empty makes a path that is not empty. -/
theorem join_filled (base : Path) {path : Path} (filled : path.spelling ≠ "") :
    (base.join path).spelling ≠ "" := by
  unfold join
  split_ifs <;> simp [filled]

/-- The pieces of a relative path that is joined to a base stand behind those of the base, up to the
empty piece after a separator at the end of the base. -/
theorem pieces_join {base path : Path} (filled : base.spelling ≠ "")
    (relative : path.isAbsolute = false) :
    ∃ first rest, (base.pieces = first :: rest ∧ (first = "" → rest ≠ []) ∨
        base.pieces = first :: (rest ++ [""])) ∧
      (base.join path).pieces = first :: (rest ++ path.pieces) := by
  obtain ⟨base⟩ := base
  by_cases separated : base.toList.getLast? = some '/'
  · obtain ⟨before, whole⟩ := List.getLast?_eq_some_iff.1 separated
    have spelled : base = String.ofList before ++ "/" ++ "" :=
      String.toList_injective (by simp [whole])
    have joined : join ⟨base⟩ path = ⟨String.ofList before ++ "/" ++ path.spelling⟩ := by
      simp [join, relative, spelled]
    obtain ⟨first, rest, cut⟩ :=
      List.exists_cons_of_ne_nil (pieces_ne_nil ⟨String.ofList before⟩)
    refine ⟨first, rest, .inr ?_, ?_⟩
    · rw [spelled, pieces_separated, cut]
      rfl
    · rw [joined, pieces_separated, cut]
      rfl
  · have joined : join ⟨base⟩ path = ⟨base ++ "/" ++ path.spelling⟩ := by
      simp [join, relative, separated, show base ≠ "" from filled]
    obtain ⟨first, rest, cut⟩ := List.exists_cons_of_ne_nil (pieces_ne_nil ⟨base⟩)
    refine ⟨first, rest, .inl ⟨cut, ?_⟩, ?_⟩
    · rintro rfl rfl
      exact filled ((pieces_eq_singleton_iff ⟨base⟩).1 cut)
    · rw [joined, pieces_separated, cut]
      rfl

/-- A relative path that is joined to a base starts where the base does. -/
theorem isAbsolute_join {base path : Path} (filled : base.spelling ≠ "")
    (relative : path.isAbsolute = false) : (base.join path).isAbsolute = base.isAbsolute := by
  obtain ⟨first, rest, ends, joined⟩ := pieces_join filled relative
  rw [Bool.eq_iff_iff, isAbsolute_iff joined]
  rcases ends with ⟨cut, more⟩ | cut
  · rw [isAbsolute_iff cut]
    simpa [path.pieces_ne_nil] using more
  · rw [isAbsolute_iff cut]
    simp [path.pieces_ne_nil]

/-- Joining a relative path adds what its pieces stand for to the components of the base. -/
theorem components_join {base path : Path} (filled : base.spelling ≠ "")
    (relative : path.isAbsolute = false) :
    (base.join path).components =
      base.components ++ path.pieces.filterMap Component.ofPiece? := by
  obtain ⟨first, rest, ends, joined⟩ := pieces_join filled relative
  rw [components_of_pieces joined]
  rcases ends with ⟨cut, more⟩ | cut
  · have heads : leading first (rest ++ path.pieces) = leading first rest :=
      leading_congr fun empty => by simp [path.pieces_ne_nil, more empty]
    rw [components_of_pieces cut, List.append_assoc, ← List.filterMap_append, ← heads]
  · have heads : leading first (rest ++ path.pieces) = leading first (rest ++ [""]) :=
      leading_congr (by simp [path.pieces_ne_nil])
    have same : (rest ++ [""]).filterMap Component.ofPiece? =
        rest.filterMap Component.ofPiece? := by
      rw [List.filterMap_append]
      exact List.append_nil _
    rw [components_of_pieces cut, same, List.append_assoc, ← List.filterMap_append, ← heads]

/-- The normal form of a joined relative path is that of the components of both paths. -/
theorem normal_components_join (base : Path) {path : Path} (relative : path.isAbsolute = false) :
    Component.normal (base.join path).components =
      Component.normal (base.components ++ path.components) := by
  by_cases empty : base.spelling = ""
  · obtain ⟨spelling⟩ := base
    obtain rfl : spelling = "" := empty
    rw [join_empty relative]
    rfl
  · rw [components_join empty relative]
    rcases path.components_of_not_isAbsolute relative with whole | whole
    · rw [whole]
    · rw [whole, Component.normal_append_current]

/-- Joining a path to two spellings of a base gives two spellings of one path. -/
theorem normalize_join_congr {left right : Path} (same : left.normalize = right.normalize)
    (path : Path) : (left.join path).normalize = (right.join path).normalize := by
  cases start : path.isAbsolute with
  | true => simp [join, start]
  | false =>
    rw [normalize_eq_iff, normal_components_join left start, normal_components_join right start]
    exact Component.normal_append_congr ((normalize_eq_iff left right).1 same) path.components

/-- Two spellings of a path that end with a name have spellings of one folder. -/
theorem normalize_folder_congr {left right : Path} {before behind : List Component}
    {text other : String} (leftEnds : left.components = before ++ [.name text])
    (rightEnds : right.components = behind ++ [.name other])
    (same : left.normalize = right.normalize) :
    left.folder.normalize = right.folder.normalize := by
  rw [normalize_eq_iff, leftEnds, rightEnds, Component.normal_concat_name,
    Component.normal_concat_name] at same
  rw [normalize_eq_iff, components_folder, components_folder, leftEnds, rightEnds,
    List.dropLast_concat, List.dropLast_concat]
  exact (List.append_inj' same rfl).1

end Path

end Handbook
