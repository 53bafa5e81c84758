import Handbook.Path.Normal
import Handbook.Proofs.Text.Splitting

/-!
# Components of normal paths

Writing components and reading them back are inverse on the lists that normalization produces. A
normal list has at most one root, at its start, and steps up only before the names; `IsStack` says
so of a list that is given with its last component first, as the normalization keeps it. From the
inverse it follows that a normal path is its own normal form, and that two paths have one normal
form exactly when their components have one.
-/
namespace Handbook

namespace Component

/-- A component for which a piece after the first one of a path can stand: a step up, or a name that
can be spelled. -/
def IsStep : Component → Prop
  | parent => True
  | name text => text ≠ "" ∧ text ≠ "." ∧ text ≠ ".." ∧ '/' ∉ text.toList
  | _ => False

/-- A step is what the piece with its spelling stands for. -/
theorem ofPiece?_text {component : Component} (step : component.IsStep) :
    ofPiece? component.text = some component := by
  cases component with
  | root => exact step.elim
  | current => exact step.elim
  | parent => rfl
  | name text =>
    obtain ⟨filled, noDot, noDots, -⟩ := step
    simp [ofPiece?, Component.text, filled, noDot, noDots]

/-- What a piece without separators stands for is a step with the spelling of the piece. -/
theorem isStep_of_ofPiece? {piece : String} {component : Component} (clean : '/' ∉ piece.toList)
    (found : ofPiece? piece = some component) : component.IsStep ∧ component.text = piece := by
  unfold ofPiece? at found
  split at found
  · simp at found
  · rename_i busy
    split at found
    · rename_i up
      obtain rfl := Option.some.inj found
      exact ⟨trivial, up.symm⟩
    · rename_i down
      obtain rfl := Option.some.inj found
      exact ⟨⟨fun same => busy (.inl same), fun same => busy (.inr same), down, clean⟩, rfl⟩

/-- A step is spelled without separators. -/
theorem IsStep.text_clean {component : Component} (step : component.IsStep) :
    '/' ∉ component.text.toList := by
  cases component with
  | root => exact step.elim
  | current => exact step.elim
  | parent => decide
  | name text => exact step.2.2.2

/-- A step is not spelled like nothing or like a dot. -/
theorem IsStep.text_busy {component : Component} (step : component.IsStep) :
    component.text ≠ "" ∧ component.text ≠ "." := by
  cases component with
  | root => exact step.elim
  | current => exact step.elim
  | parent => decide
  | name text => exact ⟨step.1, step.2.1⟩

/-- Reading the spellings of steps gives the steps back. -/
theorem filterMap_ofPiece?_text {steps : List Component}
    (legal : ∀ component ∈ steps, component.IsStep) :
    (steps.map text).filterMap ofPiece? = steps := by
  induction steps with
  | nil => rfl
  | cons first rest step =>
    have head := ofPiece?_text (legal first List.mem_cons_self)
    have tail := step fun component member => legal component (List.mem_cons_of_mem first member)
    simp [head, tail]

/-- The lists that normalization keeps, the last component first: names above steps up, or above the
root, or above nothing. -/
inductive IsStack : List Component → Prop
  /-- Nothing was kept. -/
  | empty : IsStack []
  /-- Only the root was kept. -/
  | root : IsStack [root]
  /-- A step up has only steps up before it. -/
  | parent {below : List Component} :
    (∀ component ∈ below, component = .parent) → IsStack below → IsStack (.parent :: below)
  /-- A name may follow anything that is kept. -/
  | name {text : String} {below : List Component} :
    (Component.name text).IsStep → IsStack below → IsStack (.name text :: below)

/-- Adding a step keeps a stack a stack. -/
theorem IsStack.push {stack : List Component} {component : Component} (kept : IsStack stack)
    (step : component.IsStep) : IsStack (Component.push stack component) := by
  cases component with
  | root => exact step.elim
  | current => exact step.elim
  | name text => exact .name step kept
  | parent =>
    cases kept with
    | empty => exact .parent (by simp) .empty
    | root => exact .root
    | parent only below =>
      refine .parent (fun component member => ?_) (.parent only below)
      rcases List.mem_cons.1 member with rfl | later
      · rfl
      · exact only component later
    | name _ below => exact below

/-- Adding steps keeps a stack a stack. -/
theorem IsStack.foldl_push {stack steps : List Component} (kept : IsStack stack)
    (legal : ∀ component ∈ steps, component.IsStep) :
    IsStack (steps.foldl Component.push stack) := by
  induction steps generalizing stack with
  | nil => exact kept
  | cons first rest step =>
    exact step (kept.push (legal first List.mem_cons_self)) fun component member =>
      legal component (List.mem_cons_of_mem first member)

/-- Normalizing what was kept changes nothing. -/
theorem IsStack.foldl_reverse {stack : List Component} (kept : IsStack stack) :
    stack.reverse.foldl Component.push [] = stack := by
  induction kept with
  | empty => rfl
  | root => rfl
  | @parent below only _ step =>
    rw [List.reverse_cons, List.foldl_append, step]
    cases below with
    | nil => rfl
    | cons last _ => simp [only last List.mem_cons_self, Component.push]
  | name _ _ step => simp [step, Component.push]

/-- What normalization keeps is a root or steps up, and then names. -/
theorem IsStack.shape {stack : List Component} (kept : IsStack stack) :
    ∃ (start : List Component) (names : List String), stack.reverse = start ++ names.map .name ∧
      (∀ text ∈ names, (Component.name text).IsStep) ∧
      (start = [.root] ∨ ∃ steps, start = List.replicate steps .parent) := by
  induction kept with
  | empty => exact ⟨[], [], rfl, by simp, .inr ⟨0, rfl⟩⟩
  | root => exact ⟨[.root], [], rfl, by simp, .inl rfl⟩
  | @parent below only =>
    have all : ∀ component ∈ (.parent :: below : List Component).reverse, component = .parent := by
      simpa [or_imp] using only
    exact ⟨_, [], (List.append_nil _).symm, by simp, .inr ⟨_, List.eq_replicate_of_mem all⟩⟩
  | @name text below legal _ step =>
    obtain ⟨start, names, whole, all, shape⟩ := step
    refine ⟨start, names ++ [text], by simp [whole], ?_, shape⟩
    simpa [or_imp, forall_and] using ⟨all, legal⟩

/-- Steps up and names that can be spelled are steps. -/
theorem isStep_of_mem_steps (steps : Nat) {names : List String}
    (legal : ∀ text ∈ names, (Component.name text).IsStep) :
    ∀ component ∈ List.replicate steps parent ++ names.map name, component.IsStep := by
  intro component member
  rcases List.mem_append.1 member with up | named
  · rw [List.eq_of_mem_replicate up]
    trivial
  · obtain ⟨text, inNames, rfl⟩ := List.mem_map.1 named
    exact legal text inNames

/-- A stack is, from its first component on, a root or nothing followed by steps. -/
theorem IsStack.reverse_eq {stack : List Component} (kept : IsStack stack) :
    ∃ steps : List Component, (∀ component ∈ steps, component.IsStep) ∧
      (stack.reverse = steps ∨ stack.reverse = .root :: steps) := by
  obtain ⟨start, names, whole, legal, rfl | ⟨steps, rfl⟩⟩ := kept.shape
  · exact ⟨names.map .name, by simpa using legal, .inr whole⟩
  · exact ⟨_, isStep_of_mem_steps steps legal, .inl whole⟩

end Component

namespace Path

/-- Pieces without separators are read back from the path they are glued to. -/
theorem pieces_glue {texts : List String} (nonempty : texts ≠ [])
    (clean : ∀ text ∈ texts, '/' ∉ text.toList) : pieces ⟨glue texts⟩ = texts := by
  have cut : (['/'].intercalate (texts.map String.toList)).splitOn '/' =
      texts.map String.toList :=
    List.splitOn_intercalate '/' (by simpa using clean) (by simpa using nonempty)
  simp only [pieces, glue, String.toList_ofList, cut, List.map_map]
  simp [Function.comp_def]

/-- No piece of a path has a separator. -/
theorem pieces_clean (path : Path) {piece : String} (member : piece ∈ path.pieces) :
    '/' ∉ piece.toList := by
  obtain ⟨text, part, rfl⟩ := List.mem_map.1 member
  rw [String.toList_ofList]
  exact Text.separator_notMem_of_mem_splitOn part

/-- A first piece stands before a separator and the other pieces. -/
theorem glue_cons {texts : List String} (nonempty : texts ≠ []) (text : String) :
    glue (text :: texts) = text ++ "/" ++ glue texts := by
  obtain ⟨first, rest, rfl⟩ := List.exists_cons_of_ne_nil nonempty
  apply String.toList_injective
  simp [glue]

/-- A path with nothing before its first separator is glued to an empty first piece. -/
theorem glue_empty_cons {texts : List String} (nonempty : texts ≠ []) :
    glue ("" :: texts) = "/" ++ glue texts := by
  rw [glue_cons nonempty, String.empty_append]

/-- A path from the root has an empty first piece, and more pieces. -/
theorem pieces_of_isAbsolute (path : Path) (absolute : path.isAbsolute = true) :
    ∃ second rest, path.pieces = "" :: second :: rest := by
  obtain ⟨spelling⟩ := path
  simp only [isAbsolute, beq_iff_eq, List.head?_eq_some_iff] at absolute
  obtain ⟨below, whole⟩ := absolute
  obtain ⟨part, parts, split⟩ := List.exists_cons_of_ne_nil (List.splitOn_ne_nil '/' below)
  exact ⟨String.ofList part, parts.map String.ofList, by
    simp [pieces, whole, List.splitOn_cons_eq_if_modifyHead, split]⟩

/-- The components of a path from the root are the root and what the pieces after the first
separator stand for. -/
theorem components_of_isAbsolute (path : Path) (absolute : path.isAbsolute = true) :
    path.components = .root :: path.pieces.tail.filterMap Component.ofPiece? := by
  obtain ⟨second, rest, cut⟩ := path.pieces_of_isAbsolute absolute
  simp [components, cut, leading]

/-- Any other path is empty or has a first piece that is not empty. -/
theorem pieces_of_not_isAbsolute (path : Path) (relative : path.isAbsolute = false) :
    path.pieces = [""] ∨ ∃ first rest, first ≠ "" ∧ path.pieces = first :: rest := by
  obtain ⟨spelling⟩ := path
  cases characters : spelling.toList with
  | nil => exact .inl (by simp [pieces, characters])
  | cons character below =>
    have inside : character ≠ '/' := by
      rintro rfl
      simp [isAbsolute, characters] at relative
    obtain ⟨part, parts, split⟩ := List.exists_cons_of_ne_nil (List.splitOn_ne_nil '/' below)
    refine .inr ⟨String.ofList (character :: part), parts.map String.ofList, ?_, ?_⟩
    · intro empty
      simpa using congrArg String.toList empty
    · simp [pieces, characters, List.splitOn_cons_eq_if_modifyHead, inside, split]

/-- The components of any other path are what its pieces stand for, after a dot that it may start
with. -/
theorem components_of_not_isAbsolute (path : Path) (relative : path.isAbsolute = false) :
    path.components = path.pieces.filterMap Component.ofPiece? ∨
      path.components = .current :: path.pieces.filterMap Component.ofPiece? := by
  obtain cut | ⟨first, rest, filled, cut⟩ := path.pieces_of_not_isAbsolute relative
  · left
    simp [components, cut, leading, Component.ofPiece?]
  · simp only [components, cut, leading, if_neg filled, List.filterMap_cons]
    split
    · rename_i dot
      right
      simp [dot, Component.ofPiece?]
    · left
      cases Component.ofPiece? first <;> simp

/-- The components of a path are at most one root or leading dot, and then steps. -/
theorem components_eq (path : Path) : ∃ head steps : List Component,
    path.components = head ++ steps ∧ (∀ component ∈ steps, component.IsStep) ∧
      (head = [] ∨ head = [.root] ∨ head = [.current]) := by
  unfold components
  split
  · exact ⟨[], [], rfl, by simp, .inl rfl⟩
  · rename_i first rest cut
    have later : ∀ component ∈ rest.filterMap Component.ofPiece?, component.IsStep := by
      intro component member
      obtain ⟨piece, inRest, found⟩ := List.mem_filterMap.1 member
      have clean := path.pieces_clean (cut ▸ List.mem_cons_of_mem first inRest)
      exact (Component.isStep_of_ofPiece? clean found).1
    unfold leading
    split
    · split
      · exact ⟨[], _, rfl, later, .inl rfl⟩
      · exact ⟨[.root], _, rfl, later, .inr (.inl rfl)⟩
    · split
      · exact ⟨[.current], _, rfl, later, .inr (.inr rfl)⟩
      · refine ⟨[], _, rfl, fun component member => ?_, .inl rfl⟩
        rcases List.mem_append.1 member with head | member
        · have clean := path.pieces_clean (cut ▸ List.mem_cons_self)
          exact (Component.isStep_of_ofPiece? clean (Option.mem_toList.1 head)).1
        · exact later component member

/-- Normalizing the components of a path keeps a stack. -/
theorem isStack_components (path : Path) :
    Component.IsStack (path.components.foldl Component.push []) := by
  obtain ⟨head, steps, whole, legal, start⟩ := path.components_eq
  rw [whole, List.foldl_append]
  refine Component.IsStack.foldl_push ?_ legal
  rcases start with rfl | rfl | rfl
  · exact .empty
  · exact .root
  · exact .empty

/-- Steps are written as their texts with separators between them. -/
theorem ofComponents_steps {steps : List Component} (nonempty : steps ≠ [])
    (legal : ∀ component ∈ steps, component.IsStep) :
    ofComponents steps = ⟨glue (steps.map Component.text)⟩ := by
  obtain ⟨first, rest, rfl⟩ := List.exists_cons_of_ne_nil nonempty
  cases first with
  | root => exact (legal .root List.mem_cons_self).elim
  | current => rfl
  | parent => rfl
  | name _ => rfl

/-- The pieces of steps that do not start at the root. -/
theorem pieces_ofComponents {steps : List Component}
    (legal : ∀ component ∈ steps, component.IsStep) :
    (ofComponents steps).pieces = if steps = [] then ["."] else steps.map Component.text := by
  by_cases none : steps = []
  · rw [none]
    decide
  · rw [if_neg none, ofComponents_steps none legal]
    exact pieces_glue (by simpa using none)
      (by simpa using fun component member => (legal component member).text_clean)

/-- The pieces of steps below the root. -/
theorem pieces_ofComponents_root {steps : List Component}
    (legal : ∀ component ∈ steps, component.IsStep) :
    (ofComponents (.root :: steps)).pieces =
      "" :: (if steps = [] then [""] else steps.map Component.text) := by
  by_cases none : steps = []
  · rw [none]
    decide
  · have clean : ∀ text ∈ "" :: steps.map Component.text, '/' ∉ text.toList := by
      simpa using fun component member => (legal component member).text_clean
    rw [if_neg none, ofComponents, ← glue_empty_cons (by simpa using none)]
    exact pieces_glue (by simp) clean

/-- The components of steps that are written down are the steps, or a dot when there are none. -/
theorem components_ofComponents_steps {steps : List Component}
    (legal : ∀ component ∈ steps, component.IsStep) :
    (ofComponents steps).components = if steps = [] then [.current] else steps := by
  by_cases none : steps = []
  · rw [none]
    decide
  · have cut := pieces_ofComponents legal
    obtain ⟨first, rest, rfl⟩ := List.exists_cons_of_ne_nil none
    have busy := (legal first List.mem_cons_self).text_busy
    have head := Component.ofPiece?_text (legal first List.mem_cons_self)
    have tail := Component.filterMap_ofPiece?_text fun component member =>
      legal component (List.mem_cons_of_mem first member)
    rw [if_neg none] at cut ⊢
    unfold components
    rw [cut]
    simp [leading, busy, head, tail]

/-- The components of steps that are written below the root are the root and the steps. -/
theorem components_ofComponents_root {steps : List Component}
    (legal : ∀ component ∈ steps, component.IsStep) :
    (ofComponents (.root :: steps)).components = .root :: steps := by
  have cut := pieces_ofComponents_root legal
  have tail := Component.filterMap_ofPiece?_text legal
  by_cases none : steps = []
  · rw [none]
    decide
  · rw [if_neg none] at cut
    unfold components
    rw [cut]
    simp [leading, tail, none]

/-- Components that were kept are read back from the path that they make; nothing is written as a
dot. -/
theorem components_ofComponents {stack : List Component} (kept : Component.IsStack stack) :
    (ofComponents stack.reverse).components =
      if stack = [] then [.current] else stack.reverse := by
  obtain ⟨steps, legal, whole | whole⟩ := kept.reverse_eq
  · rw [whole, components_ofComponents_steps legal, ← whole]
    simp only [List.reverse_eq_nil_iff]
  · have filled : stack ≠ [] := by
      rintro rfl
      simp at whole
    rw [if_neg filled, whole]
    exact components_ofComponents_root legal

/-- The components of a normal path are the normal form of the components; the folder that has none
is spelled as a dot. -/
theorem components_normalize (path : Path) :
    path.normalize.components =
      if Component.normal path.components = [] then [.current]
      else Component.normal path.components := by
  have read := components_ofComponents path.isStack_components
  simp only [normalize, Component.normal, List.reverse_eq_nil_iff]
  exact read

/-- A path and its normal form have components with one normal form. -/
theorem normal_components_normalize (path : Path) :
    Component.normal path.normalize.components = Component.normal path.components := by
  rw [components_normalize]
  split
  · rename_i none
    rw [none]
    rfl
  · simp only [Component.normal, path.isStack_components.foldl_reverse]

/-- A normal path is its own normal form. -/
theorem normalize_normalize (path : Path) : path.normalize.normalize = path.normalize :=
  congrArg ofComponents path.normal_components_normalize

/-- Two paths have one normal form exactly when their components do. -/
theorem normalize_eq_iff (left right : Path) :
    left.normalize = right.normalize ↔
      Component.normal left.components = Component.normal right.components := by
  constructor
  · intro same
    rw [← left.normal_components_normalize, ← right.normal_components_normalize, same]
  · exact congrArg ofComponents

end Path

end Handbook
