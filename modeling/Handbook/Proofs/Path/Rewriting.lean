import Mathlib.Logic.Relation
import Handbook.Proofs.Path.Joining

/-!
# The normal form as what rules leave

Three rules shorten a list of components anywhere in it: a dot goes, a name goes with the step up
behind it, and a step up goes behind the root. In whatever order they are used, they end in one
list, and this is the normal form. So two paths have one normal form exactly when the rules make
their components equal, used forwards and backwards. What the rules leave of a path begins with the
root or with steps up and goes on with names, and it is spelled with single separators between its
parts.
-/
namespace Handbook

open Relation

namespace Component

/-- One use of a rule somewhere in a list of components. -/
inductive Shortens : List Component → List Component → Prop
  /-- A dot is dropped. -/
  | dot (before after : List Component) : Shortens (before ++ current :: after) (before ++ after)
  /-- A name is dropped together with the step up behind it. -/
  | pair (before : List Component) (text : String) (after : List Component) :
    Shortens (before ++ name text :: parent :: after) (before ++ after)
  /-- A step up behind the root is dropped. -/
  | top (before after : List Component) :
    Shortens (before ++ root :: parent :: after) (before ++ root :: after)

/-- No rule can be used. -/
def IsIrreducible (components : List Component) : Prop := ∀ next, ¬Shortens components next

/-- What the rules leave of a list of components, in whatever order they are used. -/
structure Leaves (components result : List Component) : Prop where
  /-- No rule can be used on the result. -/
  irreducible : IsIrreducible result
  /-- The rules lead to the result. -/
  reached : ReflTransGen Shortens components result
  /-- Wherever the rules have led, they lead on to the result. -/
  joined : ∀ middle, ReflTransGen Shortens components middle → ReflTransGen Shortens middle result
  /-- The rules cannot be used for ever. -/
  ends : Acc (fun next last => Shortens last next) components

/-- The shape of normal components: the root or steps up, and then names. -/
def IsNormal (components : List Component) : Prop :=
  ∃ (start : List Component) (names : List String), components = start ++ names.map name ∧
    (start = [root] ∨ ∃ steps, start = List.replicate steps parent)

/-- A rule leaves out components and keeps the others in their order. -/
theorem Shortens.sublist {components next : List Component} (shortens : Shortens components next) :
    next.Sublist components := by
  cases shortens with
  | dot before after => exact (List.sublist_cons_self _ _).append_left before
  | pair before text after =>
    exact ((List.sublist_cons_self _ _).trans (List.sublist_cons_self _ _)).append_left before
  | top before after => exact ((List.sublist_cons_self _ _).cons_cons root).append_left before

/-- A rule makes a list of components shorter. -/
theorem Shortens.length_lt {components next : List Component}
    (shortens : Shortens components next) : next.length < components.length := by
  cases shortens <;> simp only [List.length_append, List.length_cons] <;> omega

/-- The rules leave out components and keep the others in their order. -/
theorem sublist_of_reaches {components result : List Component}
    (reaches : ReflTransGen Shortens components result) : result.Sublist components := by
  induction reaches with
  | refl => exact List.Sublist.refl components
  | tail _ shortens step => exact shortens.sublist.trans step

/-- The rules cannot be used for ever. -/
theorem shortens_wellFounded :
    WellFounded fun next last : List Component => Shortens last next :=
  Subrelation.wf Shortens.length_lt (InvImage.wf List.length Nat.lt_wfRel.wf)

/-- A rule does not change the normal form. -/
theorem Shortens.normal_eq {components next : List Component}
    (shortens : Shortens components next) : normal components = normal next := by
  cases shortens with
  | dot before after => exact normal_append_current before after
  | pair before text after =>
    rw [normal, normal, List.foldl_append, List.foldl_append]
    rfl
  | top before after =>
    rw [normal, normal, List.foldl_append, List.foldl_append]
    rfl

/-- Lists that the rules make equal, used forwards and backwards, have one normal form. -/
theorem normal_eq_of_eqvGen {left right : List Component} (linked : EqvGen Shortens left right) :
    normal left = normal right := by
  induction linked with
  | rel _ _ shortens => exact shortens.normal_eq
  | refl => rfl
  | symm _ _ _ step => exact step.symm
  | trans _ _ _ _ _ first second => exact first.trans second

/-- The rules do not change the normal form. -/
theorem normal_eq_of_reaches {components result : List Component}
    (reaches : ReflTransGen Shortens components result) : normal components = normal result :=
  normal_eq_of_eqvGen (EqvGen.reflTransGen_le_eqvGen _ _ _ reaches)

/-- Adding a component to a stack is at most one use of a rule. -/
theorem reaches_push (stack : List Component) (component : Component) (after : List Component) :
    ReflTransGen Shortens (stack.reverse ++ component :: after)
      ((push stack component).reverse ++ after) := by
  cases component with
  | root => simpa [push] using ReflTransGen.refl
  | name text => simpa [push] using ReflTransGen.refl
  | current => exact .single (.dot stack.reverse after)
  | parent =>
    cases stack with
    | nil => exact .refl
    | cons last below =>
      cases last with
      | root => simpa [push] using ReflTransGen.single (Shortens.top below.reverse after)
      | name text => simpa [push] using ReflTransGen.single (Shortens.pair below.reverse text after)
      | current => simpa [push] using ReflTransGen.refl
      | parent => simpa [push] using ReflTransGen.refl

/-- The rules lead to the normal form. -/
theorem reaches_normal (components : List Component) :
    ReflTransGen Shortens components (normal components) := by
  have reaches : ∀ stack : List Component, ReflTransGen Shortens (stack.reverse ++ components)
      (components.foldl push stack).reverse := by
    induction components with
    | nil => intro stack; simpa using ReflTransGen.refl
    | cons first rest step =>
      exact fun stack => (reaches_push stack first rest).trans (step (push stack first))
  exact reaches []

/-- The normal form is its own normal form. -/
theorem normal_normal (components : List Component) :
    normal (normal components) = normal components :=
  (normal_eq_of_reaches (reaches_normal components)).symm

/-- No rule can be used on a normal form: the shorter list would have the same normal form, which is
not longer than the list. -/
theorem isIrreducible_normal (components : List Component) : IsIrreducible (normal components) := by
  intro next shortens
  have same : normal next = normal components := by
    rw [← shortens.normal_eq, normal_normal]
  have shorter : next.length < (normal components).length := shortens.length_lt
  have least : (normal next).length ≤ next.length :=
    (sublist_of_reaches (reaches_normal next)).length_le
  rw [same] at least
  omega

/-- From a list on which no rule can be used the rules lead nowhere else. -/
theorem IsIrreducible.eq_of_reaches {components result : List Component}
    (irreducible : IsIrreducible components)
    (reaches : ReflTransGen Shortens components result) : result = components := by
  obtain same | ⟨next, shortens, -⟩ := reaches.cases_head
  · exact same.symm
  · exact absurd shortens (irreducible next)

/-- The rules leave the normal form and nothing else. -/
theorem leaves_iff (components result : List Component) :
    Leaves components result ↔ result = normal components := by
  constructor
  · intro leaves
    have led := leaves.joined (normal components) (reaches_normal components)
    exact (isIrreducible_normal components).eq_of_reaches led
  · rintro rfl
    refine ⟨isIrreducible_normal components, reaches_normal components, fun middle reaches => ?_,
      shortens_wellFounded.apply components⟩
    rw [normal_eq_of_reaches reaches]
    exact reaches_normal middle

/-- Two lists have one normal form exactly when the rules make them equal, used forwards and
backwards. -/
theorem normal_eq_iff_eqvGen (left right : List Component) :
    normal left = normal right ↔ EqvGen Shortens left right := by
  refine ⟨fun same => ?_, normal_eq_of_eqvGen⟩
  have down := EqvGen.reflTransGen_le_eqvGen _ _ _ (reaches_normal left)
  have up := EqvGen.reflTransGen_le_eqvGen _ _ _ (reaches_normal right)
  rw [same] at down
  exact .trans _ _ _ down (.symm _ _ up)

/-- A root at the bottom of a stack stays there. -/
theorem exists_push_root (stack : List Component) (component : Component) :
    ∃ kept, push (stack ++ [root]) component = kept ++ [root] := by
  cases component with
  | root => exact ⟨root :: stack, rfl⟩
  | current => exact ⟨stack, rfl⟩
  | name text => exact ⟨name text :: stack, rfl⟩
  | parent =>
    cases stack with
    | nil => exact ⟨[], rfl⟩
    | cons last below =>
      cases last with
      | root => exact ⟨root :: below, rfl⟩
      | current => exact ⟨parent :: current :: below, rfl⟩
      | parent => exact ⟨parent :: parent :: below, rfl⟩
      | name text => exact ⟨below, rfl⟩

/-- The normal form of components that start with the root starts with the root. -/
theorem exists_normal_root (rest : List Component) :
    ∃ after, normal (root :: rest) = root :: after := by
  have bottom : ∀ stack : List Component, ∃ kept, rest.foldl push (stack ++ [root]) =
      kept ++ [root] := by
    induction rest with
    | nil => exact fun stack => ⟨stack, rfl⟩
    | cons first later step =>
      intro stack
      obtain ⟨kept, pushed⟩ := exists_push_root stack first
      rw [List.foldl_cons, pushed]
      exact step kept
  obtain ⟨kept, whole⟩ := bottom []
  refine ⟨kept.reverse, ?_⟩
  rw [← List.reverse_concat]
  exact congrArg List.reverse whole

end Component

namespace Path

/-- The texts of names are the names. -/
theorem map_text_names (names : List String) :
    (names.map Component.name).map Component.text = names := by
  rw [List.map_map]
  exact List.map_id names

/-- The normal form of a path from the root is the root with names below it. -/
theorem normal_of_isAbsolute {path : Path} (absolute : path.isAbsolute = true) :
    ∃ names : List String, (∀ text ∈ names, (Component.name text).IsStep) ∧
      Component.normal path.components = .root :: names.map .name ∧
      path.normalize.pieces = "" :: (if names = [] then [""] else names) := by
  obtain ⟨after, top⟩ :=
    Component.exists_normal_root (path.pieces.tail.filterMap Component.ofPiece?)
  rw [← path.components_of_isAbsolute absolute] at top
  obtain ⟨start, names, whole, legal, rfl | ⟨steps, rfl⟩⟩ := path.isStack_components.shape
  · have below : ∀ component ∈ names.map Component.name, component.IsStep := by simpa using legal
    refine ⟨names, legal, whole, ?_⟩
    rw [normalize, Component.normal, whole, List.singleton_append, pieces_ofComponents_root below,
      map_text_names]
    simp
  · -- Neither a step up nor a name is the root.
    rw [Component.normal, whole] at top
    have first : Component.root ∈ List.replicate steps .parent ++ names.map .name := by
      rw [top]
      exact List.mem_cons_self
    simp at first

/-- The normal form of any other path is steps up with names below them, and a dot if it has
neither. -/
theorem normal_of_not_isAbsolute {path : Path} (relative : path.isAbsolute = false) :
    ∃ (steps : Nat) (names : List String), (∀ text ∈ names, (Component.name text).IsStep) ∧
      Component.normal path.components = List.replicate steps .parent ++ names.map .name ∧
      path.normalize.pieces =
        if steps = 0 ∧ names = [] then ["."] else List.replicate steps ".." ++ names := by
  have rootless : Component.root ∉ path.components := by
    have apart : Component.root ∉ path.pieces.filterMap Component.ofPiece? := by
      intro member
      obtain ⟨piece, listed, found⟩ := List.mem_filterMap.1 member
      exact (Component.isStep_of_ofPiece? (path.pieces_clean listed) found).1
    rcases path.components_of_not_isAbsolute relative with whole | whole
    · rw [whole]
      exact apart
    · rw [whole]
      simpa using apart
  obtain ⟨start, names, whole, legal, rfl | ⟨steps, rfl⟩⟩ := path.isStack_components.shape
  · have kept : Component.root ∈ Component.normal path.components := by
      rw [Component.normal, whole]
      exact List.mem_cons_self
    exact absurd ((Component.sublist_of_reaches (Component.reaches_normal _)).subset kept) rootless
  · have below := Component.isStep_of_mem_steps steps legal
    refine ⟨steps, names, legal, whole, ?_⟩
    rw [normalize, Component.normal, whole, pieces_ofComponents below, List.map_append,
      map_text_names, List.map_replicate]
    simp [Component.text]

/-- A normal path is the root, or no piece of it after the first one is empty. -/
theorem normalize_filled (path : Path) : path.normalize = ⟨"/"⟩ ∨
    ∀ piece ∈ path.normalize.pieces.tail, piece ≠ "" := by
  have filled : ∀ {names : List String}, (∀ text ∈ names, (Component.name text).IsStep) →
      ∀ text ∈ names, text ≠ "" := fun legal text member => (legal text member).1
  cases start : path.isAbsolute with
  | true =>
    obtain ⟨names, legal, whole, cut⟩ := normal_of_isAbsolute start
    by_cases none : names = []
    · left
      rw [normalize, whole, none]
      rfl
    · right
      rw [cut, if_neg none]
      exact filled legal
  | false =>
    obtain ⟨steps, names, legal, -, cut⟩ := normal_of_not_isAbsolute start
    right
    rw [cut]
    split
    · simp
    · intro piece member
      rcases List.mem_append.1 (List.mem_of_mem_tail member) with up | named
      · rw [List.eq_of_mem_replicate up]
        decide
      · exact filled legal piece named

/-- A path in which a separator is followed by another one or by nothing has an empty piece after
the first one. -/
theorem empty_mem_pieces_tail {path : Path} {before after : String}
    (spelled : path.spelling = before ++ "/" ++ after)
    (empty : after = "" ∨ after.toList.head? = some '/') : "" ∈ path.pieces.tail := by
  have cut : path.pieces = pieces ⟨before⟩ ++ pieces ⟨after⟩ := by
    rw [← pieces_separated, ← spelled]
  have first : ∃ rest, pieces ⟨after⟩ = "" :: rest := by
    rcases empty with rfl | absolute
    · exact ⟨[], rfl⟩
    · obtain ⟨second, rest, whole⟩ := pieces_of_isAbsolute ⟨after⟩ (by simp [isAbsolute, absolute])
      exact ⟨second :: rest, whole⟩
  obtain ⟨rest, whole⟩ := first
  rw [cut, whole, List.tail_append_of_ne_nil (pieces_ne_nil ⟨before⟩)]
  exact List.mem_append_right _ List.mem_cons_self

/-- A normal path is spelled without doubled separators, and only the root ends with one. -/
theorem separators_normalize (path : Path) :
    ¬['/', '/'] <:+: path.normalize.spelling.toList ∧
      (path.normalize.spelling.toList.getLast? = some '/' → path.normalize.spelling = "/") := by
  obtain top | filled := path.normalize_filled
  · rw [top]
    exact ⟨by decide, fun _ => rfl⟩
  · constructor
    · rintro ⟨before, after, whole⟩
      have spelled : path.normalize.spelling =
          String.ofList before ++ "/" ++ String.ofList ('/' :: after) :=
        String.toList_injective (by simp [← whole])
      exact filled "" (empty_mem_pieces_tail spelled (.inr (by simp))) rfl
    · intro last
      obtain ⟨before, whole⟩ := List.getLast?_eq_some_iff.1 last
      have spelled : path.normalize.spelling = String.ofList before ++ "/" ++ "" :=
        String.toList_injective (by simp [whole])
      exact absurd rfl (filled "" (empty_mem_pieces_tail spelled (.inl rfl)))

/-- Normal components are empty only if the path is spelled as a dot. -/
theorem normalize_of_normal_eq_nil {path : Path} (none : Component.normal path.components = []) :
    path.normalize = ⟨"."⟩ := by
  rw [normalize, none]
  rfl

/-- A normal path has the components that the rules leave of the path, in whatever order they are
used, where nothing left is a dot. It is spelled without doubled separators, and without a last one
unless it is the root, is its own normal form, and is a dot or has the shape of normal components.
Two paths have one normal form exactly when the rules make their components equal. -/
theorem normalize_leaves (path : Path) :
    (∃ result, Component.Leaves path.components result ∧
        path.normalize.components = (if result = [] then [.current] else result) ∧
        (result = [] → path.normalize.spelling = ".")) ∧
      ¬['/', '/'] <:+: path.normalize.spelling.toList ∧
      (path.normalize.spelling.toList.getLast? = some '/' → path.normalize.spelling = "/") ∧
      path.normalize.normalize = path.normalize ∧
      (path.normalize.spelling = "." ∨ Component.IsNormal path.normalize.components) ∧
      ∀ other : Path, path.normalize = other.normalize ↔
        EqvGen Component.Shortens path.components other.components := by
  have shape : path.normalize.spelling = "." ∨ Component.IsNormal path.normalize.components := by
    by_cases none : Component.normal path.components = []
    · left
      rw [normalize_of_normal_eq_nil none]
    · right
      rw [components_normalize, if_neg none]
      obtain ⟨start, names, whole, -, form⟩ := path.isStack_components.shape
      exact ⟨start, names, whole, form⟩
  refine ⟨⟨Component.normal path.components, (Component.leaves_iff _ _).2 rfl,
    path.components_normalize, fun none => ?_⟩, path.separators_normalize.1,
    path.separators_normalize.2, path.normalize_normalize, shape, fun other => ?_⟩
  · rw [normalize_of_normal_eq_nil none]
  · rw [normalize_eq_iff, Component.normal_eq_iff_eqvGen]

-- Both rules about steps up can be used here, and either may be used first.
example : normalize ⟨"/..//x/../.././a.md/"⟩ = ⟨"/a.md"⟩ := by
  decide +kernel

end Path

end Handbook
