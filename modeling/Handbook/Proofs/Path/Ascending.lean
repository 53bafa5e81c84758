import Mathlib.Data.List.Induction
import Mathlib.Data.List.Lex
import Mathlib.Data.String.Basic
import Mathlib.Order.Compare
import Handbook.Path.Order

/-!
# Ascending lists of paths

Paths are ordered by their components like words by their letters, and components by their kind and,
if both are names, by their characters. Sorting puts the different paths of a list into one that
ascends in this order, and it drops a path only for another one with the same components.
-/
namespace Handbook

namespace Component

/-- The order of components: one kind comes before another, and of two names the lesser one. -/
inductive Before : Component → Component → Prop
  /-- The root comes before a dot, a dot before a step up, and this before a name. -/
  | kind {left right : Component} : left.rank < right.rank → Before left right
  /-- Names are ordered by their characters. -/
  | name {left right : String} : left < right → Before (.name left) (.name right)

/-- Components of which neither is before the other are the same. -/
theorem order_eq_eq_iff (left right : Component) : left.order right = .eq ↔ left = right := by
  cases left <;> cases right <;> simp [order, rank]

/-- A component is less than another when it comes before it. -/
theorem order_eq_lt_iff (left right : Component) : left.order right = .lt ↔ Before left right := by
  constructor
  · intro less
    cases left with
    | name left =>
      cases right with
      | name right => exact .name (compare_lt_iff_lt.1 less)
      | _ => exact .kind (Nat.compare_eq_lt.1 less)
    | _ => exact .kind (Nat.compare_eq_lt.1 less)
  · rintro (kind | less)
    · cases left with
      | name left =>
        cases right with
        | name right => exact absurd kind (Nat.lt_irrefl _)
        | _ => exact Nat.compare_eq_lt.2 kind
      | _ => exact Nat.compare_eq_lt.2 kind
    · exact compare_lt_iff_lt.2 less

/-- Comparing the other way round gives the opposite. -/
theorem order_swap (left right : Component) : (left.order right).swap = right.order left := by
  cases left with
  | name left =>
    cases right with
    | name right => exact Std.OrientedOrd.eq_swap.symm
    | _ => rfl
  | _ => cases right <;> rfl

/-- What comes before a component that comes before a third one comes before the third one. -/
theorem Before.trans {left middle right : Component} (before : Before left middle)
    (after : Before middle right) : Before left right := by
  cases before with
  | kind lower =>
    cases after with
    | kind upper => exact .kind (Nat.lt_trans lower upper)
    | name => exact .kind lower
  | name less =>
    cases after with
    | kind upper => exact .kind upper
    | name more => exact .name (lt_trans less more)

end Component

namespace Path

variable {path other third : Path} {sorted paths : List Path}

/-- A path comes before another in the order of their components. -/
def Precedes (path other : Path) : Prop :=
  List.Lex Component.Before path.components other.components

/-- Lists of components of which neither is less than the other are the same. -/
theorem orderOf_eq_eq_iff (lefts rights : List Component) :
    orderOf lefts rights = .eq ↔ lefts = rights := by
  induction lefts generalizing rights with
  | nil => cases rights <;> simp [orderOf]
  | cons left lefts step =>
    cases rights with
    | nil => simp [orderOf]
    | cons right rights =>
      rw [orderOf, Ordering.then_eq_eq, Component.order_eq_eq_iff, step, List.cons.injEq]

/-- A list of components is less than another when the first difference says so. -/
theorem orderOf_eq_lt_iff (lefts rights : List Component) :
    orderOf lefts rights = .lt ↔ List.Lex Component.Before lefts rights := by
  induction lefts generalizing rights with
  | nil => cases rights <;> simp [orderOf]
  | cons left lefts step =>
    cases rights with
    | nil => simp [orderOf]
    | cons right rights =>
      rw [orderOf, Ordering.then_eq_lt, Component.order_eq_lt_iff, Component.order_eq_eq_iff, step,
        List.cons_lex_cons_iff]

/-- Comparing lists the other way round gives the opposite. -/
theorem orderOf_swap (lefts rights : List Component) :
    (orderOf lefts rights).swap = orderOf rights lefts := by
  induction lefts generalizing rights with
  | nil => cases rights <;> rfl
  | cons left lefts step =>
    cases rights with
    | nil => rfl
    | cons right rights => rw [orderOf, Ordering.swap_then, Component.order_swap, step, orderOf]

/-- What precedes a path that precedes a third one precedes the third one. -/
theorem Precedes.trans (before : path.Precedes other) (after : other.Precedes third) :
    path.Precedes third :=
  List.lex_trans Component.Before.trans before after

/-- A path that is greater than another is preceded by it. -/
theorem precedes_of_order_eq_gt (greater : path.order other = .gt) : other.Precedes path := by
  have less : other.order path = .lt := by
    rw [order, ← orderOf_swap]
    exact congrArg Ordering.swap greater
  exact (orderOf_eq_lt_iff _ _).1 less

/-- Inserting brings at most the inserted path into a list. -/
theorem mem_of_mem_insertSorted (member : third ∈ insertSorted path sorted) :
    third = path ∨ third ∈ sorted := by
  induction sorted with
  | nil => exact .inl (List.mem_singleton.1 member)
  | cons other higher step =>
    unfold insertSorted at member
    split at member
    · exact List.mem_cons.1 member
    · exact .inr member
    · rcases List.mem_cons.1 member with rfl | later
      · exact .inr List.mem_cons_self
      · exact (step later).imp_right (List.mem_cons_of_mem other)

/-- Inserting keeps a list ascending. -/
theorem pairwise_insertSorted (ascending : sorted.Pairwise Precedes) (path : Path) :
    (insertSorted path sorted).Pairwise Precedes := by
  induction sorted with
  | nil => exact List.pairwise_singleton Precedes path
  | cons other higher step =>
    obtain ⟨lowest, above⟩ := List.pairwise_cons.1 ascending
    unfold insertSorted
    split
    · rename_i less
      have first : path.Precedes other := (orderOf_eq_lt_iff _ _).1 less
      refine List.pairwise_cons.2 ⟨fun later member => ?_, ascending⟩
      rcases List.mem_cons.1 member with rfl | member
      · exact first
      · exact first.trans (lowest later member)
    · exact ascending
    · rename_i greater
      refine List.pairwise_cons.2 ⟨fun later member => ?_, step above⟩
      rcases mem_of_mem_insertSorted member with rfl | member
      · exact precedes_of_order_eq_gt greater
      · exact lowest later member

/-- Inserting brings a path into a list, unless another one with its components is there. -/
theorem mem_insertSorted_iff
    (apart : ∀ other ∈ sorted, path.components = other.components → path = other) :
    third ∈ insertSorted path sorted ↔ third = path ∨ third ∈ sorted := by
  refine ⟨mem_of_mem_insertSorted, ?_⟩
  induction sorted with
  | nil => exact fun member => by simpa [insertSorted] using member
  | cons other higher step =>
    rw [List.forall_mem_cons] at apart
    unfold insertSorted
    intro member
    split
    · exact List.mem_cons.2 member
    · rename_i same
      obtain rfl := apart.1 ((orderOf_eq_eq_iff _ _).1 same)
      rcases member with rfl | member
      · exact List.mem_cons_self
      · exact member
    · rcases member with rfl | member
      · exact List.mem_cons_of_mem other (step apart.2 (.inl rfl))
      · rcases List.mem_cons.1 member with rfl | later
        · exact List.mem_cons_self
        · exact List.mem_cons_of_mem other (step apart.2 (.inr later))

/-- Sorting one more path inserts it. -/
theorem sortDistinct_concat (paths : List Path) (path : Path) :
    sortDistinct (paths ++ [path]) = insertSorted path (sortDistinct paths) := by
  simp [sortDistinct]

/-- Sorted paths ascend. -/
theorem pairwise_sortDistinct (paths : List Path) : (sortDistinct paths).Pairwise Precedes := by
  induction paths using List.reverseRecOn with
  | nil => exact .nil
  | append_singleton paths path step =>
    rw [sortDistinct_concat]
    exact pairwise_insertSorted step path

/-- The sorted paths are those of the list, when no two of these have the same components. -/
theorem mem_sortDistinct_iff
    (apart : ∀ path ∈ paths, ∀ other ∈ paths, path.components = other.components → path = other) :
    third ∈ sortDistinct paths ↔ third ∈ paths := by
  induction paths using List.reverseRecOn generalizing third with
  | nil => rfl
  | append_singleton paths path step =>
    have before : ∀ {other}, other ∈ sortDistinct paths ↔ other ∈ paths :=
      step fun left inLeft right inRight =>
        apart left (List.mem_append_left _ inLeft) right (List.mem_append_left _ inRight)
    have alone : ∀ other ∈ sortDistinct paths, path.components = other.components → path = other :=
      fun other member => apart path (by simp) other (List.mem_append_left _ (before.1 member))
    rw [sortDistinct_concat, mem_insertSorted_iff alone, before, List.mem_append,
      List.mem_singleton, or_comm]

end Path

end Handbook
