import Handbook.Path.Basic

/-!
# Paths in component order

Lists of paths are put in order component by component: the root first, then a leading dot, then a
step up, then names by their characters. A folder so comes right before what lies in it, which the
order of the spellings does not give, since characters below the separator may follow a name.
-/
namespace Handbook

namespace Component

/-- The kinds of components in order. -/
def rank : Component → Nat
  | root => 0
  | current => 1
  | parent => 2
  | name _ => 3

/-- Components by kind, and names by their characters. -/
def order : Component → Component → Ordering
  | name left, name right => compare left right
  | left, right => compare left.rank right.rank

end Component

namespace Path

/-- The first difference of two lists of components decides; a list comes before its
continuations. -/
def orderOf : List Component → List Component → Ordering
  | [], [] => .eq
  | [], _ :: _ => .lt
  | _ :: _, [] => .gt
  | left :: lefts, right :: rights => (left.order right).then (orderOf lefts rights)

/-- Paths by their components. -/
def order (left right : Path) : Ordering := orderOf left.components right.components

/-- Put a path into a strictly ascending list, unless a path with its components is there. -/
def insertSorted (path : Path) : List Path → List Path
  | [] => [path]
  | other :: higher =>
    match path.order other with
    | .lt => path :: other :: higher
    | .eq => other :: higher
    | .gt => other :: insertSorted path higher

/-- The different paths of a list in ascending order. -/
def sortDistinct (paths : List Path) : List Path :=
  paths.foldl (fun sorted path => insertSorted path sorted) []

end Path

end Handbook
