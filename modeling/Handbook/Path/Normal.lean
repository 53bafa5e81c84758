import Handbook.Path.Basic

/-!
# Normal paths

The normal form of a path leaves out its dots and takes every name away together with a step up that
follows it. A step up that finds no name to take away is kept, except at the root, which is its own
folder. The form is computed from the components alone, without looking at any file tree, and two
paths with one normal form name the same document of a batch.
-/
namespace Handbook

namespace Component

/-- Add a component to a normal list of components that is given with its last component first. -/
def push (stack : List Component) (component : Component) : List Component :=
  match component with
  | current => stack
  | parent =>
    match stack with
    | name _ :: below => below
    | root :: _ => stack
    | _ => parent :: stack
  | component => component :: stack

/-- The normal form of a list of components. -/
def normal (components : List Component) : List Component := (components.foldl push []).reverse

end Component

namespace Path

/-- The path with the given components, without repeated or trailing separators. The empty list is
the folder that a dot names. -/
def ofComponents : List Component → Path
  | [] => ⟨"."⟩
  | .root :: rest => ⟨"/" ++ glue (rest.map Component.text)⟩
  | components => ⟨glue (components.map Component.text)⟩

/-- The normal form of a path. -/
def normalize (path : Path) : Path := ofComponents (Component.normal path.components)

end Path

end Handbook
