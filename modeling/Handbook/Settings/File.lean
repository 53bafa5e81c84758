import Handbook.Disk.Files
import Handbook.Failure
import Handbook.Toml.Document

/-!
# Settings files

Settings are the table `example` of a TOML document. Each setting has a key, or in an array a place;
what is missing keeps its default, and keys and places that name no setting are passed over. A
setting of the wrong type makes the whole text malformed. A text is read completely before its
settings are looked at for flaws.
-/
namespace Handbook

open Toml

namespace Settings

/-- The text that a value is. -/
def text? : Value → Option String
  | .text content => some content
  | _ => none

/-- The list of texts that a value is. -/
def texts? : Value → Option (List String)
  | .array items => items.mapM text?
  | _ => none

/-- A setting of which the value may be missing. -/
def setting? {α : Type} (read? : Value → Option α) (default : α) : Option Value → Option α
  | none => some default
  | some value => read? value

/-- The settings with the given values, the others as they are by default. -/
def ofValues? (markers directive indent headers : Option Value) : Option Settings := do
  let standard : Settings := {}
  some
    { markers := ← setting? texts? standard.markers markers
      directive := ← setting? text? standard.directive directive
      indent := ← setting? text? standard.indent indent
      headers := ← setting? texts? standard.headers headers }

/-- The settings that a value is: by key in a table and by place in an array. A moment has no part
that is a setting. -/
def ofValue? : Value → Option Settings
  | .table _ entries =>
    ofValues? (entries.lookup "fence_markers") (entries.lookup "directive_marker")
      (entries.lookup "indent") (entries.lookup "includes")
  | .array items => ofValues? items[0]? items[1]? items[2]? items[3]?
  | .scalar .moment => some {}
  | _ => none

/-- The settings in a document; without the table they are the default ones. -/
def ofEntries? (entries : Entries) : Option Settings :=
  setting? ofValue? {} (entries.lookup "example")

/-- The settings in a text, if it has settings and they have no flaw. -/
def ofText (content : String) : Except SettingsError Settings :=
  match (parse? content).bind ofEntries? with
  | none => .error .malformed
  | some settings =>
    match settings.flaw? with
    | none => .ok settings
    | some flaw => .error (.flawed flaw)

/-- The settings in the file at a path, or the default ones when there is no path. -/
def load (files : Files) : Option Path → Except Failure Settings
  | none => .ok {}
  | some path =>
    match files.read path with
    | .error error => .error (.unreadable path error)
    | .ok content => (ofText content).mapError (.badFile path)

end Settings

end Handbook
