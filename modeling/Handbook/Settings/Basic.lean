import Handbook.Text.Blank
import Handbook.Text.Quoted

/-!
# Settings for code samples

Which blocks of a document are samples, which of their lines go outside the entry point of the
assembled program, how the others are indented, and which headers the program includes. Settings are
sound when every fence can carry each marker and every header fits between quotes on one line;
`Settings.flaw?` names the first thing that is wrong.
-/
namespace Handbook

open Text

/-- How samples are found in a document and put into a program. -/
structure Settings where
  /-- The tags of the blocks that are samples. -/
  markers : List String := ["c++"]
  /-- The text that a line outside the entry point starts with. -/
  directive : String := "#"
  /-- The text before each line inside the entry point. -/
  indent : String := "    "
  /-- The headers that the program includes. -/
  headers : List String := []
deriving DecidableEq, Inhabited

namespace Settings

/-- Why settings are refused. -/
inductive Flaw where
  /-- No block can be a sample. -/
  | noMarker
  /-- No fence can carry the marker. -/
  | badMarker (marker : String)
  /-- Every line would start with the directive. -/
  | emptyDirective
  /-- The header cannot stand between quotes on one line. -/
  | badHeader (header : String)
deriving DecidableEq

/-- The words for a flaw. -/
def Flaw.message : Flaw → String
  | noMarker => "Example configuration must have at least one fence marker"
  | badMarker marker => "Invalid fence marker: " ++ quoted marker
  | emptyDirective => "Directive marker cannot be empty"
  | badHeader header => "Invalid include header: " ++ quoted header

/-- Whether a marker is nonempty and has neither white space nor a backtick. -/
def isMarker (marker : String) : Bool :=
  marker != "" && !marker.toList.any fun character => isBlank character || character == '\x60'

/-- Whether a header is nonempty and has neither a quote nor the end of a line. -/
def isHeader (header : String) : Bool :=
  header != "" && !header.toList.any fun character =>
    character == '"' || character == '\n' || character == '\r'

/-- The first flaw of the settings. -/
def flaw? (settings : Settings) : Option Flaw :=
  if settings.markers = [] then some .noMarker
  else
    match settings.markers.find? (!isMarker ·) with
    | some marker => some (.badMarker marker)
    | none =>
      if settings.directive = "" then some .emptyDirective
      else (settings.headers.find? (!isHeader ·)).map .badHeader

/-- Whether two tags are the same up to the case of ASCII letters. -/
def sameTag (left right : String) : Bool :=
  left.toList.map Char.toLower == right.toList.map Char.toLower

/-- Whether blocks with the tag are samples. -/
def selects (settings : Settings) (tag : String) : Bool := settings.markers.any (sameTag · tag)

end Settings

end Handbook
