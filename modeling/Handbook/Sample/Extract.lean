import Handbook.Sample.Block
import Handbook.Settings.Basic

/-!
# Samples

The lines of the blocks that the settings select, in the order of the document, sorted by where they
go in the assembled program: a line that starts with the directive stands outside the entry point as
it is, any other line, an empty one included, stands inside and is indented.
-/
namespace Handbook

/-- The sample lines of a document. -/
structure Sample where
  /-- The lines outside the entry point. -/
  directives : List String
  /-- The lines inside the entry point, with their indent. -/
  statements : List String
deriving DecidableEq, Inhabited

namespace Settings

/-- Whether a line starts with the directive. -/
def isDirective (settings : Settings) (line : String) : Bool :=
  settings.directive.toList.isPrefixOf line.toList

end Settings

namespace Sample

/-- Sort the lines of the selected blocks. -/
def ofBlocks (settings : Settings) (blocks : List Block) : Sample :=
  let lines := (blocks.filter fun block => settings.selects block.tag).flatMap (·.body)
  { directives := lines.filter settings.isDirective
    statements := (lines.filter (!settings.isDirective ·)).map (settings.indent ++ ·) }

/-- The sample that is made of the blocks of a document. -/
def ofText (settings : Settings) (content : String) : Sample :=
  ofBlocks settings (Block.ofText content)

/-- Whether the document has no sample lines. -/
def isEmpty (sample : Sample) : Bool := sample.directives.isEmpty && sample.statements.isEmpty

end Sample

end Handbook
