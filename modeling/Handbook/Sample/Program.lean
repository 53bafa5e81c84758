import Handbook.Sample.Extract

/-!
# The program around a sample

A sample becomes a program of one entry point: the standard input and output header, the headers of
the settings, the directive lines, and the statement lines inside the entry point, which ends by
returning zero. Nothing is checked about the lines themselves.
-/
namespace Handbook

namespace Sample

/-- The line that includes a header of the settings. -/
def includeLine (header : String) : String := "#include \"" ++ header ++ "\""

/-- The lines of the program around a sample. -/
def programLines (settings : Settings) (sample : Sample) : List String :=
  ["#include <cstdio>"] ++ settings.headers.map includeLine ++ sample.directives ++
    ["int main() \x7b"] ++ sample.statements ++ [settings.indent ++ "return 0;", "\x7d"]

/-- The text of the program around a sample: every line ends with a line feed. -/
def program (settings : Settings) (sample : Sample) : String :=
  String.join ((sample.programLines settings).map (· ++ "\n"))

end Sample

end Handbook
