import Handbook.Disk.Error
import Handbook.Path.Basic

/-!
# What a check sees of the files

Checking documents asks two questions about the files: what is the text at a path, and is there
anything at a path. A check is a function of the answers, so it gives the same result on every disk
that answers alike.
-/
namespace Handbook

/-- The answers about the files at the time of a run. -/
structure Files where
  /-- The text of the file at a path. -/
  read : Path → Except FileError String
  /-- Whether there is a file or a folder at a path. -/
  present : Path → Bool

end Handbook
