import Handbook.Disk.Workspace
import Handbook.Failure
import Handbook.Sample.Program

/-!
# Generating a program

The samples of a document are made into a program, and the program is written to a file. The
settings are looked at first, then the document is read, and the file is opened last. The steps
share the workspace, and what one of them has changed is not taken back when a later one fails; the
failure of any step leaves the disk as it was because only the last one changes it.
-/
namespace Handbook

/-- The text of a document from which samples are taken, and what was made of it. -/
structure ProgramDraft where
  /-- The blocks of the document. -/
  blocks : List Block
  /-- The sample lines. -/
  sample : Sample
  /-- The program around them. -/
  program : String

/-- Make the program of the document at a path. -/
def draftProgram (files : Files) (input : Path) (settings : Settings) :
    Except Failure ProgramDraft :=
  match settings.flaw? with
  | some flaw => .error (.flawed flaw)
  | none =>
    match files.read input with
    | .error error => .error (.unreadable input error)
    | .ok content =>
      let blocks := Block.ofText content
      let sample := Sample.ofBlocks settings blocks
      .ok ⟨blocks, sample, sample.program settings⟩

/-- Write the text of a program to a file. -/
def Workspace.writeProgram (workspace : Workspace) (output : Path) (program : String) :
    Except Failure Workspace :=
  (workspace.write output program).mapError (.unwritable output)

/-- A step of work: it sees and may change the workspace, and gives a value or fails. What was
changed before a failure stays changed. -/
abbrev Work := ExceptT Failure (StateM Workspace)

namespace Work

/-- Make the program of the document at a path as the files are now. -/
def draft (input : Path) (settings : Settings) : Work ProgramDraft := do
  let workspace ← get
  MonadExcept.ofExcept (draftProgram workspace.files input settings)

/-- Write the text of a program to a file as the files are now. -/
def write (output : Path) (program : String) : Work Unit := do
  let workspace ← get
  let changed ← MonadExcept.ofExcept (workspace.writeProgram output program)
  set changed

/-- Write the program of the document at a path to a file, and give the sample lines. -/
def generate (input output : Path) (settings : Settings) : Work Sample := do
  let draft ← Work.draft input settings
  Work.write output draft.program
  return draft.sample

/-- What comes of work in a workspace: the value or the failure, and the workspace afterwards. -/
def outcome {α : Type} (work : Work α) (workspace : Workspace) : Except Failure α × Workspace :=
  (ExceptT.run work).run workspace

end Work

namespace Workspace

/-- Write the program of the document at a path to a file: the sample lines and the workspace
afterwards. -/
def generate (workspace : Workspace) (input output : Path) (settings : Settings) :
    Except Failure (Sample × Workspace) :=
  let (result, after) := (Work.generate input output settings).outcome workspace
  result.map (·, after)

end Workspace

end Handbook
