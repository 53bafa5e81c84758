import Handbook.Check.Summary
import Handbook.Command.Help
import Handbook.Log.Notice
import Handbook.Sample.Generate
import Handbook.Settings.File

/-!
# Runs of the program

A run looks at files first and may then write one, so it is a plan: either everything is decided by
the files as they are, or a program is to be written and what the run says depends on whether that
succeeds. Executing a plan in a workspace gives the outcome and the workspace afterwards.

The records of a run are written in the order of its steps: those about the outcome of a reference
check are printed, the others are logged.
-/
namespace Handbook

namespace Command

/-- What a run leaves: its exit status and what it wrote to the two output streams. -/
structure Outcome where
  /-- The exit status. -/
  status : Nat
  /-- The text on standard output. -/
  output : String := ""
  /-- What is written to standard error. -/
  notices : List Notice := []
  /-- What is on standard error instead of notices when the arguments are not understood. -/
  hint : String := ""

/-- What a run does after it has looked at the files. -/
inductive Plan where
  /-- Nothing more. -/
  | finish (outcome : Outcome)
  /-- Write a text to a file; the outcome depends on how that goes. -/
  | write (path : Path) (text : String) (outcome : Except FileError Unit → Outcome)

/-- The outcome of a run that failed after the given notices. -/
def failing (filter : LogFilter) (output : String) (notices : List Notice) (failure : Failure) :
    Outcome :=
  { status := 1, output, notices := notices ++ filter.notices [.failed failure] }

/-- The records of the steps of a reference check. -/
def checkRecords (files : Files) (paths : List Path) (mode : Mode) : List Record :=
  let (documents, failure) := files.indexAll paths
  documents.map (fun document => .indexed document.1 document.2) ++
    match failure with
    | some _ => []
    | none =>
      let batch := Batch.ofList documents
      .batchIndexed batch ::
        (CheckOutcome.errors (batch.reports files.present mode)).map .foundBroken

/-- Check the references of documents. -/
def check (files : Files) (filter : LogFilter) (paths : List Path) (mode : Mode) : Outcome :=
  let outcome := runReferenceCheck files paths mode
  let notices :=
    filter.notices (checkRecords files paths mode) ++ outcome.records.map .printed
  match outcome.result with
  | .ok () => { status := 0, output := outcome.output, notices }
  | .error failure => failing filter outcome.output notices failure

/-- The settings of a run: those of the file, with the marker in place of theirs if one is given. -/
def chooseSettings (files : Files) (path : Option Path) (marker : Option String) :
    Except Failure Settings := do
  let settings ← Settings.load files path
  match marker with
  | none => .ok settings
  | some marker => .ok { settings with markers := [marker] }

/-- The records of the steps of an extraction up to the writing of the program. -/
def sampleRecords (settings : Settings) (input : Path) (draft : ProgramDraft) : List Record :=
  .extracting input ::
    (draft.blocks.filter fun block => !settings.selects block.tag).map .skipped ++
    .extracted draft.sample ::
    if draft.sample.isEmpty then [.noSamples settings input] else []

/-- Write the program of a document to a file. -/
def generate (files : Files) (filter : LogFilter) (file : Option Path) (marker : Option String)
    (input output : Path) : Plan :=
  match chooseSettings files file marker with
  | .error failure => .finish (failing filter "" [] failure)
  | .ok settings =>
    let loaded := file.toList.map .settingsLoaded
    match draftProgram files input settings with
    | .error failure => .finish (failing filter "" (filter.notices loaded) failure)
    | .ok draft =>
      let records := loaded ++ sampleRecords settings input draft
      .write output draft.program fun
        | .ok () =>
          { status := 0
            notices := filter.notices (records ++ [.wrote output draft.program]) }
        | .error error =>
          failing filter "" (filter.notices records) (.unwritable output error)

/-- The log filter of a run: the given one, or the level that the verbose flag selects. -/
def chooseFilter (given : Option String) (verbose : Bool) : LogFilter :=
  LogFilter.ofText (given.getD (if verbose then "info" else "warn"))

/-- The files that a request reads. -/
def Request.reads : Request → List Path
  | help _ => []
  | version => []
  | check _ _ paths => paths
  | generate _ settings _ input _ => settings.toList ++ [input]

/-- What a request does, with a log filter that may be given as text. -/
def Request.plan (files : Files) (filter : Option String) : Request → Plan
  | help page => .finish { status := 0, output := textOfLines page.lines }
  | version => .finish { status := 0, output := textOfLines [versionLine] }
  | check verbose mode paths =>
    .finish (Command.check files (chooseFilter filter verbose) paths mode)
  | generate verbose settings marker input output =>
    Command.generate files (chooseFilter filter verbose) settings marker input output

/-- What the program does with its arguments. -/
def plan (files : Files) (filter : Option String) (arguments : List String) : Plan :=
  match Request.ofArguments arguments with
  | some request => request.plan files filter
  | none => .finish { status := 2, hint := usageHint }

end Command

/-- Run the program in a workspace: the outcome and the workspace afterwards. -/
def Workspace.run (workspace : Workspace) (filter : Option String) (arguments : List String) :
    Command.Outcome × Workspace :=
  match Command.plan workspace.files filter arguments with
  | .finish outcome => (outcome, workspace)
  | .write path text outcome =>
    match workspace.write path text with
    | .ok changed => (outcome (.ok ()), changed)
    | .error error => (outcome (.error error), workspace)

end Handbook
