import Handbook.Command.Run
import Std.Time.DateTime
import Std.Time.Format

/-!
# The program

Reads the files that the arguments name, lets the run be planned from their texts, writes the
program if the plan has one, and shows the outcome.
-/
namespace Handbook

namespace Program

/-- The number by which the system gives the reason of an error. -/
def errorNumber : IO.Error → Option UInt32
  | .alreadyExists _ number _ => some number
  | .otherError number _ => some number
  | .resourceBusy number _ => some number
  | .resourceVanished number _ => some number
  | .unsupportedOperation number _ => some number
  | .hardwareFault number _ => some number
  | .unsatisfiedConstraints number _ => some number
  | .illegalOperation number _ => some number
  | .protocolError number _ => some number
  | .timeExpired number _ => some number
  | .interrupted _ number _ => some number
  | .noFileOrDirectory _ number _ => some number
  | .invalidArgument _ number _ => some number
  | .permissionDenied _ number _ => some number
  | .resourceExhausted _ number _ => some number
  | .inappropriateType _ number _ => some number
  | .noSuchThing _ number _ => some number
  | .unexpectedEof => none
  | .userError _ => none

/-- The error of file access that a system error is. Its number may be given with a minus sign, in
32 bits. -/
def fileError (error : IO.Error) : FileError :=
  match (errorNumber error).map fun number => min number (0 - number) with
  | some 2 => .notFound
  | some 20 => .notFolder
  | some 21 => .isFolder
  | some 36 => .nameTooLong
  | _ => .other (toString error)

/-- Read the text of a file. -/
def readText (path : Path) : IO (Except FileError String) := do
  match ← (IO.FS.readBinFile ⟨path.spelling⟩).toBaseIO with
  | .ok bytes =>
    match String.fromUTF8? bytes with
    | some text => return .ok text
    | none => return .error .notText
  | .error error => return .error (fileError error)

/-- Write a text to a file. -/
def writeText (path : Path) (text : String) : IO (Except FileError Unit) := do
  match ← (IO.FS.writeFile ⟨path.spelling⟩ text).toBaseIO with
  | .ok () => return .ok ()
  | .error error => return .error (fileError error)

/-- Look whether there is a file or a folder at a path. -/
def isPresent (path : Path) : IO Bool := do
  match ← (IO.FS.realPath ⟨path.spelling⟩).toBaseIO with
  | .ok _ => return true
  | .error _ => return false

/-- Ask about the files that a run reads and about the targets of their references. -/
def observe (paths : List Path) : IO Files := do
  let texts ← paths.mapM fun path => return (path, ← readText path)
  let targets := texts.flatMap fun (path, text) =>
    match text with
    | .ok content => (Index.ofText path content).references.map (·.target)
    | .error _ => []
  let found ← targets.mapM fun target => return (target, ← isPresent target)
  return {
    read := fun path => (texts.lookup path).getD (.error .notFound)
    present := fun path => (found.lookup path).getD false }

/-- Show an outcome; its notices get the time at which they are shown. -/
def emit (outcome : Command.Outcome) : IO Unit := do
  IO.print outcome.output
  let time := (← Std.Time.DateTime.now).format "uuuu-MM-dd HH:mm:ss"
  for notice in outcome.notices do
    IO.eprint (notice.text time)
  IO.eprint outcome.hint

end Program

end Handbook

open Handbook in
/-- Run the program with its arguments; the result is the exit status. -/
def main (arguments : List String) : IO UInt32 := do
  let reads := ((Command.Request.ofArguments arguments).map (·.reads)).getD []
  let files ← Program.observe reads
  let outcome ←
    match Command.plan files (← IO.getEnv "RUST_LOG") arguments with
    | .finish outcome => pure outcome
    | .write path text outcome => pure (outcome (← Program.writeText path text))
  Program.emit outcome
  return outcome.status.toUInt32
