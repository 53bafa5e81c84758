/-!
# Log records

A record is one message of a run, with its level and the part of the program it comes from. As a
line it starts with the time, which is not part of the record.
-/
namespace Handbook

/-- How much a message matters. -/
inductive Level where
  /-- The run fails. -/
  | error
  /-- The run may not do what was meant. -/
  | warn
  /-- A step of the run was done. -/
  | info
  /-- A detail of a step. -/
  | debug
deriving DecidableEq

namespace Level

/-- The place of a level in the order of detail; zero is no message at all. -/
def detail : Level → Nat
  | error => 1
  | warn => 2
  | info => 3
  | debug => 4

/-- The name of a level in a line. -/
def label : Level → String
  | error => "ERROR"
  | warn => "WARN"
  | info => "INFO"
  | debug => "DEBUG"

end Level

/-- A message of a run. -/
structure Record where
  /-- How much the message matters. -/
  level : Level
  /-- The part of the program that it comes from. -/
  target : String
  /-- The words. -/
  message : String
deriving DecidableEq

/-- The line of a record at a time. -/
def Record.line (time : String) (record : Record) : String :=
  time ++ " [" ++ record.level.label ++ "] (" ++ record.target ++ "): " ++ record.message ++ "\n"

end Handbook
