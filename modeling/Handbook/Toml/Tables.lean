import Handbook.Toml.Value

/-!
# Building TOML tables

A document defines each key once. A dotted key may add to tables that dotted keys made, and pass
through tables that were only implied; the header of a table may pass through any table that is not
a value, opens a table that is new or was only implied, and adds to the list of a repeated header
only when the header is repeated. Through a list of tables a key or header goes on in the last one.
-/
namespace Handbook.Toml

/-- Replace the value under a key, or add one at the end; the change sees the value that is there
and may be refused. -/
def alter (key : String) (change : Option Value → Option Value) : Entries → Option Entries
  | [] => (change none).map fun value => [(key, value)]
  | (other, old) :: rest =>
    if other = key then (change (some old)).map fun value => (other, value) :: rest
    else (alter key change rest).map ((other, old) :: ·)

/-- Change the entries of a table that a key or header passes through: a missing table is made, a
table of an allowed origin is changed, and of a list of tables the last one. -/
def enter (fresh : Origin) (allowed : List Origin) (change : Entries → Option Entries) :
    Option Value → Option Value
  | none => (change []).map (.table fresh)
  | some (.table origin entries) =>
    if allowed.contains origin then (change entries).map (.table origin) else none
  | some (.tables last earlier) => (change last).map fun entries => .tables entries earlier
  | some _ => none

/-- Add an entry under a key that is new. -/
def define (key : String) (value : Value) : Entries → Option Entries :=
  alter key fun
    | none => some value
    | some _ => none

/-- Add an entry under a dotted key. The table that gets the entry must be one that dotted keys
made, unless it is the table in which the key stands. -/
def assign : List String → Value → Entries → Option Entries
  | [], _, _ => none
  | [key], value, entries => define key value entries
  | [last, key], value, entries =>
    alter last
      (fun
        | some (.tables _ _) => none
        | old => enter .dotted [.dotted] (define key value) old) entries
  | step :: path, value, entries =>
    alter step (enter .dotted [.dotted, .implied] (assign path value)) entries

/-- The origins of tables that a header may pass through. -/
def extensible : List Origin := [.header, .implied, .dotted]

/-- Open the table of a header. -/
def openTable : List String → Entries → Option Entries
  | [], _ => none
  | [key], entries =>
    alter key
      (fun
        | none => some (.table .header [])
        | some (.table .implied inner) => some (.table .header inner)
        | some _ => none) entries
  | step :: path, entries => alter step (enter .implied extensible (openTable path)) entries

/-- Open one more table under a repeated header. -/
def openElement : List String → Entries → Option Entries
  | [], _ => none
  | [key], entries =>
    alter key
      (fun
        | none => some (.tables [] [])
        | some (.tables last earlier) => some (.tables [] (last :: earlier))
        | some _ => none) entries
  | step :: path, entries => alter step (enter .implied extensible (openElement path)) entries

/-- Change the table that a header opened. -/
def changeAt (change : Entries → Option Entries) : List String → Entries → Option Entries
  | [], entries => change entries
  | step :: path, entries => alter step (enter .implied extensible (changeAt change path)) entries

end Handbook.Toml
