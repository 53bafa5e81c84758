import Handbook.Check.Report

/-!
# Command-line arguments

The arguments name a command and, before or after the command, options. Arguments are read from left
to right. Asking for help or for the version takes effect at once, and so does a mistake: an unknown
option, a flag given twice on the same side of the command, an argument too many, an option without
a value, or an empty path. Letters after one hyphen are flags in a row; a hyphen alone is an
ordinary argument, and after two hyphens alone every argument is.
-/
namespace Handbook

namespace Command

/-- The pages of help. -/
inductive Page where
  /-- The whole program. -/
  | program
  /-- The command that checks references. -/
  | refs
  /-- The command that extracts samples. -/
  | sample
  /-- The command that prints help. -/
  | help
deriving DecidableEq

/-- What the arguments ask for. -/
inductive Request where
  /-- Print a page of help. -/
  | help (page : Page)
  /-- Print the version. -/
  | version
  /-- Check the references of documents. -/
  | check (verbose : Bool) (mode : Mode) (paths : List Path)
  /-- Write the program of a document to a file, with the settings of a file and with one marker
  instead of theirs when these are given. -/
  | generate (verbose : Bool) (settings : Option Path) (marker : Option String)
    (input output : Path)
deriving DecidableEq

/-- Whether an argument is an option rather than a path or a value. -/
def isOption (argument : String) : Bool :=
  match argument.toList with
  | '-' :: _ :: _ => true
  | _ => false

/-- Whether an argument is an option with a name rather than a row of flags. -/
def isNamed (argument : String) : Bool :=
  match argument.toList with
  | '-' :: '-' :: _ => true
  | _ => false

/-- The letters of an argument that is a row of flags. -/
def letters (argument : String) : List Char := argument.toList.tail

/-- What a row of flags amounts to. -/
inductive Flags where
  /-- Every letter is a flag; whether the run is to be verbose after them. -/
  | read (verbose : Bool)
  /-- Help or the version is asked for. -/
  | request (request : Request)
  /-- A letter is no flag, or a flag is given twice. -/
  | mistaken

/-- Read a row of flags. Help is about the given page, and only with the whole program is there a
version. -/
def readLetters (page : Page) (verbose : Bool) : List Char → Flags
  | [] => .read verbose
  | 'v' :: rest => if verbose then .mistaken else readLetters page true rest
  | 'h' :: _ => .request (.help page)
  | 'V' :: _ => if page = .program then .request .version else .mistaken
  | _ => .mistaken

/-- Read an argument that may be an option that every command has. -/
def readFlags (page : Page) (verbose : Bool) (argument : String) : Flags :=
  if argument = "--verbose" then readLetters page verbose ['v']
  else if argument = "--help" then readLetters page verbose ['h']
  else if argument = "--version" then readLetters page verbose ['V']
  else if isNamed argument then .mistaken
  else readLetters page verbose (letters argument)

/-- A path that is given as an argument. -/
def path? (argument : String) : Option Path := if argument = "" then none else some ⟨argument⟩

/-- The paths of documents to check. -/
def readFiles (verbose : Bool) (mode : Mode) (paths arguments : List String) : Option Request := do
  let paths ← (paths ++ arguments).mapM path?
  if paths = [] then none else some (.check verbose mode paths)

/-- Read the arguments after the command that checks references. The run is verbose when the flag
stands before the command or after it. -/
def readRefs (outer inner : Bool) (mode : Mode) (paths : List String) :
    List String → Option Request
  | [] => readFiles (outer || inner) mode paths []
  | argument :: rest =>
    if argument = "--" then readFiles (outer || inner) mode paths rest
    else if argument = "--fail-fast" then
      if mode = .failFast then none else readRefs outer inner .failFast paths rest
    else if isOption argument then
      match readFlags .refs inner argument with
      | .read inner => readRefs outer inner mode paths rest
      | .request request => some request
      | .mistaken => none
    else if argument = "" then none
    else readRefs outer inner mode (paths ++ [argument]) rest

/-- What was read of the arguments after the command that extracts samples. -/
structure Draft where
  /-- The file of the settings. -/
  settings : Option Path := none
  /-- The marker instead of the ones in the settings. -/
  marker : Option String := none
  /-- The paths of the document and of the program, as far as they were given. -/
  paths : List Path := []

/-- Add a path, of which there are two. -/
def Draft.addPath (draft : Draft) (argument : String) : Option Draft := do
  let path ← path? argument
  if draft.paths.length < 2 then some { draft with paths := draft.paths ++ [path] } else none

/-- Give the file of the settings, once. -/
def Draft.setSettings (draft : Draft) (argument : String) : Option Draft := do
  let path ← path? argument
  if draft.settings.isNone then some { draft with settings := path } else none

/-- Give the marker, once. It may be empty here; the settings with it are looked at later. -/
def Draft.setMarker (draft : Draft) (argument : String) : Option Draft :=
  if draft.marker.isNone then some { draft with marker := argument } else none

/-- The request that is complete when both paths are given. -/
def Draft.request (draft : Draft) (verbose : Bool) : Option Request :=
  match draft.paths with
  | [input, output] => some (.generate verbose draft.settings draft.marker input output)
  | _ => none

/-- The value of an option that is written together with its name. -/
def attached? (option argument : String) : Option String :=
  if (option ++ "=").toList.isPrefixOf argument.toList then
    some (String.ofList (argument.toList.drop (option.length + 1)))
  else none

/-- The option with a value that an argument names, as the change that the value makes, and the
value when it is written together with the name. -/
def valued? (argument : String) :
    Option ((Draft → String → Option Draft) × Option String) :=
  if argument = "--config" then some (Draft.setSettings, none)
  else if argument = "--language" then some (Draft.setMarker, none)
  else
    match attached? "--config" argument, attached? "--language" argument with
    | some value, _ => some (Draft.setSettings, some value)
    | _, some value => some (Draft.setMarker, some value)
    | _, _ => none

/-- Read the arguments after the command that extracts samples. -/
def readSample (outer inner : Bool) (draft : Draft) : List String → Option Request
  | [] => draft.request (outer || inner)
  | argument :: rest =>
    if argument = "--" then do
      (← rest.foldlM Draft.addPath draft).request (outer || inner)
    else if isOption argument then
      match valued? argument with
      | some (change, some value) => do readSample outer inner (← change draft value) rest
      | some (change, none) =>
        match rest with
        | value :: rest =>
          if isOption value then none else do readSample outer inner (← change draft value) rest
        | [] => none
      | none =>
        match readFlags .sample inner argument with
        | .read inner => readSample outer inner draft rest
        | .request request => some request
        | .mistaken => none
    else do readSample outer inner (← draft.addPath argument) rest

/-- Read the arguments after the command that prints help. -/
def readHelp : List String → Option Request
  | [] => some (.help .program)
  | ["refs"] => some (.help .refs)
  | ["example"] => some (.help .sample)
  | ["help"] => some (.help .help)
  | _ => none

/-- Read the arguments up to the command and what comes after it. -/
def readCommand (verbose : Bool) : List String → Option Request
  | [] => none
  | argument :: rest =>
    if argument = "refs" then readRefs verbose false .collect [] rest
    else if argument = "example" then readSample verbose false {} rest
    else if argument = "help" then readHelp rest
    else if isOption argument && argument != "--" then
      match readFlags .program verbose argument with
      | .read verbose => readCommand verbose rest
      | .request request => some request
      | .mistaken => none
    else none

/-- What the arguments ask for, unless there is a mistake in them. -/
def Request.ofArguments (arguments : List String) : Option Request := readCommand false arguments

end Command

end Handbook
