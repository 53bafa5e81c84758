/-!
# Texts without control sequences

A text that goes to a terminal may carry commands to it, which begin with the escape character. The
commands and the control characters are left out here and the rest is kept: every other character,
the tab, the line feed, the form feed and the carriage return. A command that is never finished
takes the rest of the text with it.

The four controls that lay out a text are kept inside an escape sequence or a control sequence too,
and interrupt it: the characters that follow belong to the text, up to the next control that is left
out, with which the sequence goes on. A character outside ASCII that comes first ends the sequence.

The one-byte controls of the second half of the code, such as U+009B, begin no command: they are
characters like any other, and only the byte of the string terminator is obeyed inside a string,
also where it is a part of the encoding of a character.
-/
namespace Handbook.Text

/-- A place in a command. -/
inductive Place where
  /-- In no command. -/
  | text
  /-- After the escape character. -/
  | escape
  /-- In an escape sequence of more than two characters. -/
  | escapeTail
  /-- In a control sequence, as the one that sets a colour. -/
  | sequence
  /-- At the start of a device control string. -/
  | deviceStart
  /-- In the parameters of a device control string. -/
  | deviceParameters
  /-- Between the parameters of a device control string and its content. -/
  | deviceTail
  /-- In a string that lasts up to the string terminator. -/
  | string
  /-- In a command to the operating system, as the one that sets a title. -/
  | system
deriving DecidableEq

/-- Whether a character is one of the controls that lay out a text. -/
def isLayout (character : Char) : Bool :=
  character = '\t' || character = '\n' || character = '\x0c' || character = '\r'

/-- Whether a character is a part of a text rather than a control. -/
def isVisible (character : Char) : Bool :=
  isLayout character || (' ' ≤ character && character ≠ '\x7f')

/-- Whether the encoding of a character has the byte of the string terminator. -/
def endsString (character : Char) : Bool := (String.utf8EncodeChar character).contains 0x9c

/-- Whether a character lies between two others, both included. -/
def isBetween (low high character : Char) : Bool := low ≤ character && character ≤ high

namespace Place

/-- Whether a character that is read here is kept. -/
def keeps : Place → Char → Bool
  | text, character => isVisible character
  | escape, character | escapeTail, character | sequence, character => isLayout character
  | deviceStart, _ | deviceParameters, _ | deviceTail, _ | string, _ | system, _ => false

/-- The place after a character that neither begins a command nor breaks one off. -/
def next : Place → Char → Place
  | text, _ => text
  | escape, character =>
    if character = '[' then sequence
    else if character = ']' then system
    else if character = 'P' then deviceStart
    else if character = 'X' || character = '^' || character = '_' then string
    else if isBetween ' ' '/' character then escapeTail
    else if isBetween '0' '~' character then text
    else escape
  | escapeTail, character => if isBetween '0' '~' character then text else escapeTail
  | sequence, character => if isBetween '@' '~' character then text else sequence
  | deviceStart, character =>
    if isBetween ' ' '/' character then deviceTail
    else if isBetween '0' '?' character then deviceParameters
    else if isBetween '@' '~' character then string
    else deviceStart
  | deviceParameters, character =>
    if isBetween ' ' '/' character then deviceTail
    else if isBetween '<' '~' character then string
    else deviceParameters
  | deviceTail, character => if isBetween '0' '~' character then string else deviceTail
  | string, character => if endsString character then text else string
  | system, character => if character = '\x07' then text else system

end Place

/-- The reader of a text. -/
structure Reader where
  /-- The place in a command. -/
  place : Place := .text
  /-- Whether the text goes on in spite of the command; outside a command it makes no difference. -/
  interrupted : Bool := false
deriving DecidableEq

namespace Reader

/-- Whether a character that is read is kept. -/
def keeps (reader : Reader) (character : Char) : Bool :=
  if reader.interrupted then isVisible character else reader.place.keeps character

/-- The reader after a character. The escape character begins a command wherever it stands, and the
cancel and substitute characters break one off. -/
def after (reader : Reader) (character : Char) : Reader :=
  if character = '\x1b' then { place := .escape }
  else if character = '\x18' || character = '\x1a' then {}
  else if !reader.interrupted then
    ⟨reader.place.next character, reader.place.keeps character⟩
  else if !isVisible character then { place := reader.place }
  else if character.toNat < 0x80 then reader
  else {}

/-- What is kept of the rest of a text. -/
def kept (reader : Reader) : List Char → List Char
  | [] => []
  | character :: rest =>
    let later := (reader.after character).kept rest
    if reader.keeps character then character :: later else later

end Reader

/-- A text without its control sequences and control characters. -/
def withoutControls (text : String) : String :=
  String.ofList (({} : Reader).kept text.toList)

end Handbook.Text
