import Handbook.Text.Plain

/-!
# Quoted texts

A message names a text between double quotes, in one line of visible characters: the quote, the
backslash and the control characters with a short name are written with a backslash, and any other
character that cannot be shown by itself as its code point.
-/
namespace Handbook.Text

/-- A code point in lowercase hexadecimal digits, as few as it needs. -/
def hexadecimal (code : Nat) : List Char := Nat.toDigits 16 code

/-- A character as it is written between quotes. -/
def quotedChar (character : Char) : List Char :=
  if character = '"' then ['\\', '"']
  else if character = '\\' then ['\\', '\\']
  else if character = '\n' then ['\\', 'n']
  else if character = '\r' then ['\\', 'r']
  else if character = '\t' then ['\\', 't']
  else if character.toNat = 0 then ['\\', '0']
  else if isPlain character then [character]
  else ['\\', 'u', '\x7b'] ++ hexadecimal character.toNat ++ ['\x7d']

/-- A text between double quotes. -/
def quoted (text : String) : String :=
  String.ofList (['"'] ++ text.toList.flatMap quotedChar ++ ['"'])

end Handbook.Text
