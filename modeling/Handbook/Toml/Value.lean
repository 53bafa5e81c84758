/-!
# TOML values

The values of a TOML document as far as settings need them: texts, arrays and tables are kept, and
of any other scalar only its kind. A table remembers how it came about, since that decides which
later lines may add to it.
-/
namespace Handbook.Toml

/-- The kinds of scalars other than texts. -/
inductive Scalar where
  /-- A whole number of 64 bits with sign. -/
  | integer
  /-- A binary floating-point number, an infinity or a not-a-number. -/
  | float
  /-- A truth value. -/
  | boolean
  /-- A date, a time or both. -/
  | moment
deriving DecidableEq

/-- How a table came about. -/
inductive Origin where
  /-- Written as a value between braces; nothing is added to it. -/
  | inline
  /-- Opened by a header of its own. -/
  | header
  /-- Made on the way to a table whose header was read. -/
  | implied
  /-- Made by the dotted key of an entry. -/
  | dotted
deriving DecidableEq

/-- A value of a TOML document. -/
inductive Value where
  /-- A text. -/
  | text (content : String)
  /-- A scalar of which only the kind is kept. -/
  | scalar (kind : Scalar)
  /-- An array written between brackets. -/
  | array (items : List Value)
  /-- A table with its entries in order. -/
  | table (origin : Origin) (entries : List (String × Value))
  /-- The tables under one repeated header: the entries of the last one, and those of the ones
  before it, the later first. -/
  | tables (last : List (String × Value)) (earlier : List (List (String × Value)))

/-- The entries of a table, each key once. -/
abbrev Entries := List (String × Value)

end Handbook.Toml
