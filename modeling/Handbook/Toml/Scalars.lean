import Handbook.Text.Lines
import Handbook.Toml.Value

/-!
# TOML scalars other than texts

The longest run of letters, digits, signs, points, underscores and colons is one scalar or none:
nothing that may follow a scalar has one of these characters. Numbers may group their digits with
single underscores between them. A whole number must fit into 64 bits with a sign, and a decimal
fraction must not round to the positive infinity; a day must exist in its month. A date and a time
may have a space between them, so a moment may go over two runs.
-/
namespace Handbook.Toml

open Text

/-- Whether a character may be part of a scalar. -/
def isScalarChar (character : Char) : Bool :=
  character.isAlphanum || ['+', '-', '_', '.', ':'].contains character

/-- Whether digits of a base stand in groups with single underscores between them. -/
def isGrouped (isDigit : Char → Bool) : List Char → Bool
  | [] => false
  | [digit] => isDigit digit
  | digit :: '_' :: rest => isDigit digit && isGrouped isDigit rest
  | digit :: rest => isDigit digit && isGrouped isDigit rest

/-- Whether a text is a decimal whole number without a sign: no zero leads other digits. -/
def isDecimal (text : List Char) : Bool :=
  text == ['0'] || (text.head? != some '0' && isGrouped Char.isDigit text)

/-- The value of a digit up to f. -/
def digitValue (digit : Char) : Nat :=
  if digit.isDigit then digit.toNat - '0'.toNat else digit.toLower.toNat - 'a'.toNat + 10

/-- The number that digits of a base write, underscores left out. -/
def number (base : Nat) (digits : List Char) : Nat :=
  (digits.filter (· != '_')).foldl (fun value digit => base * value + digitValue digit) 0

/-- The number that digits of a base write, underscores left out, or the limit if it is less. It is
never greater than the limit on the way. -/
def numberUpTo (limit base : Nat) (digits : List Char) : Nat :=
  (digits.filter (· != '_')).foldl
    (fun value digit => min limit (base * value + digitValue digit)) 0

/-- Whether digits of a base write a number below a limit. -/
def isBelow (limit base : Nat) (digits : List Char) : Bool := numberUpTo limit base digits < limit

/-- A text without its sign, and whether the sign is a minus. -/
def unsigned : List Char → Bool × List Char
  | '+' :: rest => (false, rest)
  | '-' :: rest => (true, rest)
  | text => (false, text)

/-- Whether a digit belongs to base sixteen. -/
def isHexDigit (digit : Char) : Bool :=
  digit.isDigit || ('a' ≤ digit.toLower && digit.toLower ≤ 'f')

/-- The least number that does not fit into 64 bits with a sign. -/
def wordLimit : Nat := 0x8000000000000000

/-- Whether a text is a whole number of 64 bits with sign. -/
def isInteger : List Char → Bool
  | '0' :: 'x' :: digits => isGrouped isHexDigit digits && isBelow wordLimit 16 digits
  | '0' :: 'o' :: digits =>
    isGrouped (fun digit => '0' ≤ digit && digit ≤ '7') digits && isBelow wordLimit 8 digits
  | '0' :: 'b' :: digits =>
    isGrouped (fun digit => digit == '0' || digit == '1') digits && isBelow wordLimit 2 digits
  | text =>
    let (negative, digits) := unsigned text
    isDecimal digits && isBelow (if negative then wordLimit + 1 else wordLimit) 10 digits

/-- The exponent that digits write. Once it is 65536 or more, no further digit is read. -/
def exponentOf (digits : List Char) : Nat :=
  (digits.filter (· != '_')).foldl
    (fun value digit => if value < 65536 then 10 * value + digitValue digit else value) 0

/-- The least number that rounds to the infinity of 64 bits: the middle between the greatest finite
number and the power of two above it. -/
def infinityLimit : Nat := Nat.pow 2 1024 - Nat.pow 2 970

/-- Whether digits times a power of ten round to a finite number. The limit is a whole number, so
only the digits before the point count, and it has 309 of them. -/
def isFinite (digits : List Char) (exponent : Int) : Bool :=
  let digits := digits.dropWhile (· == '0')
  let places := digits.length + exponent
  if digits = [] ∨ places ≤ 0 then true
  else if 309 < places then false
  else
    let zeros := List.replicate (places.toNat - digits.length) '0'
    number 10 (digits.take places.toNat ++ zeros) < infinityLimit

/-- Whether a text is a floating-point number: digits with a fraction, an exponent or both, an
infinity, or a not-a-number. -/
def isFloat (text : List Char) : Bool :=
  let (negative, body) := unsigned text
  let isExponentMark := fun (character : Char) => character == 'e' || character == 'E'
  let mantissa := body.takeWhile (!isExponentMark ·)
  let exponent := body.dropWhile (!isExponentMark ·)
  let whole := mantissa.takeWhile (· != '.')
  let fraction := mantissa.dropWhile (· != '.')
  let (shrinks, power) := unsigned exponent.tail
  let written := isDecimal whole &&
    (fraction.isEmpty || isGrouped Char.isDigit fraction.tail) &&
    (exponent.isEmpty || isGrouped Char.isDigit power) &&
    !(fraction.isEmpty && exponent.isEmpty)
  let digits := (whole ++ fraction.tail).filter (· != '_')
  let scale : Int := if shrinks then -(exponentOf power) else exponentOf power
  let places := (fraction.tail.filter (· != '_')).length
  body == ['i', 'n', 'f'] || body == ['n', 'a', 'n'] ||
    (written && (negative || isFinite digits (scale - places)))

/-- The number of two decimal digits at the start of a text. -/
def twoDigits? : List Char → Option (Nat × List Char)
  | first :: second :: rest =>
    if first.isDigit && second.isDigit then some (number 10 [first, second], rest) else none
  | _ => none

/-- The number of days in a month. -/
def daysIn (year month : Nat) : Nat :=
  if month = 2 then
    if year % 4 = 0 ∧ (year % 100 ≠ 0 ∨ year % 400 = 0) then 29 else 28
  else if month = 4 ∨ month = 6 ∨ month = 9 ∨ month = 11 then 30
  else 31

/-- The text after a date. -/
def afterDate? (text : List Char) : Option (List Char) :=
  match twoDigits? text with
  | some (century, rest) =>
    match twoDigits? rest with
    | some (year, '-' :: rest) =>
      match twoDigits? rest with
      | some (month, '-' :: rest) =>
        match twoDigits? rest with
        | some (day, rest) =>
          if 1 ≤ month ∧ month ≤ 12 ∧ 1 ≤ day ∧ day ≤ daysIn (100 * century + year) month then
            some rest
          else none
        | none => none
      | _ => none
    | _ => none
  | none => none

/-- The text after a fraction of a second, which may be missing but not empty. -/
def afterFraction? : List Char → Option (List Char)
  | '.' :: rest => if (rest.takeWhile Char.isDigit).isEmpty then none
    else some (rest.dropWhile Char.isDigit)
  | text => some text

/-- The text after a time of day. A minute may have a leap second. -/
def afterTime? (text : List Char) : Option (List Char) :=
  match twoDigits? text with
  | some (hour, ':' :: rest) =>
    match twoDigits? rest with
    | some (minute, ':' :: rest) =>
      match twoDigits? rest with
      | some (second, rest) =>
        if hour ≤ 23 ∧ minute ≤ 59 ∧ second ≤ 60 then afterFraction? rest else none
      | none => none
    | _ => none
  | _ => none

/-- Whether a text is the offset of a time from universal time, or empty. -/
def isOffset : List Char → Bool
  | [] => true
  | [zone] => zone == 'Z' || zone == 'z'
  | sign :: rest =>
    (sign == '+' || sign == '-') &&
      match twoDigits? rest with
      | some (hours, ':' :: rest) =>
        match twoDigits? rest with
        | some (minutes, []) => hours ≤ 23 && minutes ≤ 59
        | _ => false
      | _ => false

/-- Whether a text is the time of a moment whose date stands before it. -/
def isTimeOfDate (text : List Char) : Bool := (afterTime? text).any isOffset

/-- Whether a text is a date. -/
def isDate (text : List Char) : Bool := afterDate? text == some []

/-- Whether a text is a date, a time, or both with a letter between them. -/
def isMoment (text : List Char) : Bool :=
  isDate text || afterTime? text == some [] ||
    match afterDate? text with
    | some (mark :: time) => (mark == 'T' || mark == 't') && isTimeOfDate time
    | _ => false

/-- The kind of scalar that a text is. -/
def kind? (text : List Char) : Option Scalar :=
  if text = ['t', 'r', 'u', 'e'] ∨ text = ['f', 'a', 'l', 's', 'e'] then some .boolean
  else if isInteger text then some .integer
  else if isFloat text then some .float
  else if isMoment text then some .moment
  else none

/-- The scalar that a document goes on with. -/
def scalar? (text : List Char) : Option (Scalar × List Char) :=
  let run := text.takeWhile isScalarChar
  let rest := text.dropWhile isScalarChar
  match kind? run with
  | none => none
  | some kind =>
    match rest with
    | ' ' :: more =>
      if isDate run && isTimeOfDate (more.takeWhile isScalarChar) then
        some (.moment, more.dropWhile isScalarChar)
      else some (kind, rest)
    | _ => some (kind, rest)

/-- The text after a scalar is no longer. -/
theorem length_of_scalar? {text after : List Char} {kind : Scalar}
    (found : scalar? text = some (kind, after)) : after.length ≤ text.length := by
  have kept := length_dropWhile_le isScalarChar text
  unfold scalar? at found
  dsimp only at found
  split at found
  · simp at found
  · split at found
    · rename_i more spaced
      rw [spaced] at kept
      have := length_dropWhile_le isScalarChar more
      split at found
      · obtain ⟨-, rfl⟩ := Prod.mk.inj (Option.some.inj found)
        simp only [List.length_cons] at kept
        omega
      · obtain ⟨-, rfl⟩ := Prod.mk.inj (Option.some.inj found)
        rwa [spaced]
    · obtain ⟨-, rfl⟩ := Prod.mk.inj (Option.some.inj found)
      exact kept

end Handbook.Toml
