import Handbook.Text.Lines

/-!
# TOML texts and keys

A text stands between single or double quotes, one on each side for a text on one line and three for
a text that may go over several. Only double quotes have escapes. In a text over several lines a
line feed right after the opening quotes is left out, a line end is a line feed however it is
written, and a backslash at the end of a line leaves out the blanks and line ends that follow. A key
is a bare word or a text on one line, and a dotted key is a chain of keys.

Every reader takes a text from its start and returns what it read with the text after it, which is
shorter than the text it was given.
-/
namespace Handbook.Toml

open Text

/-- Making something else of what was read leaves the text after it. -/
theorem exists_of_map {α β : Type} {make : α → β} {read : Option (α × List Char)} {made : β}
    {after : List Char} (found : (read.map fun (value, rest) => (make value, rest)) =
      some (made, after)) : ∃ value, read = some (value, after) := by
  obtain ⟨⟨value, rest⟩, later, same⟩ := Option.map_eq_some_iff.1 found
  obtain ⟨-, rfl⟩ := Prod.mk.inj same
  exact ⟨value, later⟩

/-- Whether a character may stand for itself in a comment or a text: a tab or no control character.
-/
def isVisible (character : Char) : Bool :=
  character == '\t' || (32 ≤ character.toNat && character.toNat != 127)

/-- Whether a character may stand for itself between double quotes. -/
def isBasicChar (character : Char) : Bool :=
  isVisible character && character != '"' && character != '\\'

/-- Whether a character may stand between single quotes. -/
def isLiteralChar (character : Char) : Bool := isVisible character && character != '\''

/-- The text after a line end. -/
def afterNewline? : List Char → Option (List Char)
  | '\n' :: rest => some rest
  | '\r' :: '\n' :: rest => some rest
  | _ => none

/-- The value of a hexadecimal digit in either case. -/
def hexDigit? (digit : Char) : Option Nat :=
  if '0' ≤ digit ∧ digit ≤ '9' then some (digit.toNat - '0'.toNat)
  else if 'a' ≤ digit ∧ digit ≤ 'f' then some (digit.toNat - 'a'.toNat + 10)
  else if 'A' ≤ digit ∧ digit ≤ 'F' then some (digit.toNat - 'A'.toNat + 10)
  else none

/-- The number that hexadecimal digits write, continuing the given one. -/
def hexNumber? (start : Nat) : List Char → Option Nat
  | [] => some start
  | digit :: rest => do hexNumber? (16 * start + (← hexDigit? digit)) rest

/-- The character whose code point a text begins with in a number of hexadecimal digits. -/
def codePoint? (digits : Nat) (text : List Char) : Option (Char × List Char) :=
  if (text.take digits).length = digits then
    match hexNumber? 0 (text.take digits) with
    | some code => if code.isValidChar then some (Char.ofNat code, text.drop digits) else none
    | none => none
  else none

/-- The character that an escape stands for, read from after its backslash. -/
def escape? : List Char → Option (Char × List Char)
  | 'b' :: rest => some ('\x08', rest)
  | 't' :: rest => some ('\t', rest)
  | 'n' :: rest => some ('\n', rest)
  | 'f' :: rest => some ('\x0c', rest)
  | 'r' :: rest => some ('\r', rest)
  | '"' :: rest => some ('"', rest)
  | '\\' :: rest => some ('\\', rest)
  | 'u' :: rest => codePoint? 4 rest
  | 'U' :: rest => codePoint? 8 rest
  | _ => none

/-- Reading an escape leaves a shorter text. -/
theorem length_of_escape? {text rest : List Char} {character : Char}
    (found : escape? text = some (character, rest)) : rest.length < text.length := by
  have dropped : ∀ {digits : Nat} {more : List Char},
      codePoint? digits more = some (character, rest) → rest.length ≤ more.length := by
    intro digits more read
    unfold codePoint? at read
    split at read
    · split at read
      · split at read
        · obtain ⟨-, rfl⟩ := Prod.mk.inj (Option.some.inj read)
          simp
        · simp at read
      · simp at read
    · simp at read
  unfold escape? at found
  split at found
  all_goals first
    | (obtain ⟨-, rfl⟩ := Prod.mk.inj (Option.some.inj found); simp)
    | exact Nat.lt_succ_of_le (dropped found)
    | simp at found

/-- The rest of a text between double quotes on one line, read up to its closing quote. -/
def basic? (text : List Char) : Option (List Char × List Char) :=
  match text with
  | [] => none
  | '"' :: rest => some ([], rest)
  | '\\' :: rest =>
    match escaped : escape? rest with
    | some (character, more) =>
      have := length_of_escape? escaped
      (basic? more).map fun (content, after) => (character :: content, after)
    | none => none
  | character :: rest =>
    if isBasicChar character then
      (basic? rest).map fun (content, after) => (character :: content, after)
    else none
termination_by text.length

/-- The text after a closing double quote is shorter. -/
theorem length_of_basic? {text content after : List Char}
    (found : basic? text = some (content, after)) : after.length < text.length := by
  fun_induction basic? text generalizing content with
  | case1 => simp at found
  | case2 rest =>
    obtain ⟨-, rfl⟩ := Prod.mk.inj (Option.some.inj found)
    simp
  | case3 rest character more escaped shorter step =>
    obtain ⟨inner, later⟩ := exists_of_map found
    have := step later
    simp only [List.length_cons]
    omega
  | case4 => simp at found
  | case5 character rest _ _ _ step =>
    obtain ⟨inner, later⟩ := exists_of_map found
    have := step later
    simp only [List.length_cons]
    omega
  | case6 => simp at found

/-- The rest of a text between single quotes on one line, read up to its closing quote. -/
def literal? (text : List Char) : Option (List Char × List Char) :=
  match text.dropWhile isLiteralChar with
  | '\'' :: rest => some (text.takeWhile isLiteralChar, rest)
  | _ => none

/-- The text after a closing single quote is shorter. -/
theorem length_of_literal? {text content after : List Char}
    (found : literal? text = some (content, after)) : after.length < text.length := by
  have kept := length_dropWhile_le isLiteralChar text
  unfold literal? at found
  split at found
  · rename_i rest closed
    obtain ⟨-, rfl⟩ := Prod.mk.inj (Option.some.inj found)
    rw [closed] at kept
    exact kept
  · simp at found

/-- Leave out the gaps and line ends at the start of a text. -/
def dropBlanks : List Char → List Char
  | '\r' :: '\n' :: rest => dropBlanks rest
  | character :: rest =>
    if isGap character || character == '\n' then dropBlanks rest else character :: rest
  | [] => []

/-- Leaving out blanks makes no text longer. -/
theorem length_dropBlanks_le (text : List Char) : (dropBlanks text).length ≤ text.length := by
  fun_induction dropBlanks text with
  | case1 rest step => simp only [List.length_cons]; omega
  | case2 character rest _ _ step => simp only [List.length_cons]; omega
  | case3 => exact Nat.le_refl _
  | case4 => exact Nat.le_refl _

/-- A line end takes characters. -/
theorem length_of_afterNewline? {text rest : List Char} (found : afterNewline? text = some rest) :
    rest.length < text.length := by
  unfold afterNewline? at found
  split at found
  all_goals first
    | (obtain rfl := Option.some.inj found; simp only [List.length_cons]; omega)
    | simp at found

/-- Of three closing quotes or more, the first ones that belong to the content, at most two. -/
def closingQuotes (quote : Char) : List Char → List Char × List Char
  | first :: second :: rest =>
    if first = quote then
      if second = quote then ([quote, quote], rest) else ([quote], second :: rest)
    else ([], first :: second :: rest)
  | [first] => if first = quote then ([quote], []) else ([], [first])
  | [] => ([], [])

/-- The text after the quotes that belong to the content is no longer. -/
theorem length_of_closingQuotes {quote : Char} {text content after : List Char}
    (found : closingQuotes quote text = (content, after)) : after.length ≤ text.length := by
  unfold closingQuotes at found
  repeat' split at found
  all_goals
    obtain ⟨-, rfl⟩ := Prod.mk.inj found
    simp only [List.length_cons, List.length_nil]
    omega

/-- The rest of a text between three double quotes, read up to its closing quotes. -/
def multiBasic? (text : List Char) : Option (List Char × List Char) :=
  match text with
  | [] => none
  | '"' :: '"' :: '"' :: rest => some (closingQuotes '"' rest)
  | '"' :: rest => (multiBasic? rest).map fun (content, after) => ('"' :: content, after)
  | '\\' :: rest =>
    match continued : afterNewline? (rest.dropWhile isGap) with
    | some more =>
      have := length_of_afterNewline? continued
      have := length_dropWhile_le isGap rest
      have := length_dropBlanks_le more
      multiBasic? (dropBlanks more)
    | none =>
      match escaped : escape? rest with
      | some (character, more) =>
        have := length_of_escape? escaped
        (multiBasic? more).map fun (content, after) => (character :: content, after)
      | none => none
  | '\n' :: rest => (multiBasic? rest).map fun (content, after) => ('\n' :: content, after)
  | '\r' :: '\n' :: rest => (multiBasic? rest).map fun (content, after) => ('\n' :: content, after)
  | character :: rest =>
    if isBasicChar character then
      (multiBasic? rest).map fun (content, after) => (character :: content, after)
    else none
termination_by text.length
decreasing_by all_goals (simp only [List.length_cons]; omega)

/-- The text after three closing double quotes is shorter. -/
theorem length_of_multiBasic? {text content after : List Char}
    (found : multiBasic? text = some (content, after)) : after.length < text.length := by
  fun_induction multiBasic? text generalizing content with
  | case1 => simp at found
  | case2 rest =>
    have := length_of_closingQuotes (Option.some.inj found)
    simp only [List.length_cons]
    omega
  | case3 rest _ step =>
    obtain ⟨inner, later⟩ := exists_of_map found
    have := step later
    simp only [List.length_cons]
    omega
  | case4 rest more continued shorter _ kept step =>
    have := step found
    have := length_dropWhile_le isGap rest
    simp only [List.length_cons]
    omega
  | case5 rest _ character more escaped shorter step =>
    obtain ⟨inner, later⟩ := exists_of_map found
    have := step later
    simp only [List.length_cons]
    omega
  | case6 => simp at found
  | case7 rest step =>
    obtain ⟨inner, later⟩ := exists_of_map found
    have := step later
    simp only [List.length_cons]
    omega
  | case8 rest step =>
    obtain ⟨inner, later⟩ := exists_of_map found
    have := step later
    simp only [List.length_cons]
    omega
  | case9 character rest _ _ _ _ _ _ step =>
    obtain ⟨inner, later⟩ := exists_of_map found
    have := step later
    simp only [List.length_cons]
    omega
  | case10 => simp at found

/-- The rest of a text between three single quotes, read up to its closing quotes. -/
def multiLiteral? (text : List Char) : Option (List Char × List Char) :=
  match text with
  | [] => none
  | '\'' :: '\'' :: '\'' :: rest => some (closingQuotes '\'' rest)
  | '\'' :: rest => (multiLiteral? rest).map fun (content, after) => ('\'' :: content, after)
  | '\n' :: rest => (multiLiteral? rest).map fun (content, after) => ('\n' :: content, after)
  | '\r' :: '\n' :: rest =>
    (multiLiteral? rest).map fun (content, after) => ('\n' :: content, after)
  | character :: rest =>
    if isLiteralChar character then
      (multiLiteral? rest).map fun (content, after) => (character :: content, after)
    else none

/-- The text after three closing single quotes is shorter. -/
theorem length_of_multiLiteral? {text content after : List Char}
    (found : multiLiteral? text = some (content, after)) : after.length < text.length := by
  fun_induction multiLiteral? text generalizing content with
  | case1 => simp at found
  | case2 rest =>
    have := length_of_closingQuotes (Option.some.inj found)
    simp only [List.length_cons]
    omega
  | case3 rest _ step =>
    obtain ⟨inner, later⟩ := exists_of_map found
    have := step later
    simp only [List.length_cons]
    omega
  | case4 rest step =>
    obtain ⟨inner, later⟩ := exists_of_map found
    have := step later
    simp only [List.length_cons]
    omega
  | case5 rest step =>
    obtain ⟨inner, later⟩ := exists_of_map found
    have := step later
    simp only [List.length_cons]
    omega
  | case6 character rest _ _ _ _ _ step =>
    obtain ⟨inner, later⟩ := exists_of_map found
    have := step later
    simp only [List.length_cons]
    omega
  | case7 => simp at found

/-- A text without the line end at its start, if there is one. -/
def dropNewline (text : List Char) : List Char := (afterNewline? text).getD text

/-- Leaving out a line end makes no text longer. -/
theorem length_dropNewline_le (text : List Char) : (dropNewline text).length ≤ text.length := by
  unfold dropNewline
  cases found : afterNewline? text with
  | none => exact Nat.le_refl _
  | some rest => exact Nat.le_of_lt (length_of_afterNewline? found)

/-- The text value that a document goes on with. -/
def string? : List Char → Option (List Char × List Char)
  | '"' :: '"' :: '"' :: rest => multiBasic? (dropNewline rest)
  | '"' :: rest => basic? rest
  | '\'' :: '\'' :: '\'' :: rest => multiLiteral? (dropNewline rest)
  | '\'' :: rest => literal? rest
  | _ => none

/-- The text after a text value is shorter. -/
theorem length_of_string? {text content after : List Char}
    (found : string? text = some (content, after)) : after.length < text.length := by
  unfold string? at found
  split at found
  · rename_i rest
    have := length_of_multiBasic? found
    have := length_dropNewline_le rest
    simp only [List.length_cons]
    omega
  · have := length_of_basic? found
    simp only [List.length_cons]
    omega
  · rename_i rest
    have := length_of_multiLiteral? found
    have := length_dropNewline_le rest
    simp only [List.length_cons]
    omega
  · have := length_of_literal? found
    simp only [List.length_cons]
    omega
  · simp at found

/-- Whether a bare key may have a character. -/
def isKeyChar (character : Char) : Bool :=
  character.isAlphanum || character == '-' || character == '_'

/-- The key that a document goes on with. -/
def key? : List Char → Option (String × List Char)
  | '"' :: rest => (basic? rest).map fun (content, after) => (String.ofList content, after)
  | '\'' :: rest => (literal? rest).map fun (content, after) => (String.ofList content, after)
  | text =>
    if text.takeWhile isKeyChar = [] then none
    else some (String.ofList (text.takeWhile isKeyChar), text.dropWhile isKeyChar)

/-- The text after a key is shorter. -/
theorem length_of_key? {text after : List Char} {key : String}
    (found : key? text = some (key, after)) : after.length < text.length := by
  unfold key? at found
  split at found
  · obtain ⟨content, read⟩ := exists_of_map found
    have := length_of_basic? read
    simp only [List.length_cons]
    omega
  · obtain ⟨content, read⟩ := exists_of_map found
    have := length_of_literal? read
    simp only [List.length_cons]
    omega
  · split at found
    · simp at found
    · rename_i nonempty
      obtain ⟨-, rfl⟩ := Prod.mk.inj (Option.some.inj found)
      have whole := List.takeWhile_append_dropWhile (p := isKeyChar) (l := text)
      have whole := congrArg List.length whole
      have positive := List.length_pos_iff.2 nonempty
      simp only [List.length_append] at whole
      omega

/-- The most keys a dotted key may have. -/
def keyLimit : Nat := 79

/-- A chain of keys with a dot between neighbours and gaps around each. -/
def keyChain? (text : List Char) : Option (List String × List Char) :=
  match _read : key? (text.dropWhile isGap) with
  | none => none
  | some (key, rest) =>
    match _dotted : rest.dropWhile isGap with
    | '.' :: more => (keyChain? more).map fun (keys, after) => (key :: keys, after)
    | after => some ([key], after)
termination_by text.length
decreasing_by
  have := length_of_key? _read
  have := length_dropWhile_le isGap text
  have shorter := length_dropWhile_le isGap rest
  rw [_dotted] at shorter
  simp only [List.length_cons] at shorter
  omega

/-- The text after a chain of keys is shorter. -/
theorem length_of_keyChain? {text after : List Char} {keys : List String}
    (found : keyChain? text = some (keys, after)) : after.length < text.length := by
  fun_induction keyChain? text generalizing keys with
  | case1 => simp at found
  | case2 text key rest read more dotted step =>
    obtain ⟨inner, later⟩ := exists_of_map found
    have := step later
    have := length_of_key? read
    have := length_dropWhile_le isGap text
    have shorter := length_dropWhile_le isGap rest
    rw [dotted] at shorter
    simp only [List.length_cons] at shorter
    omega
  | case3 text key rest read _ =>
    obtain ⟨-, rfl⟩ := Prod.mk.inj (Option.some.inj found)
    have := length_of_key? read
    have := length_dropWhile_le isGap text
    have := length_dropWhile_le isGap rest
    omega

/-- The dotted key that a document goes on with: its keys, and the text after the gap behind it. -/
def dottedKey? (text : List Char) : Option (List String × List Char) :=
  (keyChain? text).filter (·.1.length ≤ keyLimit)

/-- The text after a dotted key is shorter. -/
theorem length_of_dottedKey? {text after : List Char} {keys : List String}
    (found : dottedKey? text = some (keys, after)) : after.length < text.length :=
  length_of_keyChain? (Option.filter_eq_some_iff.1 found).1

end Handbook.Toml
