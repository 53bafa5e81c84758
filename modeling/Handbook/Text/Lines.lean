/-!
# Lines

A text is cut into lines at its line feeds, so it has one line more than it has line feeds, and the
last line is empty when the text ends with one. A carriage return is a character of its line; what
reads a line decides how many of them at its end it overlooks.
-/
namespace Handbook.Text

/-- The lines of a text, without their line feeds. -/
def lines (text : List Char) : List (List Char) := text.splitOn '\n'

/-- The blanks that may stand inside a line: the space and the tab. -/
def isGap (character : Char) : Bool := character == ' ' || character == '\t'

/-- Leave out the characters of a kind at the end of a text. -/
def trimEnd (kind : Char → Bool) (text : List Char) : List Char :=
  (text.reverse.dropWhile kind).reverse

/-- Leave out one carriage return at the end of a line. -/
def withoutReturn (line : List Char) : List Char :=
  if line.getLast? = some '\r' then line.dropLast else line

/-- Leave out every carriage return at the end of a line. -/
def withoutReturns (line : List Char) : List Char := trimEnd (· == '\r') line

/-- Dropping the characters of a kind at the start makes no text longer. -/
theorem length_dropWhile_le (kind : Char → Bool) (text : List Char) :
    (text.dropWhile kind).length ≤ text.length :=
  (List.dropWhile_sublist kind).length_le

/-- The text after the first character that is not of a kind is shorter. -/
theorem length_of_dropWhile {kind : Char → Bool} {text rest : List Char} {first : Char}
    (found : text.dropWhile kind = first :: rest) : rest.length < text.length := by
  have kept := length_dropWhile_le kind text
  rwa [found] at kept

/-- The first line of a text and the text after its line feed, if it has one. -/
def nextLine? : List Char → Option (List Char × List Char)
  | [] => none
  | character :: rest =>
    if character = '\n' then some ([], rest)
    else (nextLine? rest).map fun (line, after) => (character :: line, after)

/-- The text after the first line feed, or nothing when there is none. -/
def afterLine (text : List Char) : List Char := ((nextLine? text).map (·.2)).getD []

/-- A text with a line feed is its first line, the line feed and the text after it. -/
theorem nextLine?_eq_some {text line after : List Char}
    (found : nextLine? text = some (line, after)) : text = line ++ '\n' :: after ∧ '\n' ∉ line := by
  induction text generalizing line with
  | nil => simp [nextLine?] at found
  | cons character rest step =>
    by_cases feed : character = '\n'
    · simp only [nextLine?, feed, if_true, Option.some.injEq, Prod.mk.injEq] at found
      obtain ⟨rfl, rfl⟩ := found
      simp [feed]
    · simp only [nextLine?, feed, if_false, Option.map_eq_some_iff, Prod.mk.injEq] at found
      obtain ⟨⟨first, more⟩, later, rfl, rfl⟩ := found
      obtain ⟨whole, clean⟩ := step later
      exact ⟨by rw [whole]; rfl, by simpa [clean] using fun same => feed same.symm⟩

/-- The text after the first line is shorter. -/
theorem length_of_nextLine? {text line after : List Char}
    (found : nextLine? text = some (line, after)) : after.length < text.length := by
  rw [(nextLine?_eq_some found).1]
  simp
  omega

/-- What follows the first line of a nonempty text is shorter than the text. -/
theorem length_afterLine {text : List Char} (nonempty : text ≠ []) :
    (afterLine text).length < text.length := by
  unfold afterLine
  cases found : nextLine? text with
  | none => simpa using List.length_pos_iff.2 nonempty
  | some pair =>
    have shorter : pair.2.length < text.length := length_of_nextLine? found
    simpa using shorter

end Handbook.Text
