import Handbook.Text.Word
import Handbook.Text.Blank
import Handbook.Text.Lines
import Handbook.Text.Lowercase

/-!
# Headings and their anchors

A heading is a line of two or more number signs, a gap and a title of words and hyphens; the title
of the whole document, with one number sign, is no heading, and neither is a line with any other
punctuation in its title. Its anchor, by which links name it, is made of the title's words in
lowercase with a hyphen between neighbours, so the kind and amount of white space do not matter.
-/
namespace Handbook

open Text

/-- The anchor of a title. -/
def anchorOf (title : List Char) : List Char := ['-'].intercalate ((words title).map lowercase)

/-- Whether an anchor may have a character without quoting: a word character or a hyphen. -/
def isAnchorChar (character : Char) : Bool := character == '-' || isWord character

/-- Whether a title may have a character. -/
def isTitleChar (character : Char) : Bool := isAnchorChar character || isGap character

/-- The title of a heading line, without the gaps and the carriage return around it. -/
def headingTitle? (line : List Char) : Option (List Char) :=
  let marks := line.takeWhile (· == '#')
  let rest := line.dropWhile (· == '#')
  let text := rest.dropWhile isGap
  let title := trimEnd isGap (withoutReturn text)
  if 2 ≤ marks.length ∧ text.length < rest.length ∧ title ≠ [] ∧ title.all isTitleChar then
    some title
  else none

/-- The anchors of the headings of a text, in order and with repetitions. -/
def headingAnchors (text : List Char) : List (List Char) :=
  ((lines text).filterMap headingTitle?).map anchorOf

end Handbook
