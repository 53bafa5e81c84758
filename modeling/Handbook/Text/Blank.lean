import Handbook.Text.Ranges

/-!
# White space and words

White space is the Unicode property of that name: the ASCII blanks and line ends, the next-line
control, the no-break space, the typographic spaces and the two separators. The words of a text are
its longest runs without white space.
-/
namespace Handbook.Text

/-- The code points that are white space. -/
def blankRanges : Ranges :=
  [(0x9, 0xd), (0x20, 0x20), (0x85, 0x85), (0xa0, 0xa0), (0x1680, 0x1680), (0x2000, 0x200a),
   (0x2028, 0x2029), (0x202f, 0x202f), (0x205f, 0x205f), (0x3000, 0x3000)]

/-- Whether a character is white space. -/
def isBlank (character : Char) : Bool := blankRanges.has character.toNat

/-- The words of a text in order, none of them empty. -/
def words (text : List Char) : List (List Char) :=
  (text.splitOnP isBlank).filter (!·.isEmpty)

/-- No word is empty. -/
theorem words_ne_nil {text word : List Char} (member : word ∈ words text) : word ≠ [] := by
  simpa using (List.mem_filter.1 member).2

/-- A text without characters has no words. -/
@[simp] theorem words_nil : words [] = [] := by
  simp [words]

end Handbook.Text
