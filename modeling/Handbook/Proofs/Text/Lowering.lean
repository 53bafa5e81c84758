import Mathlib.Data.List.Chain
import Handbook.Proofs.Text.Splitting
import Handbook.Text.Blank
import Handbook.Text.Lowercase
import Handbook.Text.Word

/-!
# Words and their lowercase

The tables of white space, of words and of small letters come from different versions of Unicode and
are kept apart. What reads a title relies on two agreements between them: no word character is white
space, and the lowercase of a word character consists of word characters, also where it is two
characters or depends on the neighbours. A run of capitals is compared as a whole where one range of
word characters holds all its small letters, and capital by capital only where a later version of
Unicode has added some of them.
-/
namespace Handbook.Text

namespace Ranges

variable {ranges : Ranges} {code : Nat}

/-- One of the ranges holds all code points between two. -/
def Covers (ranges : Ranges) (low high : Nat) : Prop :=
  ∃ range ∈ ranges, range.1 ≤ low ∧ high ≤ range.2

/-- The ranges are searched with comparisons that compute fast. -/
instance (ranges : Ranges) (low high : Nat) : Decidable (ranges.Covers low high) :=
  decidable_of_iff (ranges.any fun range => range.1.ble low && high.ble range.2) (by simp [Covers])

/-- A range that holds an interval holds each part of it. -/
theorem Covers.narrow {low high first last : Nat} (covers : ranges.Covers low high)
    (above : low ≤ first) (below : last ≤ high) : ranges.Covers first last := by
  obtain ⟨range, member, start, stop⟩ := covers
  exact ⟨range, member, by omega, by omega⟩

/-- Two ranges of which the right one is nonempty and stands above the left one. -/
def Below (left right : Nat × Nat) : Prop := left.2 < right.1 ∧ right.1 ≤ right.2

instance : DecidableRel Below := fun left right =>
  inferInstanceAs (Decidable (left.2 < right.1 ∧ right.1 ≤ right.2))

instance : Trans Below Below Below where
  trans lower upper := ⟨by have := lower.1; have := lower.2; have := upper.1; omega, upper.2⟩

/-- Ranges ascend when each of them is nonempty and begins above the one before it. -/
theorem ascending_of_isChain (chain : ((0, 0) :: ranges).IsChain Below) : ranges.Ascending := by
  have ordered := List.pairwise_cons.1 chain.pairwise
  exact ⟨fun range member => (ordered.1 range member).2, ordered.2.imp fun below => below.1⟩

/-- In ascending ranges the code points that are found are those that the ranges hold. -/
theorem has_iff_covers (ascending : ranges.Ascending) :
    ranges.has code = true ↔ ranges.Covers code code :=
  has_iff ascending code

end Ranges

/-- The ranges of word characters ascend. -/
theorem wordRanges_ascending : wordRanges.Ascending :=
  Ranges.ascending_of_isChain (by decide +kernel)

/-- The ranges of white space ascend. -/
theorem blankRanges_ascending : blankRanges.Ascending :=
  Ranges.ascending_of_isChain (by decide +kernel)

/-- The word characters are those of the ranges. -/
theorem isWord_iff (character : Char) :
    isWord character = true ↔ wordRanges.Covers character.toNat character.toNat :=
  Ranges.has_iff_covers wordRanges_ascending

/-- Each range of white space lies above or below each range of word characters. -/
theorem blankRanges_apart : ∀ blank ∈ blankRanges, ∀ word ∈ wordRanges,
    blank.2 < word.1 ∨ word.2 < blank.1 := by
  decide +kernel

/-- No word character is white space. -/
theorem isBlank_eq_false_of_isWord {character : Char} (word : isWord character = true) :
    isBlank character = false := by
  rw [Bool.eq_false_iff]
  intro blank
  obtain ⟨range, member, low, high⟩ := (isWord_iff character).1 word
  obtain ⟨gap, inBlank, start, stop⟩ := (Ranges.has_iff_covers blankRanges_ascending).1 blank
  have apart := blankRanges_apart gap inBlank range member
  omega

/-- The word characters are encoded outside the surrogates. -/
theorem wordRanges_valid : ∀ range ∈ wordRanges,
    range.2 < 0xd800 ∨ 0xdfff < range.1 ∧ range.2 < 0x110000 := by
  decide +kernel

/-- The code point of a character that is made from a code point. -/
theorem toNat_ofNat {code : Nat} (valid : code.isValidChar) : (Char.ofNat code).toNat = code := by
  rw [Char.ofNat, dif_pos valid]
  rfl

/-- A code point of a word character is the one of a character. -/
theorem toNat_ofNat_of_covers {code : Nat} (covers : wordRanges.Covers code code) :
    (Char.ofNat code).toNat = code := by
  obtain ⟨range, member, low, high⟩ := covers
  have valid : code.isValidChar := by
    have inside := wordRanges_valid range member
    rcases inside with before | ⟨after, bounded⟩
    · exact .inl (by omega)
    · exact .inr ⟨by omega, by omega⟩
  exact toNat_ofNat valid

namespace CapitalRun

/-- The capitals of a run. -/
def codes (run : CapitalRun) : List Nat :=
  List.range' run.first ((run.last - run.first) / run.step + 1) run.step

/-- The small letter of one of the capitals of a run. -/
def small (run : CapitalRun) (code : Nat) : Nat := (code + run.shift).toNat

/-- A capital of a run has the small letter at the run's distance. -/
theorem small?_eq_some {run : CapitalRun} {code letter : Nat}
    (found : run.small? code = some letter) :
    code ∈ run.codes ∧ code ≤ run.last ∧ run.first ≤ code ∧ letter = run.small code := by
  unfold small? at found
  split at found
  · rename_i inside
    obtain ⟨first, last, aligned⟩ := inside
    -- The capitals are counted from the first one, and the last one bounds their number.
    have multiple : run.step * ((code - run.first) / run.step) = code - run.first := by
      have whole := Nat.mod_add_div (code - run.first) run.step
      omega
    have bounded : (code - run.first) / run.step ≤ (run.last - run.first) / run.step :=
      Nat.div_le_div_right (by omega)
    have listed : code ∈ run.codes :=
      List.mem_range'.2 ⟨(code - run.first) / run.step, by omega, by omega⟩
    exact ⟨listed, last, first, (Option.some.inj found).symm⟩
  · simp at found

/-- The lowercase of every word character of a run is a word character. -/
def Lowers (run : CapitalRun) : Prop :=
  wordRanges.Covers (run.small run.first) (run.small run.last) ∨
    ∀ code ∈ run.codes, wordRanges.Covers code code →
      wordRanges.Covers (run.small code) (run.small code)

instance (run : CapitalRun) : Decidable run.Lowers := inferInstanceAs (Decidable (_ ∨ _))

/-- A run whose small letters are word characters has no other small letter of a word character. -/
theorem Lowers.covers_small {run : CapitalRun} (lowers : run.Lowers) {code letter : Nat}
    (word : wordRanges.Covers code code) (found : run.small? code = some letter) :
    wordRanges.Covers letter letter := by
  obtain ⟨listed, last, first, rfl⟩ := small?_eq_some found
  rcases lowers with together | apart
  · exact together.narrow (by unfold small; omega) (by unfold small; omega)
  · exact apart code listed word

end CapitalRun

/-- The lowercase of every word character of every run is a word character. -/
theorem capitalRuns_lower : ∀ run ∈ capitalRuns, run.Lowers := by
  decide +kernel

/-- The lowercase of a word character that maps on its own is a word character. -/
theorem covers_lowerCode {code : Nat} (word : wordRanges.Covers code code) :
    wordRanges.Covers (lowerCode code) (lowerCode code) := by
  unfold lowerCode
  cases found : capitalRuns.findSome? (·.small? code) with
  | none => exact word
  | some letter =>
    obtain ⟨run, member, small⟩ := List.exists_of_findSome?_eq_some found
    exact (capitalRuns_lower run member).covers_small word small

/-- The two characters of the dotted capital I and the two small sigmas are word characters. -/
theorem isWord_special : isWord 'i' = true ∧ isWord combiningDotAbove = true ∧
    isWord finalSigma = true ∧ isWord smallSigma = true := by
  decide +kernel

/-- The lowercase of a word character, regardless of its neighbours, is made of word characters. -/
theorem isWord_lowerChar {character : Char} (word : isWord character = true) :
    ∀ small ∈ lowerChar character, isWord small = true := by
  intro small member
  unfold lowerChar at member
  split at member
  · simp only [List.mem_cons, List.not_mem_nil, or_false] at member
    rcases member with rfl | rfl
    · exact isWord_special.1
    · exact isWord_special.2.1
  · obtain rfl := List.mem_singleton.1 member
    have covers := covers_lowerCode ((isWord_iff character).1 word)
    rw [isWord_iff, toNat_ofNat_of_covers covers]
    exact covers

/-- No character vanishes in lowercase. -/
theorem lowerChar_ne_nil (character : Char) : lowerChar character ≠ [] := by
  unfold lowerChar
  split <;> simp

/-- A character of a text in lowercase is a small sigma, or comes from a character of the text. -/
theorem mem_lowercaseFrom {small : Char} {passed text : List Char}
    (member : small ∈ lowercaseFrom passed text) : (small = finalSigma ∨ small = smallSigma) ∨
      ∃ character ∈ text, small ∈ lowerChar character := by
  induction text generalizing passed with
  | nil => simp [lowercaseFrom] at member
  | cons character rest step =>
    rw [lowercaseFrom, List.mem_append] at member
    rcases member with first | later
    · split at first
      · rw [List.mem_singleton] at first
        rw [first]
        split
        · exact .inl (.inl rfl)
        · exact .inl (.inr rfl)
      · exact .inr ⟨character, List.mem_cons_self, first⟩
    · rcases step later with sigma | ⟨other, inside, found⟩
      · exact .inl sigma
      · exact .inr ⟨other, List.mem_cons_of_mem character inside, found⟩

/-- The lowercase of a text is made of characters of a kind when the text is, as long as the kind
has the small letters of its own characters. -/
theorem forall_mem_lowercaseFrom {kind : Char → Prop} (sigmas : kind finalSigma ∧ kind smallSigma)
    (lower : ∀ character, kind character → ∀ small ∈ lowerChar character, kind small)
    {text : List Char} (all : ∀ character ∈ text, kind character) (passed : List Char) :
    ∀ small ∈ lowercaseFrom passed text, kind small := by
  intro small member
  rcases mem_lowercaseFrom member with (rfl | rfl) | ⟨character, inside, found⟩
  · exact sigmas.1
  · exact sigmas.2
  · exact lower character (all character inside) small found

/-- Only the empty text has no characters in lowercase. -/
theorem lowercase_eq_nil_iff (text : List Char) : lowercase text = [] ↔ text = [] := by
  cases text with
  | nil => simp [lowercase, lowercaseFrom]
  | cons character rest =>
    simp only [lowercase, lowercaseFrom, List.append_eq_nil_iff, reduceCtorEq, iff_false, not_and]
    intro none
    split at none
    · simp at none
    · exact absurd none (lowerChar_ne_nil character)

/-- The characters of the words of a text are those that are not white space. -/
theorem exists_mem_words_iff (character : Char) (text : List Char) :
    (∃ word ∈ words text, character ∈ word) ↔ character ∈ text ∧ isBlank character = false := by
  rw [← exists_mem_splitOnP_iff]
  constructor
  · rintro ⟨word, member, inside⟩
    exact ⟨word, (List.mem_filter.1 member).1, inside⟩
  · rintro ⟨part, member, inside⟩
    have filled : part ≠ [] := List.ne_nil_of_mem inside
    exact ⟨part, List.mem_filter.2 ⟨member, by simpa using filled⟩, inside⟩

end Handbook.Text
