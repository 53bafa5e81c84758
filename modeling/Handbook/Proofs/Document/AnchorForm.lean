import Handbook.Proofs.Document.Anchors
import Handbook.Proofs.Text.SmallLetters

/-!
# Anchors word by word

An anchor is a normal form of its title. It has no white space and is its own lowercase, so it is
the anchor of itself. White space only separates words: the anchors of two texts with white space
between them are joined by a hyphen, unless one of the texts has no words. So neither the amount nor
the kind of white space matters, and each word is put in lowercase as if it stood alone; a sigma at
its end is final whatever the next word begins with.
-/
namespace Handbook

namespace Text

/-- A text of white space only. -/
def AllBlank (text : List Char) : Prop := ∀ character ∈ text, isBlank character = true

/-- Whether a text is white space is found by reading it, not by trying all characters. -/
instance : DecidablePred AllBlank := fun text =>
  decidable_of_iff (text.all isBlank = true) List.all_eq_true

/-- A text has no words exactly when it is white space. -/
theorem words_eq_nil_iff (text : List Char) : words text = [] ↔ AllBlank text := by
  constructor
  · intro none character member
    by_contra dark
    obtain ⟨word, listed, -⟩ :=
      (exists_mem_words_iff character text).2 ⟨member, Bool.eq_false_iff.2 dark⟩
    rw [none] at listed
    exact List.not_mem_nil listed
  · intro blank
    rw [List.eq_nil_iff_forall_not_mem]
    intro word listed
    obtain ⟨character, inside⟩ := List.exists_mem_of_ne_nil word (words_ne_nil listed)
    obtain ⟨member, dark⟩ := (exists_mem_words_iff character text).1 ⟨word, listed, inside⟩
    rw [blank character member] at dark
    exact absurd dark (by decide)

/-- A text without white space is its only word. -/
theorem words_of_dark {text : List Char} (filled : text ≠ [])
    (dark : ∀ character ∈ text, isBlank character = false) : words text = [text] := by
  rw [words, List.splitOnP_eq_singleton dark]
  simp [filled]

/-- White space cuts the words of a text into those before it and those behind it. -/
theorem words_append_cons {blank : Char} (gap : isBlank blank = true) (before after : List Char) :
    words (before ++ blank :: after) = words before ++ words after := by
  rw [words, List.splitOnP_append_cons before after gap, List.filter_append]
  rfl

/-- White space at the start of a text belongs to no word. -/
theorem words_blank_append {gap : List Char} (blank : AllBlank gap) (text : List Char) :
    words (gap ++ text) = words text := by
  induction gap with
  | nil => rfl
  | cons first rest step =>
    obtain ⟨head, tail⟩ := List.forall_mem_cons.1 blank
    have cut : words (first :: (rest ++ text)) = words [] ++ words (rest ++ text) :=
      words_append_cons head [] (rest ++ text)
    rw [List.cons_append, cut, words_nil, List.nil_append]
    exact step tail

/-- A gap between two texts leaves them their words and adds none. -/
theorem words_append_gap {gap : List Char} (filled : gap ≠ []) (blank : AllBlank gap)
    (before after : List Char) : words (before ++ gap ++ after) = words before ++ words after := by
  obtain ⟨first, rest, rfl⟩ := List.exists_cons_of_ne_nil filled
  obtain ⟨head, tail⟩ := List.forall_mem_cons.1 blank
  rw [List.append_assoc, List.cons_append, words_append_cons head, words_blank_append tail]

end Text

open Text

/-- Texts that are joined in two parts, of which neither is empty, have a separator between the
parts. -/
theorem intercalate_append (separator : List Char) {texts others : List (List Char)}
    (first : texts ≠ []) (second : others ≠ []) :
    separator.intercalate (texts ++ others) =
      separator.intercalate texts ++ (separator ++ separator.intercalate others) := by
  induction texts with
  | nil => exact absurd rfl first
  | cons text rest step =>
    by_cases last : rest = []
    · rw [last, List.singleton_append, List.intercalate_cons_of_ne_nil second,
        List.intercalate_singleton, List.append_assoc]
    · have more : rest ++ others ≠ [] := by simp [last]
      rw [List.cons_append, List.intercalate_cons_of_ne_nil more, step last,
        List.intercalate_cons_of_ne_nil last]
      simp only [List.append_assoc]

/-- An anchor has no white space. -/
theorem isBlank_anchorOf (title : List Char) :
    ∀ character ∈ anchorOf title, isBlank character = false := by
  have hyphen : isBlank '-' = false := by decide +kernel
  apply forall_mem_intercalate
  · simpa using hyphen
  · intro text member
    obtain ⟨word, listed, rfl⟩ := List.mem_map.1 member
    apply isBlank_lowercase
    intro character inside
    exact ((exists_mem_words_iff character title).1 ⟨word, listed, inside⟩).2

/-- The characters of an anchor are their own lowercase. -/
theorem lowerChar_of_mem_anchorOf (title : List Char) :
    ∀ character ∈ anchorOf title, lowerChar character = [character] := by
  have hyphen : lowerChar '-' = ['-'] := by decide +kernel
  apply forall_mem_intercalate
  · simpa using hyphen
  · intro text member
    obtain ⟨word, listed, rfl⟩ := List.mem_map.1 member
    exact fun _ => lowerChar_of_mem_lowercase

/-- An anchor is its own lowercase. -/
theorem lowercase_anchorOf (title : List Char) : lowercase (anchorOf title) = anchorOf title :=
  lowercaseFrom_eq_self (lowerChar_of_mem_anchorOf title) []

/-- The anchor of a text without white space is its lowercase. -/
theorem anchorOf_of_dark {text : List Char}
    (dark : ∀ character ∈ text, isBlank character = false) : anchorOf text = lowercase text := by
  by_cases empty : text = []
  · rw [empty]
    rfl
  · rw [anchorOf, words_of_dark empty dark]
    exact List.intercalate_singleton

/-- An anchor is the anchor of itself. -/
theorem anchorOf_anchorOf (title : List Char) : anchorOf (anchorOf title) = anchorOf title := by
  rw [anchorOf_of_dark (isBlank_anchorOf title), lowercase_anchorOf]

/-- The words of a title make its anchor as if each of them stood alone. -/
theorem anchorOf_eq_intercalate (title : List Char) :
    anchorOf title = ['-'].intercalate ((words title).map anchorOf) := by
  have alone : (words title).map anchorOf = (words title).map lowercase := by
    apply List.map_congr_left
    intro word listed
    apply anchorOf_of_dark
    intro character inside
    exact ((exists_mem_words_iff character title).1 ⟨word, listed, inside⟩).2
  rw [alone, anchorOf]

/-- The anchor of two texts with a gap between them. -/
theorem anchorOf_append_gap {gap : List Char} (filled : gap ≠ []) (blank : AllBlank gap)
    (left right : List Char) :
    anchorOf (left ++ gap ++ right) =
      if AllBlank left then anchorOf right
      else if AllBlank right then anchorOf left
      else anchorOf left ++ '-' :: anchorOf right := by
  have parts : words (left ++ gap ++ right) = words left ++ words right :=
    words_append_gap filled blank left right
  split
  · rename_i none
    rw [anchorOf, parts, (words_eq_nil_iff left).2 none, List.nil_append, anchorOf]
  · rename_i some
    split
    · rename_i none
      rw [anchorOf, parts, (words_eq_nil_iff right).2 none, List.append_nil, anchorOf]
    · rename_i more
      have first : (words left).map lowercase ≠ [] := by
        simpa [words_eq_nil_iff] using some
      have second : (words right).map lowercase ≠ [] := by
        simpa [words_eq_nil_iff] using more
      rw [anchorOf, parts, List.map_append, intercalate_append ['-'] first second]
      rfl

/-- An anchor has no white space, is its own lowercase and the anchor of itself, and is made of the
anchors of the words of its title. The anchor of two texts with white space between them is that of
one text if the other is white space too, and otherwise the anchors of both with a hyphen between
them. -/
theorem anchorOf_normal_form :
    (∀ title : List Char,
      (∀ character ∈ anchorOf title, isBlank character = false) ∧
        lowercase (anchorOf title) = anchorOf title ∧
        anchorOf (anchorOf title) = anchorOf title ∧
        anchorOf title = ['-'].intercalate ((words title).map anchorOf)) ∧
      ∀ left gap right : List Char, gap ≠ [] → AllBlank gap →
        anchorOf (left ++ gap ++ right) =
          if AllBlank left then anchorOf right
          else if AllBlank right then anchorOf left
          else anchorOf left ++ '-' :: anchorOf right := by
  refine ⟨fun title => ?_, fun left gap right filled blank => ?_⟩
  · exact ⟨isBlank_anchorOf title, lowercase_anchorOf title, anchorOf_anchorOf title,
      anchorOf_eq_intercalate title⟩
  · exact anchorOf_append_gap filled blank left right

/-- The sigma at the end of the first word is final although a cased character follows the gap,
which is an em space and a tab. -/
theorem anchorOf_normal_form_final_sigma :
    "\u2003\t".toList ≠ [] ∧ AllBlank "\u2003\t".toList ∧
      anchorOf ("ΟΔΟΣ".toList ++ "\u2003\t".toList ++ " ΣΑΣ B".toList) = "οδος-σας-b".toList := by
  have filled : "\u2003\t".toList ≠ [] := by decide
  have blank : AllBlank "\u2003\t".toList := by decide +kernel
  refine ⟨filled, blank, ?_⟩
  rw [anchorOf_normal_form.2 _ _ _ filled blank]
  decide +kernel

end Handbook
