import Handbook.Proofs.Document.LinkGrammar
import Handbook.Proofs.Sample.Fences
import Handbook.Proofs.Text.Lowering
import Handbook.Proofs.Text.Returns

/-!
# Which lines are headings

`IsHeading` says how a heading is spelled in its line and what its title is, and it holds of the
title that is read off the line and of no other one. A title neither begins nor ends with a gap, so
the number signs, the gaps around the title and a carriage return can be cut off in one way only.
-/
namespace Handbook

open Text

/-- A title: word characters, hyphens, spaces and tabs that begin and end with no space or tab. -/
structure IsTitle (title : List Char) : Prop where
  /-- The title has no other characters. -/
  inside : ∀ character ∈ title, character = '-' ∨ isWord character = true ∨
    character = ' ' ∨ character = '\t'
  /-- The title begins with a word character or a hyphen. -/
  first : ∃ character ∈ title.head?, character = '-' ∨ isWord character = true
  /-- The title ends with a word character or a hyphen. -/
  last : ∃ character ∈ title.getLast?, character = '-' ∨ isWord character = true

/-- A heading with a title: a line of two or more number signs, spaces and tabs, the title, and what
may also follow a fence. -/
def IsHeading (line title : List Char) : Prop :=
  IsTitle title ∧ ∃ (marks : Nat) (gaps : List Char), 2 ≤ marks ∧ gaps ≠ [] ∧
    (∀ character ∈ gaps, character = ' ' ∨ character = '\t') ∧
      ∃ ending, Block.IsFenceEnd ending ∧
        line = List.replicate marks '#' ++ gaps ++ title ++ ending

/-- Gaps are white space, so what is no white space is no gap. -/
theorem isGap_eq_false {character : Char} (dark : isBlank character = false) :
    isGap character = false := by
  rw [Bool.eq_false_iff]
  intro gap
  simp only [isGap, Bool.or_eq_true, beq_iff_eq] at gap
  rcases gap with rfl | rfl
  · exact absurd dark (by decide +kernel)
  · exact absurd dark (by decide +kernel)

/-- No character of an anchor is white space. -/
theorem isBlank_of_isAnchorChar {character : Char} (anchor : isAnchorChar character = true) :
    isBlank character = false := by
  rcases (Link.isAnchorChar_iff character).1 anchor with rfl | word
  · decide +kernel
  · exact isBlank_eq_false_of_isWord word

/-- The gaps are the space and the tab. -/
theorem forall_isGap_iff (text : List Char) : (∀ character ∈ text, isGap character = true) ↔
    ∀ character ∈ text, character = ' ' ∨ character = '\t' := by
  simp [isGap]

/-- A title may have the characters of anchors and the gaps. -/
theorem isTitleChar_iff (character : Char) : isTitleChar character = true ↔
    character = '-' ∨ isWord character = true ∨ character = ' ' ∨ character = '\t' := by
  simp [isTitleChar, isAnchorChar, isGap, or_assoc]

/-- The characters of a title that are no gaps are those of anchors. -/
theorem anchor_iff_of_isTitleChar {character : Char} (inTitle : isTitleChar character = true) :
    (character = '-' ∨ isWord character = true) ↔ isGap character = false := by
  rw [← Link.isAnchorChar_iff]
  constructor
  · exact fun anchor => isGap_eq_false (isBlank_of_isAnchorChar anchor)
  · intro other
    simpa [isTitleChar, other] using inTitle

/-- A text made of characters of titles is a title when it is not empty and neither begins nor ends
with a gap. -/
theorem isTitle_iff (title : List Char) : IsTitle title ↔
    title ≠ [] ∧ (∀ character ∈ title, isTitleChar character = true) ∧ Stops isGap title ∧
      Stops isGap title.reverse := by
  constructor
  · rintro ⟨inside, ⟨first, begins, opening⟩, ⟨last, ends, closing⟩⟩
    have all : ∀ character ∈ title, isTitleChar character = true := fun character member =>
      (isTitleChar_iff character).2 (inside character member)
    have inTitle : first ∈ title := List.mem_of_head? begins
    have atEnd : last ∈ title := List.mem_of_getLast? ends
    refine ⟨List.ne_nil_of_mem inTitle, all, fun character found => ?_, fun character found => ?_⟩
    · obtain rfl := Option.mem_unique found begins
      exact (anchor_iff_of_isTitleChar (all character inTitle)).1 opening
    · rw [List.head?_reverse] at found
      obtain rfl := Option.mem_unique found ends
      exact (anchor_iff_of_isTitleChar (all character atEnd)).1 closing
  · rintro ⟨filled, all, begins, ends⟩
    have first := List.head?_eq_some_head filled
    have last := List.getLast?_eq_some_getLast filled
    refine ⟨fun character member => (isTitleChar_iff character).1 (all character member),
      ⟨_, first, ?_⟩, ⟨_, last, ?_⟩⟩
    · exact (anchor_iff_of_isTitleChar (all _ (List.head_mem filled))).2 (begins _ first)
    · rw [← List.head?_reverse] at last
      exact (anchor_iff_of_isTitleChar (all _ (List.getLast_mem filled))).2 (ends _ last)

/-- What is cut off the end of a text is what may follow a fence, and what is left does not end with
a gap. -/
theorem exists_isFenceEnd_trimEnd (text : List Char) :
    Stops isGap (trimEnd isGap (withoutReturn text)).reverse ∧
      ∃ ending, Block.IsFenceEnd ending ∧
        text = trimEnd isGap (withoutReturn text) ++ ending := by
  obtain ⟨carriage, final, whole⟩ := exists_carriage text
  obtain ⟨closes, blanks, blank, trimmed⟩ := exists_trimEnd isGap (withoutReturn text)
  rw [forall_isGap_iff] at blank
  refine ⟨closes, blanks ++ carriage, ⟨blanks, carriage, blank, final, rfl⟩, ?_⟩
  rw [← List.append_assoc, ← trimmed]
  exact whole

/-- What may follow a fence is cut off the end of a text that has no carriage return and does not
end with a gap. -/
theorem trimEnd_of_isFenceEnd {text ending : List Char} (bare : '\r' ∉ text)
    (closes : Stops isGap text.reverse) (ends : Block.IsFenceEnd ending) :
    trimEnd isGap (withoutReturn (text ++ ending)) = text := by
  obtain ⟨blanks, carriage, blank, final, rfl⟩ := ends
  rw [← forall_isGap_iff] at blank
  have clean : '\r' ∉ text ++ blanks := by
    intro member
    rcases List.mem_append.1 member with inside | behind
    · exact bare inside
    · exact absurd (blank _ behind) (by decide)
  rw [← List.append_assoc, withoutReturn_append clean final, trimEnd_append closes blank]

/-- What is read as the title of a heading is its title. -/
theorem isHeading_of_headingTitle? {line title : List Char}
    (found : headingTitle? line = some title) : IsHeading line title := by
  unfold headingTitle? at found
  simp only at found
  split at found
  · rename_i heading
    have same := Option.some.inj found
    rw [same] at heading
    obtain ⟨enough, shorter, filled, all⟩ := heading
    have marked := List.takeWhile_append_dropWhile (p := (· == '#')) (l := line)
    have marks : ∀ character ∈ line.takeWhile (· == '#'), character = '#' := by
      intro character member
      simpa using List.mem_takeWhile_imp member
    generalize line.dropWhile (· == '#') = rest at *
    have gapped := List.takeWhile_append_dropWhile (p := isGap) (l := rest)
    have gap : ∀ character ∈ rest.takeWhile isGap, isGap character = true := fun _ =>
      List.mem_takeWhile_imp
    have begins := stops_dropWhile isGap rest
    generalize rest.dropWhile isGap = text at *
    have between : rest.takeWhile isGap ≠ [] := by
      intro none
      rw [none, List.nil_append] at gapped
      rw [gapped] at shorter
      exact absurd shorter (Nat.lt_irrefl _)
    obtain ⟨closes, ending, ends, cut⟩ := exists_isFenceEnd_trimEnd text
    rw [same] at closes cut
    have opens : Stops isGap title := by
      obtain ⟨first, more, rfl⟩ := List.exists_cons_of_ne_nil filled
      rw [cut] at begins
      exact stops_cons (begins first rfl) more
    have proper : IsTitle title :=
      (isTitle_iff title).2 ⟨filled, List.all_eq_true.1 all, opens, closes⟩
    have whole : line = List.replicate (line.takeWhile (· == '#')).length '#' ++
        rest.takeWhile isGap ++ title ++ ending := by
      rw [← List.eq_replicate_of_mem marks, List.append_assoc, ← cut, List.append_assoc, gapped,
        marked]
    exact ⟨proper, _, _, enough, between, (forall_isGap_iff _).1 gap, ending, ends, whole⟩
  · simp at found

/-- The title of a heading is read off its line. -/
theorem headingTitle?_of_isHeading {line title : List Char} (heading : IsHeading line title) :
    headingTitle? line = some title := by
  obtain ⟨proper, marks, gaps, enough, between, gap, ending, ends, rfl⟩ := heading
  obtain ⟨filled, all, begins, closes⟩ := (isTitle_iff title).1 proper
  have isMark : ∀ character ∈ List.replicate marks '#', (character == '#') = true := by simp
  -- The number signs stop at a gap, and the gaps stop at the title.
  have stopsMarks : Stops (· == '#') (gaps ++ (title ++ ending)) := by
    obtain ⟨first, more, rfl⟩ := List.exists_cons_of_ne_nil between
    apply stops_cons
    rcases gap first List.mem_cons_self with rfl | rfl <;> rfl
  have stopsGaps : Stops isGap (title ++ ending) := by
    obtain ⟨first, more, rfl⟩ := List.exists_cons_of_ne_nil filled
    exact stops_cons (begins first rfl) _
  have bare : '\r' ∉ title := fun inside => absurd (all _ inside) (by decide +kernel)
  obtain ⟨taken, left⟩ := takeWhile_append_of_stops isMark stopsMarks
  obtain ⟨-, text⟩ := takeWhile_append_of_stops ((forall_isGap_iff gaps).2 gap) stopsGaps
  have read := trimEnd_of_isFenceEnd bare closes ends
  have many : 2 ≤ (List.replicate marks '#').length := by
    rw [List.length_replicate]
    exact enough
  have longer : (title ++ ending).length < (gaps ++ (title ++ ending)).length := by
    have positive : 0 < gaps.length := List.length_pos_iff.2 between
    simp only [List.length_append]
    omega
  unfold headingTitle?
  simp only [List.append_assoc, taken, left, text, read]
  exact if_pos ⟨many, longer, filled, List.all_eq_true.2 all⟩

/-- The title that is read off a line is that of the heading. -/
theorem headingTitle?_eq_some_iff (line title : List Char) :
    headingTitle? line = some title ↔ IsHeading line title :=
  ⟨isHeading_of_headingTitle?, headingTitle?_of_isHeading⟩

end Handbook
