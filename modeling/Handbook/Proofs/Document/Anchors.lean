import Handbook.Proofs.Document.HeadingGrammar

/-!
# What anchors are spelled with

The words of a title are put in lowercase and joined by hyphens. The result can be the fragment of a
link: a title has no other characters than words, hyphens and gaps, gaps are white space and so
never part of a word, lowercase does not leave the word characters, and a title begins with a
character that is no gap, so its anchor is not empty. The anchors of a document are those of the
titles of its lines, each line by itself.
-/
namespace Handbook

open Text

/-- The lowercase of a character of anchors consists of characters of anchors. -/
theorem isAnchorChar_lowerChar (character : Char) (anchor : isAnchorChar character = true) :
    ∀ small ∈ lowerChar character, isAnchorChar small = true := by
  intro small member
  rcases (Link.isAnchorChar_iff character).1 anchor with rfl | word
  · have kept : lowerChar '-' = ['-'] := by decide +kernel
    rw [kept] at member
    rwa [List.mem_singleton.1 member]
  · exact (Link.isAnchorChar_iff small).2 (.inr (isWord_lowerChar word small member))

/-- The lowercase of a text made of characters of anchors is made of such characters. -/
theorem isAnchorChar_lowercase {text : List Char}
    (all : ∀ character ∈ text, isAnchorChar character = true) :
    ∀ small ∈ lowercase text, isAnchorChar small = true :=
  forall_mem_lowercaseFrom (by decide +kernel) isAnchorChar_lowerChar all []

/-- Joined texts are made of characters of a kind when each of them and the separator are. -/
theorem forall_mem_intercalate {kind : Char → Prop} {separator : List Char}
    {texts : List (List Char)} (between : ∀ character ∈ separator, kind character)
    (all : ∀ text ∈ texts, ∀ character ∈ text, kind character) :
    ∀ character ∈ separator.intercalate texts, kind character := by
  induction texts with
  | nil => simp
  | cons text rest step =>
    rw [List.forall_mem_cons] at all
    cases rest with
    | nil => simpa using all.1
    | cons next more =>
      rw [List.intercalate_cons_cons]
      simp only [List.forall_mem_append]
      exact ⟨⟨all.1, between⟩, step all.2⟩

/-- Texts of which the first is not empty make a text that is not empty. -/
theorem intercalate_cons_ne_nil (separator : List Char) {text : List Char} (filled : text ≠ [])
    (rest : List (List Char)) : separator.intercalate (text :: rest) ≠ [] := by
  cases rest with
  | nil => simpa using filled
  | cons next more => simp [List.intercalate_cons_cons, filled]

/-- The anchor of a title of words, hyphens and gaps is made of words and hyphens. -/
theorem isAnchorChar_anchorOf {title : List Char}
    (all : ∀ character ∈ title, isTitleChar character = true) :
    ∀ character ∈ anchorOf title, isAnchorChar character = true := by
  apply forall_mem_intercalate
  · simp [isAnchorChar]
  · intro text member
    obtain ⟨word, listed, rfl⟩ := List.mem_map.1 member
    apply isAnchorChar_lowercase
    intro character inside
    obtain ⟨inTitle, dark⟩ := (exists_mem_words_iff character title).1 ⟨word, listed, inside⟩
    have other : isGap character = false := isGap_eq_false dark
    exact (Link.isAnchorChar_iff character).2
      ((anchor_iff_of_isTitleChar (all character inTitle)).2 other)

/-- A text that is not all white space has an anchor that is not empty. -/
theorem anchorOf_ne_nil {title : List Char} {character : Char} (inTitle : character ∈ title)
    (dark : isBlank character = false) : anchorOf title ≠ [] := by
  obtain ⟨word, listed, -⟩ := (exists_mem_words_iff character title).2 ⟨inTitle, dark⟩
  obtain ⟨first, rest, cut⟩ := List.exists_cons_of_ne_nil (List.ne_nil_of_mem listed)
  have filled : lowercase first ≠ [] := by
    have proper : first ≠ [] := words_ne_nil (by rw [cut]; exact List.mem_cons_self)
    rwa [Ne, lowercase_eq_nil_iff]
  rw [anchorOf, cut, List.map_cons]
  exact intercalate_cons_ne_nil ['-'] filled (rest.map lowercase)

/-- The anchor of a heading can be the fragment of a link. -/
theorem isFragment_anchorOf {line title : List Char} (found : headingTitle? line = some title) :
    Link.IsFragment (String.ofList (anchorOf title)) := by
  have heading := (headingTitle?_eq_some_iff line title).1 found
  obtain ⟨first, begins, word⟩ := heading.1.first
  have all : ∀ character ∈ title, isTitleChar character = true :=
    ((isTitle_iff title).1 heading.1).2.1
  have member : first ∈ title := List.mem_of_head? begins
  have anchor : isAnchorChar first = true := (Link.isAnchorChar_iff first).2 word
  have filled : anchorOf title ≠ [] := anchorOf_ne_nil member (isBlank_of_isAnchorChar anchor)
  constructor
  · simpa using filled
  · intro character inside
    rw [String.toList_ofList] at inside
    exact (Link.isAnchorChar_iff character).1 (isAnchorChar_anchorOf all character inside)

namespace Index

/-- The anchors of a document are those of its headings. -/
theorem mem_anchors_iff (document : Path) (content anchor : String) :
    anchor ∈ (ofText document content).anchors ↔
      ∃ line ∈ lines content.toList, ∃ title, headingTitle? line = some title ∧
        String.ofList (anchorOf title) = anchor := by
  simp only [ofText, headingAnchors, List.mem_eraseDups, List.mem_map, List.mem_filterMap]
  constructor
  · rintro ⟨-, ⟨title, ⟨line, inText, found⟩, rfl⟩, rfl⟩
    exact ⟨line, inText, title, found, rfl⟩
  · rintro ⟨line, inText, title, found, rfl⟩
    exact ⟨anchorOf title, ⟨title, ⟨line, inText, found⟩, rfl⟩, rfl⟩

/-- Each anchor of a document can be the fragment of a link. -/
theorem isFragment_of_mem_anchors {document : Path} {content anchor : String}
    (listed : anchor ∈ (ofText document content).anchors) : Link.IsFragment anchor := by
  obtain ⟨line, -, title, found, rfl⟩ := (mem_anchors_iff document content anchor).1 listed
  exact isFragment_anchorOf found

/-- Each text is listed once when repetitions are left out. -/
theorem nodup_eraseDups (texts : List String) : texts.eraseDups.Nodup := by
  match texts with
  | [] => exact List.nodup_nil
  | text :: rest =>
    have shorter := List.length_filter_le (fun other => !other == text) rest
    rw [List.eraseDups_cons, List.nodup_cons]
    exact ⟨by simp, nodup_eraseDups _⟩
termination_by texts.length
decreasing_by exact Nat.lt_succ_of_le shorter

/-- The anchors of a document are those of the titles of its heading lines, whatever the path of the
document. None of them is empty, and each is there once. -/
theorem anchors_of_heading_lines (document : Path) (content : String) :
    (∀ anchor, anchor ∈ (ofText document content).anchors ↔
      ∃ line ∈ content.toList.splitOn '\n', ∃ title, IsHeading line title ∧
        anchor = String.ofList (anchorOf title)) ∧
      "" ∉ (ofText document content).anchors ∧ (ofText document content).anchors.Nodup := by
  refine ⟨fun anchor => ?_, fun listed => ?_, nodup_eraseDups _⟩
  · simp only [mem_anchors_iff, headingTitle?_eq_some_iff, eq_comm (a := anchor)]
    rfl
  · exact (isFragment_of_mem_anchors listed).1 rfl

-- A line with one number sign, one with a colon and one without a gap are no headings.
example : (ofText ⟨"a.md"⟩ "# A\n## B: c\n##D\n###\t E  f \t\r\n## -").anchors =
    ["e-f", "-"] := by
  decide +kernel

end Index

end Handbook
