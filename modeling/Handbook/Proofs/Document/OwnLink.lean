import Handbook.Proofs.Check.History
import Handbook.Proofs.Check.Verdict
import Handbook.Proofs.Document.Anchors

/-!
# Linking to a heading

Every heading can be linked to from its own document. The link goes to the end, on a line of its
own, and nothing in front of it can swallow it: a link that is still open at the end of the text is
cut off, for its label ends where the bracket of the new link opens, and its target where the line
does. The new link is no heading, so the document keeps its anchors and gets the one reference,
which is sound in every batch with the new text of the document.
-/
namespace Handbook

open Text

namespace Link

/-- The link at the start of a text is found exactly when the text begins with it. -/
theorem first?_eq_some_iff (text : List Char) (link : Link) :
    first? text = some link ↔ ∃ rest, Begins text link rest := by
  simp [first?, atStart?_eq_some_iff]

/-- A text that begins with a link does so whatever it goes on with. -/
theorem Begins.append {text rest : List Char} {link : Link} (begins : Begins text link rest)
    (after : List Char) : Begins (text ++ after) link (rest ++ after) := by
  obtain ⟨inside, -, rfl, same⟩ := begins.closed
  simpa using same (rest ++ after)

/-- A link at the start of a text ends before a bracket that opens at the start of a later line. -/
theorem Begins.of_append_line {text more rest : List Char} {link : Link} (filled : text ≠ [])
    (begins : Begins (text ++ '\n' :: '[' :: more) link rest) : ∃ left, Begins text link left := by
  obtain ⟨inside, clean, whole, same⟩ := begins.closed
  obtain ⟨first, later, rfl⟩ := List.exists_cons_of_ne_nil filled
  obtain ⟨rfl, behind⟩ := List.cons.inj whole
  have split : later ++ '\n' :: '[' :: more = (inside ++ [')']) ++ rest := by
    simpa using behind
  rcases List.append_eq_append_iff.1 split with ⟨beyond, long, ending⟩ | ⟨left, short, -⟩
  · -- The link would go past the text: at least through the line feed.
    cases beyond with
    | nil => exact ⟨[], by simpa [long] using same []⟩
    | cons feed beyond =>
      simp only [List.cons_append, List.cons.injEq] at ending
      obtain ⟨rfl, opening⟩ := ending
      cases beyond with
      | nil =>
        have last := congrArg List.getLast? long
        simp at last
      | cons bracket beyond =>
        simp only [List.cons_append, List.cons.injEq] at opening
        obtain ⟨rfl, -⟩ := opening
        have opened : '[' ∈ inside ++ [')'] := by simp [long]
        exact absurd opened (by simpa using clean)
  · exact ⟨left, by simpa [short] using same left⟩

/-- No link begins in a text that it leaves through a bracket at the start of a later line. -/
theorem first?_append_line {text : List Char} (filled : text ≠ []) (more : List Char) :
    first? (text ++ '\n' :: '[' :: more) = first? text := by
  ext link
  rw [first?_eq_some_iff, first?_eq_some_iff]
  constructor
  · rintro ⟨rest, begins⟩
    exact begins.of_append_line filled
  · rintro ⟨rest, begins⟩
    exact ⟨_, begins.append _⟩

/-- When no link of a text goes beyond it, the links of a longer text are those of its two parts. -/
theorem scan_append {before after : List Char}
    (kept : ∀ text, text ≠ [] → text <:+ before → first? (text ++ after) = first? text) :
    scan (before ++ after) = scan before ++ scan after := by
  simp only [scan_eq_filterMap_tails]
  induction before with
  | nil => simp [first?, atStart?]
  | cons character rest step =>
    have here := kept (character :: rest) (by simp) List.suffix_rfl
    have later := step fun text filled inside =>
      kept text filled (inside.trans (List.suffix_cons character rest))
    rw [List.cons_append] at here ⊢
    rw [List.tails_cons, List.tails_cons, List.filterMap_cons, List.filterMap_cons, here, later]
    cases first? (character :: rest) <;> rfl

/-- A line feed begins no link. -/
theorem scan_feed (rest : List Char) : scan ('\n' :: rest) = scan rest := by
  rw [scan_eq_filterMap_tails, List.tails_cons,
    List.filterMap_cons_none (first?_cons_of_ne (by decide) rest), scan_eq_filterMap_tails]

/-- The links of a text that goes on with a bracket on a line of its own. -/
theorem scan_append_line (before more : List Char) :
    scan (before ++ '\n' :: '[' :: more) = scan before ++ scan ('[' :: more) := by
  rw [scan_append fun text filled _ => first?_append_line filled more, scan_feed]

end Link

/-- A link to a heading of the document that it stands in. -/
def ownLink (anchor : String) : String := "[x](#" ++ anchor ++ ")"

/-- The link to an anchor is read as it is written. -/
theorem scan_ownLink {anchor : String} (fragment : Link.IsFragment anchor) :
    Link.scan (ownLink anchor).toList = [⟨none, some anchor⟩] := by
  have begins : Link.Begins (ownLink anchor).toList ⟨none, some anchor⟩ [] := by
    refine ⟨['x'], ⟨by simp, by simp⟩, ⟨by simp, by simpa using fragment⟩, ?_⟩
    simp [ownLink, Link.spelling]
  have found := (Link.atStart?_eq_some_iff _ _ _).2 begins
  unfold Link.scan
  split
  · rename_i link rest again
    rw [found] at again
    obtain ⟨rfl, rfl⟩ := Prod.mk.inj (Option.some.inj again)
    simp [Link.scan, Link.atStart?]
  · rename_i none
    simp [found] at none

namespace Index

/-- A text with a link to one of its headings on a new last line. -/
def withOwnLink (content anchor : String) : String := content ++ "\n" ++ ownLink anchor

variable {document : Path} {content anchor : String}

/-- The characters of a text with a link to one of its headings. -/
theorem toList_withOwnLink (content anchor : String) :
    (withOwnLink content anchor).toList = content.toList ++ '\n' :: (ownLink anchor).toList := by
  simp [withOwnLink]

/-- A link to a heading adds no heading. -/
theorem anchors_withOwnLink (fragment : Link.IsFragment anchor) :
    (ofText document (withOwnLink content anchor)).anchors =
      (ofText document content).anchors := by
  have clean : '\n' ∉ (ownLink anchor).toList := by
    have word : isWord '\n' = false := by decide +kernel
    have inAnchor : '\n' ∉ anchor.toList := fun member => by
      simpa [word] using fragment.2 '\n' member
    simp [ownLink, inAnchor]
  have cut : lines (withOwnLink content anchor).toList =
      lines content.toList ++ [(ownLink anchor).toList] := by
    rw [toList_withOwnLink, lines, List.splitOn_append_cons_self]
    exact congrArg _ (lines_of_clean clean)
  have plain : headingTitle? (ownLink anchor).toList = none := by
    simp [ownLink, headingTitle?]
  simp [ofText, headingAnchors, cut, plain]

/-- A link to a heading adds its reference behind the others. -/
theorem references_withOwnLink (fragment : Link.IsFragment anchor) :
    (ofText document (withOwnLink content anchor)).references =
      (ofText document content).references ++ [⟨document, some anchor⟩] := by
  have own := scan_ownLink fragment
  have spelled : (ownLink anchor).toList = '[' :: ("x](#" ++ anchor ++ ")").toList := by
    simp [ownLink]
  have links : Link.scan (withOwnLink content anchor).toList =
      Link.scan content.toList ++ [⟨none, some anchor⟩] := by
    rw [toList_withOwnLink, spelled, Link.scan_append_line, ← spelled, own]
  simp [ofText, links, Link.resolve?]

/-- A reference to an anchor of a document is sound in every batch into which the document is put
last, whatever is on disk. -/
theorem broken?_insert_of_mem_anchors {index : Index} (listed : anchor ∈ index.anchors)
    (filled : anchor ≠ "") (present : Path → Bool) (batch : Batch) (source : Path) :
    (⟨document, some anchor⟩ : Reference).broken? present (batch.insert document index) source =
      none := by
  have found : (batch.insert document index).get? document = some index := by
    rw [Batch.get?_insert, if_pos rfl]
  have asked := (Reference.lookup?_eq_some_iff ⟨document, some anchor⟩ _ index anchor).2
    ⟨rfl, filled, found⟩
  exact (Reference.broken?_eq_none_iff present _ source _).2 (.inl ⟨anchor, index, asked, listed⟩)

/-- Every heading of a document can be linked to: its anchor can stand in a link, a link to it on a
new last line changes no heading and adds one reference behind the others, and this reference is
sound once the document is put into a batch with the new text, whatever is on disk. -/
theorem heading_linkable (listed : anchor ∈ (ofText document content).anchors) :
    Link.IsFragment anchor ∧
      (ofText document (withOwnLink content anchor)).anchors =
        (ofText document content).anchors ∧
      (ofText document (withOwnLink content anchor)).references =
        (ofText document content).references ++ [⟨document, some anchor⟩] ∧
      ∀ (batch : Batch) (present : Path → Bool) (source : Path),
        (⟨document, some anchor⟩ : Reference).broken? present
          (batch.insert document (ofText document (withOwnLink content anchor))) source = none := by
  have fragment : Link.IsFragment anchor := isFragment_of_mem_anchors listed
  have anchors : (ofText document (withOwnLink content anchor)).anchors =
      (ofText document content).anchors := anchors_withOwnLink fragment
  refine ⟨fragment, anchors, references_withOwnLink fragment, fun batch present source => ?_⟩
  exact broken?_insert_of_mem_anchors (by rwa [anchors]) fragment.1 present batch source

/-- A heading whose last letter depends on the letters before it can be linked to behind a bracket
that is never closed. -/
theorem heading_linkable_final_sigma :
    "οδος" ∈ (ofText ⟨"docs/a.md"⟩ "## ΟΔΟΣ\n[").anchors ∧
      ∀ (batch : Batch) (present : Path → Bool) (source : Path),
        (⟨⟨"docs/a.md"⟩, some "οδος"⟩ : Reference).broken? present
          (batch.insert ⟨"docs/a.md"⟩ (ofText ⟨"docs/a.md"⟩ "## ΟΔΟΣ\n[\n[x](#οδος)")) source =
            none := by
  have listed : "οδος" ∈ (ofText ⟨"docs/a.md"⟩ "## ΟΔΟΣ\n[").anchors := by decide +kernel
  exact ⟨listed, (heading_linkable listed).2.2.2⟩

end Index

end Handbook
