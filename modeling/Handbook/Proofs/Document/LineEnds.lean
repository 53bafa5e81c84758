import Handbook.Proofs.Document.HeadingGrammar
import Handbook.Proofs.Document.OwnLink
import Handbook.Sample.Program

/-!
# Line ends do not matter

A document is read alike whether its lines end with a line feed or with a carriage return and a line
feed, and the two kinds may be mixed. Headings and fences allow one carriage return at the end of
their line, and body lines lose theirs. A label keeps the carriage returns in it, but a label is not
kept, and it is not empty without them. No carriage return begins a link or stands between the round
brackets of one.
-/
namespace Handbook

open Text

namespace Block

/-- Whether a line goes on after its start with what may follow a fence does not depend on a
carriage return at its end. -/
theorem ends_bare_iff {start line : List Char} (last : ReturnsLast line) (clean : '\r' ∉ start) :
    (∃ ending, IsFenceEnd ending ∧ bare line = start ++ ending) ↔
      ∃ ending, IsFenceEnd ending ∧ line = start ++ ending := by
  constructor
  · rintro ⟨ending, ⟨gaps, none, all, final, rfl⟩, whole⟩
    obtain ⟨carriage, single, spelled⟩ := last
    have nothing : none = [] := by
      refine final.resolve_right fun some => return_notMem_bare line ?_
      rw [whole, some]
      simp
    refine ⟨gaps ++ carriage, ⟨gaps, carriage, all, single, rfl⟩, ?_⟩
    rw [spelled, whole, nothing]
    simp
  · rintro ⟨ending, ⟨gaps, carriage, all, final, rfl⟩, rfl⟩
    have inGaps : '\r' ∉ gaps := fun member => absurd (all _ member) (by decide)
    have dropped : bare carriage = [] := by
      rcases final with rfl | rfl <;> rfl
    refine ⟨gaps ++ [], ⟨gaps, [], all, .inl rfl, rfl⟩, ?_⟩
    rw [bare_append, bare_append, bare_eq_self clean, bare_eq_self inGaps, dropped]

/-- A line opens a block with or without a carriage return at its end. -/
theorem opens_bare_iff {line : List Char} (last : ReturnsLast line) (tag : List Char) :
    Opens (bare line) tag ↔ Opens line tag := by
  unfold Opens
  refine and_congr_right fun _ => and_congr_right fun legal => ends_bare_iff last ?_
  intro member
  rcases List.mem_append.1 member with inFence | inTag
  · exact absurd inFence (by decide)
  · exact absurd (legal _ inTag).1 (by decide)

/-- A line closes a block with or without a carriage return at its end. -/
theorem closes_bare_iff {line : List Char} (last : ReturnsLast line) :
    Closes (bare line) ↔ Closes line :=
  ends_bare_iff last (by decide)

/-- Carriage returns at the end of a body line are left out, whether or not there are some. -/
theorem rdropWhile_bare {line : List Char} (last : ReturnsLast line) :
    (bare line).rdropWhile (· == '\r') = line.rdropWhile (· == '\r') := by
  obtain ⟨carriage, final, spelled⟩ := last
  rcases final with rfl | rfl
  · rw [List.append_nil] at spelled
    rw [← spelled]
  · conv_rhs => rw [spelled]
    rw [List.rdropWhile_concat_pos]
    rfl

/-- Lines have the same blocks without the carriage returns at their ends. -/
theorem Scanned.map_bare {below : List (List Char)} {blocks : List Block}
    (last : ∀ line ∈ below, ReturnsLast line) (scanned : Scanned below blocks) :
    Scanned (below.map bare) blocks := by
  induction scanned with
  | done => exact .done
  | @block opening tag closing body below blocks opens unclosed closes _ step =>
    simp only [List.forall_mem_cons, List.forall_mem_append] at last
    obtain ⟨first, inside, final, later⟩ := last
    have same : (body.map bare).map (fun line => String.ofList (line.rdropWhile (· == '\r'))) =
        body.map fun line => String.ofList (line.rdropWhile (· == '\r')) := by
      rw [List.map_map, List.map_inj_left]
      exact fun line member => congrArg String.ofList (rdropWhile_bare (inside line member))
    rw [List.map_cons, List.map_append, List.map_cons, ← same]
    refine .block ((opens_bare_iff first tag).2 opens) (fun line member => ?_)
      ((closes_bare_iff final).2 closes) (step later)
    obtain ⟨whole, listed, rfl⟩ := List.mem_map.1 member
    rw [closes_bare_iff (inside whole listed)]
    exact unclosed whole listed
  | @line line below blocks passed _ step =>
    rw [List.forall_mem_cons] at last
    refine .line (fun ⟨tag, opens⟩ later member => ?_) (step last.2)
    obtain ⟨whole, listed, rfl⟩ := List.mem_map.1 member
    rw [closes_bare_iff (last.2 whole listed)]
    exact passed ⟨tag, (opens_bare_iff last.1 tag).1 opens⟩ whole listed

/-- A text has the same blocks without its carriage returns. -/
theorem scan_bare {text : List Char} (paired : Paired text) : scan (bare text) = scan text := by
  have read := scanned_scan (bare text)
  rw [lines_bare] at read
  exact read.unique ((scanned_scan text).map_bare fun _ => returnsLast_of_mem_lines paired)

end Block

/-- A line is a heading with or without a carriage return at its end. -/
theorem isHeading_bare_iff {line : List Char} (last : ReturnsLast line) (title : List Char) :
    IsHeading (bare line) title ↔ IsHeading line title := by
  unfold IsHeading
  refine and_congr_right fun proper => exists_congr fun marks => exists_congr fun gaps =>
    and_congr_right fun _ => and_congr_right fun _ => and_congr_right fun gap =>
      Block.ends_bare_iff last ?_
  intro member
  rcases List.mem_append.1 member with before | inTitle
  · rcases List.mem_append.1 before with inMarks | inGaps
    · exact absurd (List.eq_of_mem_replicate inMarks) (by decide)
    · exact absurd (gap _ inGaps) (by decide)
  · exact absurd (proper.inside _ inTitle) (by decide +kernel)

/-- A text has the same heading anchors without its carriage returns. -/
theorem headingAnchors_bare {text : List Char} (paired : Paired text) :
    headingAnchors (bare text) = headingAnchors text := by
  have same : (lines text).filterMap (fun line => headingTitle? (bare line)) =
      (lines text).filterMap headingTitle? := by
    refine List.filterMap_congr fun line member => Option.ext fun title => ?_
    rw [headingTitle?_eq_some_iff, headingTitle?_eq_some_iff]
    exact isHeading_bare_iff (returnsLast_of_mem_lines paired member) title
  rw [headingAnchors, headingAnchors, lines_bare, List.filterMap_map, ← same]
  rfl

namespace Link

/-- A label before its closing bracket is a label without its carriage returns. -/
theorem IsLabel.without_returns {label behind : List Char} (proper : IsLabel label)
    (paired : Paired (label ++ ']' :: behind)) : IsLabel (bare label) := by
  refine ⟨fun none => ?_, fun character member => ?_⟩
  · -- The last character would be a carriage return, and the bracket stands behind it.
    obtain ⟨before, last, rfl⟩ := (List.eq_nil_or_concat label).resolve_left proper.1
    have carriage : last = '\r' := by
      by_contra other
      have kept : last ∈ bare (before.concat last) := (mem_bare_iff _ _).2 ⟨by simp, other⟩
      rw [none] at kept
      exact List.not_mem_nil kept
    have feed := paired (']' :: behind) ⟨before, by simp [carriage]⟩
    simp at feed
  · exact proper.2 character ((mem_bare_iff _ _).1 member).1

/-- A text begins with a link exactly when it does so without its carriage returns. -/
theorem begins_bare_iff {text : List Char} (paired : Paired text) (link : Link)
    (after : List Char) :
    Begins (bare text) link after ↔ ∃ rest, Begins text link rest ∧ bare rest = after := by
  constructor
  · rintro ⟨label, ⟨filled, proper⟩, legal, whole⟩
    have opening : '\n' ∉ ['['] := by decide
    obtain ⟨inner, rfl, left⟩ := paired.exists_append opening whole
    -- The label is what is cut off before the closing bracket, with its carriage returns.
    obtain ⟨inside, behind, rfl, spelled, ending⟩ := List.filter_eq_append_iff.1 left
    have closing : '\n' ∉ ']' :: '(' :: (link.spelling ++ [')']) := by
      intro member
      have inSpelling : '\n' ∈ link.spelling := by simpa using member
      exact absurd (legal.mem_spelling inSpelling) (by decide +kernel)
    have target : bare behind = ']' :: '(' :: (link.spelling ++ [')']) ++ after := by
      rw [bare, ending]
      simp
    obtain ⟨rest, rfl, kept⟩ :=
      (paired.of_suffix ⟨'[' :: inside, by simp⟩).exists_append closing target
    refine ⟨rest, ⟨inside, ⟨?_, fun character member => ?_⟩, legal, by simp⟩, kept⟩
    · rintro rfl
      exact filled spelled.symm
    · by_cases carriage : character = '\r'
      · simp [carriage]
      · have inLabel : character ∈ bare inside := (mem_bare_iff _ _).2 ⟨member, carriage⟩
        exact proper character (spelled ▸ inLabel)
  · rintro ⟨rest, ⟨label, proper, legal, rfl⟩, rfl⟩
    have inSpelling : '\r' ∉ link.spelling := fun member =>
      absurd (legal.mem_spelling member) (by decide +kernel)
    have behind := paired.of_suffix (List.suffix_cons '[' _)
    refine ⟨bare label, proper.without_returns behind, legal, ?_⟩
    rw [bare_cons (by decide), bare_append, bare_cons (by decide), bare_cons (by decide),
      bare_append, bare_eq_self inSpelling, bare_cons (by decide)]

/-- The links of a text are those that it has without its carriage returns. -/
theorem scan_bare {text : List Char} (paired : Paired text) : scan (bare text) = scan text := by
  simp only [scan_eq_filterMap_tails]
  induction text with
  | nil => rfl
  | cons character rest step =>
    have later := step (paired.of_suffix (List.suffix_cons character rest))
    by_cases carriage : character = '\r'
    · rw [carriage, bare_return, later, List.tails_cons,
        List.filterMap_cons_none (first?_cons_of_ne (by decide) rest)]
    · have same : first? (character :: bare rest) = first? (character :: rest) := by
        ext link
        rw [first?_eq_some_iff, first?_eq_some_iff, ← bare_cons carriage]
        simp only [begins_bare_iff paired]
        exact ⟨fun ⟨_, rest, begins, _⟩ => ⟨rest, begins⟩, fun ⟨rest, begins⟩ =>
          ⟨_, rest, begins, rfl⟩⟩
      rw [bare_cons carriage, List.tails_cons, List.tails_cons, List.filterMap_cons,
        List.filterMap_cons, same, later]

end Link

/-- A text in which every carriage return stands before a line feed is read like the text with a
line feed in place of each such pair: for every document it has the same index, and it has the same
blocks, and so for all settings the same sample and the same program. -/
theorem readings_withFeeds {content : String} (paired : Paired content.toList) :
    (∀ document, Index.ofText document (String.ofList (withFeeds content.toList)) =
      Index.ofText document content) ∧
    Block.ofText (String.ofList (withFeeds content.toList)) = Block.ofText content ∧
    ∀ settings, Sample.ofText settings (String.ofList (withFeeds content.toList)) =
        Sample.ofText settings content ∧
      (Sample.ofText settings (String.ofList (withFeeds content.toList))).program settings =
        (Sample.ofText settings content).program settings := by
  have blocks : Block.ofText (String.ofList (withFeeds content.toList)) = Block.ofText content := by
    rw [Block.ofText, String.toList_ofList, withFeeds_eq_bare paired, Block.scan_bare paired]
    rfl
  have sample : ∀ settings, Sample.ofText settings (String.ofList (withFeeds content.toList)) =
      Sample.ofText settings content := fun settings => by
    rw [Sample.ofText, blocks]
    rfl
  refine ⟨fun document => ?_, blocks, fun settings => ⟨sample settings, ?_⟩⟩
  · rw [Index.ofText, String.toList_ofList, withFeeds_eq_bare paired, headingAnchors_bare paired,
      Link.scan_bare paired]
    rfl
  · rw [sample]

/-- A document of which only some lines end with a carriage return, at a heading, inside the label
of a link and at an opening fence, but not at the closing one. -/
def mixedDocument : String := "## Top\r\n[to\r\nthe top](#top)\n```c++\r\nint x;\r\n\n```\n"

/-- The mixed document has one heading, one reference and one block, and without its carriage
returns it has the same. -/
theorem readings_mixedDocument : Paired mixedDocument.toList ∧
    String.ofList (withFeeds mixedDocument.toList) =
        "## Top\n[to\nthe top](#top)\n```c++\nint x;\n\n```\n" ∧
      Index.ofText ⟨"a.md"⟩ mixedDocument = ⟨["top"], [⟨⟨"a.md"⟩, some "top"⟩]⟩ ∧
      Index.ofText ⟨"a.md"⟩ (String.ofList (withFeeds mixedDocument.toList)) =
        ⟨["top"], [⟨⟨"a.md"⟩, some "top"⟩]⟩ ∧
      Block.ofText (String.ofList (withFeeds mixedDocument.toList)) =
        [⟨"c++", ["int x;", ""]⟩] := by
  have paired : Paired mixedDocument.toList := by decide +kernel
  have index : Index.ofText ⟨"a.md"⟩ mixedDocument = ⟨["top"], [⟨⟨"a.md"⟩, some "top"⟩]⟩ := by
    decide +kernel
  have blocks : Block.ofText mixedDocument = [⟨"c++", ["int x;", ""]⟩] := by decide +kernel
  have readings := readings_withFeeds paired
  exact ⟨paired, by decide +kernel, index, (readings.1 ⟨"a.md"⟩).trans index,
    readings.2.1.trans blocks⟩

end Handbook
