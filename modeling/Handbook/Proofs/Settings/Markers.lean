import Handbook.Proofs.Sample.Manuscript

/-!
# Markers that are tags

What settings accept as a marker is what a fence can carry as its tag: characters of which none is
white space or a backtick, and at least one of them. So an accepted marker selects the blocks with
this tag, in any case of its ASCII letters, whatever else its fences carry and whatever lines stand
between them. The other direction asks how a block can have come about at all: each block that is
read has the tag of an opening line.
-/
namespace Handbook

open Text

namespace Block

/-- The tag of each block stands on an opening line. -/
theorem Scanned.opened {below : List (List Char)} {blocks : List Block}
    (scanned : Scanned below blocks) :
    ∀ block ∈ blocks, ∃ line ∈ below, Opens line block.tag.toList := by
  induction scanned with
  | done => simp
  | @block opening tag closing body after more opens _ _ _ step =>
    refine List.forall_mem_cons.2 ⟨?_, fun block member => ?_⟩
    · exact ⟨opening, List.mem_cons_self, by simpa using opens⟩
    · obtain ⟨line, inside, found⟩ := step block member
      have later : line ∈ body ++ closing :: after :=
        List.mem_append_right body (List.mem_cons_of_mem closing inside)
      exact ⟨line, List.mem_cons_of_mem opening later, found⟩
  | @line first after _ _ _ step =>
    intro block member
    obtain ⟨line, inside, found⟩ := step block member
    exact ⟨line, List.mem_cons_of_mem first inside, found⟩

/-- A document of one block. Something may follow each fence in its line, and after the closing
fence the document ends, or its last line does. -/
def document (block : Block) (opened closed : List Char) (ending : String) : String :=
  String.ofList (fence ++ block.tag.toList ++ opened) ++ "\n" ++
    String.join (block.body.map (· ++ "\n")) ++ String.ofList (fence ++ closed) ++ ending

/-- The lines of a document of one block. -/
theorem lines_document {block : Block} {opened closed : List Char} {ending : String}
    (first : '\n' ∉ fence ++ block.tag.toList ++ opened)
    (body : ∀ line ∈ block.body, '\n' ∉ line.toList) (last : '\n' ∉ fence ++ closed)
    (ended : ending = "" ∨ ending = "\n") :
    ∃ below, (below = [] ∨ below = [[]]) ∧
      lines (block.document opened closed ending).toList =
        (fence ++ block.tag.toList ++ opened) ::
          (block.body.map String.toList ++ (fence ++ closed) :: below) := by
  have whole : (block.document opened closed ending).toList =
      (fence ++ block.tag.toList ++ opened) ++ '\n' ::
        ((String.join (block.body.map (· ++ "\n"))).toList ++
          ((fence ++ closed) ++ ending.toList)) := by
    simp [document]
  rw [whole, lines_append first, lines_join_append body]
  rcases ended with rfl | rfl
  · refine ⟨[], .inl rfl, ?_⟩
    rw [String.toList_empty, List.append_nil, lines_of_clean last]
  · refine ⟨[[]], .inr rfl, ?_⟩
    have feed : ("\n" : String).toList = ['\n'] := rfl
    rw [feed, lines_append last]
    rfl

/-- A document of one block has this block. -/
theorem ofText_document {block : Block} (embeddable : block.Embeddable)
    {opened closed : List Char} (openedEnds : IsFenceEnd opened) (closedEnds : IsFenceEnd closed)
    {ending : String} (ended : ending = "" ∨ ending = "\n") :
    ofText (block.document opened closed ending) = [block] := by
  have opens : Opens (fence ++ block.tag.toList ++ opened) block.tag.toList :=
    ⟨by simpa using embeddable.tag_filled, embeddable.tag_plain, opened, openedEnds, rfl⟩
  have closes : Closes (fence ++ closed) := ⟨closed, closedEnds, rfl⟩
  obtain ⟨below, last, cut⟩ :=
    lines_document opens.clean embeddable.body_lines closes.clean ended
  have after : Scanned below [] := by
    rcases last with rfl | rfl
    · exact .done
    · exact .line (by simp) .done
  have found := scanned_scan (block.document opened closed ending).toList
  rw [cut] at found
  exact found.unique (after.enclosed embeddable opens closes)

end Block

namespace Settings

/-- A marker is accepted when it is not empty and has neither white space nor a backtick. -/
theorem isMarker_iff (marker : String) :
    isMarker marker = true ↔ marker ≠ "" ∧
      ∀ character ∈ marker.toList, isBlank character = false ∧ character ≠ Block.backtick := by
  simp [isMarker, Block.backtick]

/-- Settings with one marker are accepted when the marker is. -/
theorem flaw?_singleton_eq_none_iff (marker : String) :
    ({ markers := [marker] } : Settings).flaw? = none ↔ isMarker marker = true := by
  simp [flaw?_eq_none_iff]

/-- A tag may have the ASCII letters that it may have in the other case. -/
theorem SameLetter.plain {left right : Char} (same : SameLetter left right)
    (plain : isBlank left = false ∧ left ≠ Block.backtick) :
    isBlank right = false ∧ right ≠ Block.backtick := by
  have letter : ∀ {character : Char}, 65 ≤ character.toNat → character.toNat ≤ 122 →
      character.toNat ≠ 96 → isBlank character = false ∧ character ≠ Block.backtick := by
    intro character low high other
    constructor
    · simp only [isBlank, blankRanges, Ranges.has]
      grind
    · rintro rfl
      exact other rfl
  simp only [SameLetter, isUpper_iff] at same
  rcases same with rfl | ⟨capital, small⟩ | ⟨capital, -⟩
  · exact plain
  · exact letter (by omega) (by omega) (by omega)
  · exact letter (by omega) (by omega) (by omega)

/-- Each letter of the second of two texts of the same letters has its counterpart in the first. -/
theorem SameLetters.exists_sameLetter {left right : String} (same : SameLetters left right)
    {letter : Char} (member : letter ∈ right.toList) :
    ∃ other ∈ left.toList, SameLetter other letter := by
  unfold SameLetters at same
  generalize left.toList = letters at same ⊢
  generalize right.toList = others at same member
  induction same with
  | nil => exact absurd member List.not_mem_nil
  | @cons first second _ _ head _ step =>
    rcases List.mem_cons.1 member with rfl | later
    · exact ⟨first, List.mem_cons_self, head⟩
    · obtain ⟨other, inside, alike⟩ := step later
      exact ⟨other, List.mem_cons_of_mem first inside, alike⟩

/-- A tag of the same letters as an accepted marker is acceptable. -/
theorem SameLetters.isMarker {marker tag : String} (same : SameLetters marker tag)
    (accepted : isMarker marker = true) : Settings.isMarker tag = true := by
  obtain ⟨filled, plain⟩ := (isMarker_iff marker).1 accepted
  refine (isMarker_iff tag).2 ⟨?_, fun character member => ?_⟩
  · rintro rfl
    have none : marker.toList = [] := List.forall₂_nil_right_iff.1 same
    exact filled (String.toList_eq_nil_iff.1 none)
  · obtain ⟨letter, inside, alike⟩ := same.exists_sameLetter member
    exact alike.plain (plain letter inside)

/-- A block with an acceptable tag can be written between fences when its lines have neither line
feeds nor carriage returns and none of them closes it. -/
theorem embeddable_of_isMarker {block : Block} (accepted : isMarker block.tag = true)
    (plain : ∀ line ∈ block.body,
      '\n' ∉ line.toList ∧ '\r' ∉ line.toList ∧ ¬Block.Closes line.toList) : block.Embeddable where
  tag_filled := ((isMarker_iff block.tag).1 accepted).1
  tag_plain := ((isMarker_iff block.tag).1 accepted).2
  body_lines line member := (plain line member).1
  body_ends line member last := (plain line member).2.1 (List.mem_of_getLast? last)
  body_open line member gaps all spelled := by
    have ends : Block.IsFenceEnd gaps := ⟨gaps, [], all, .inl rfl, (List.append_nil gaps).symm⟩
    exact (plain line member).2.2 ⟨gaps, ends, spelled⟩

/-- The tag of a block that is read from a document is acceptable as a marker. -/
theorem isMarker_of_mem_ofText {content : String} {block : Block}
    (member : block ∈ Block.ofText content) : isMarker block.tag = true := by
  have scanned := Block.scanned_scan content.toList
  obtain ⟨line, -, filled, plain, -⟩ := scanned.opened block member
  exact (isMarker_iff block.tag).2 ⟨by simpa using filled, plain⟩

/-- A marker is accepted by itself exactly when some document has a block with this tag. In accepted
settings each marker selects every block with its letters, whatever their case and whatever the
fences carry behind them: the document of the block has the block, and the sample of the document
has all its lines. -/
theorem markers_match_tags :
    (∀ marker : String, ({ markers := [marker] } : Settings).flaw? = none ↔
      ∃ content : String, ∃ block ∈ Block.ofText content, block.tag = marker) ∧
      ∀ settings : Settings, settings.flaw? = none → ∀ marker ∈ settings.markers,
        ∀ block : Block, SameLetters marker block.tag →
          (∀ line ∈ block.body,
            '\n' ∉ line.toList ∧ '\r' ∉ line.toList ∧ ¬Block.Closes line.toList) →
          ∀ (opened closed : List Char) (ending : String), Block.IsFenceEnd opened →
            Block.IsFenceEnd closed → ending = "" ∨ ending = "\n" →
              Block.ofText (block.document opened closed ending) = [block] ∧
                (Sample.ofText settings (block.document opened closed ending)).HasLines settings
                  block.body := by
  constructor
  · intro marker
    rw [flaw?_singleton_eq_none_iff]
    constructor
    · intro accepted
      have bare : Block.IsFenceEnd [] := ⟨[], [], by simp, .inl rfl, rfl⟩
      have embeddable : (⟨marker, []⟩ : Block).Embeddable :=
        embeddable_of_isMarker accepted (by simp)
      have read := Block.ofText_document embeddable bare bare (.inl rfl)
      exact ⟨_, ⟨marker, []⟩, by rw [read]; exact List.mem_cons_self, rfl⟩
    · rintro ⟨content, block, member, rfl⟩
      exact isMarker_of_mem_ofText member
  · intro settings sound marker listed block same plain opened closed ending openedEnds closedEnds
      ended
    have accepted : isMarker marker = true :=
      ((flaw?_eq_none_iff settings).1 sound).2.1 marker listed
    have embeddable : block.Embeddable := embeddable_of_isMarker (same.isMarker accepted) plain
    have read := Block.ofText_document embeddable openedEnds closedEnds ended
    have selected : settings.Selects block.tag := ⟨marker, listed, same⟩
    have lines := Sample.hasLines_ofBlocks settings [block]
    rw [Sample.ofText, read]
    exact ⟨rfl, by simpa [selected] using lines⟩

/-- Settings with two markers and everything else by default. -/
def twoMarkers : Settings := { markers := ["c++", "CpP"] }

/-- A block whose tag is the second marker in other cases, with an empty line, a directive and a
line that could open a block by itself. -/
def otherCase : Block := ⟨"cPp", ["int a;", "", "#define B", "\x60\x60\x60rust"]⟩

/-- Gaps and a carriage return follow the opening fence, and nothing the closing one. -/
theorem markers_match_tags_otherCase :
    twoMarkers.flaw? = none ∧ "CpP" ∈ twoMarkers.markers ∧ SameLetters "CpP" otherCase.tag ∧
      (∀ line ∈ otherCase.body,
        '\n' ∉ line.toList ∧ '\r' ∉ line.toList ∧ ¬Block.Closes line.toList) ∧
      Block.ofText (otherCase.document [' ', '\t', '\r'] [] "") = [otherCase] ∧
      (Sample.ofText twoMarkers (otherCase.document [' ', '\t', '\r'] [] "")).directives =
        ["#define B"] ∧
      (Sample.ofText twoMarkers (otherCase.document [' ', '\t', '\r'] [] "")).statements =
        ["    int a;", "    ", "    \x60\x60\x60rust"] := by
  have sound : twoMarkers.flaw? = none := by decide +kernel
  have listed : "CpP" ∈ twoMarkers.markers := by decide
  have same : SameLetters "CpP" otherCase.tag := (sameTag_iff _ _).1 (by decide)
  have plain : ∀ line ∈ otherCase.body,
      '\n' ∉ line.toList ∧ '\r' ∉ line.toList ∧ ¬Block.Closes line.toList := by
    have unread : ∀ line ∈ otherCase.body, '\n' ∉ line.toList ∧ '\r' ∉ line.toList ∧
        Block.closing? line.toList ≠ some [] := by
      decide +kernel
    intro line member
    obtain ⟨noFeed, noReturn, unclosed⟩ := unread line member
    exact ⟨noFeed, noReturn, fun closes => unclosed (Block.closing?_of_closes closes)⟩
  have opened : Block.IsFenceEnd [' ', '\t', '\r'] :=
    ⟨[' ', '\t'], ['\r'], by simp, .inr rfl, rfl⟩
  have closed : Block.IsFenceEnd [] := ⟨[], [], by simp, .inl rfl, rfl⟩
  obtain ⟨read, sample⟩ := markers_match_tags.2 twoMarkers sound "CpP" listed otherCase same plain
    _ _ "" opened closed (.inl rfl)
  exact ⟨sound, listed, same, plain, read, sample.directives.trans (by decide +kernel),
    sample.statements.trans (by decide +kernel)⟩

end Settings

end Handbook
