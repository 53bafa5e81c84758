import Handbook.Proofs.Document.OwnLink
import Handbook.Proofs.Sample.Manuscript

/-!
# A section behind a document

Whole lines that are written behind a document do not change how the document before them is read,
unless something is still open there: a fence behind the last block that a later line might close,
or a bracket that a later line might make the label of a link. `Block.LeftOver` says what stands
behind the last block. Everything up to there is read alike whatever follows, and so is every link
whose label is closed, since its target ends in the same line.
-/
namespace Handbook

open Text

namespace Text

/-- A text of whole lines: it is empty or ends with a line feed. -/
def Ended (text : List Char) : Prop := text = [] ∨ text.getLast? = some '\n'

/-- Behind whole lines the lines of another text follow, in place of an empty last line. -/
theorem exists_lines_append {before : List Char} (ended : Ended before) :
    ∃ whole, lines before = whole ++ [[]] ∧
      ∀ after, lines (before ++ after) = whole ++ lines after := by
  rcases ended with rfl | final
  · exact ⟨[], rfl, fun after => rfl⟩
  · obtain ⟨start, rfl⟩ := List.getLast?_eq_some_iff.1 final
    refine ⟨lines start, List.splitOn_append_cons_self start [], fun after => ?_⟩
    rw [List.append_assoc]
    exact List.splitOn_append_cons_self start after

end Text

namespace Block

/-- An opening line starts with a fence. -/
theorem Opens.fenced {line tag : List Char} (opens : Opens line tag) : fence <+: line := by
  obtain ⟨-, -, ending, -, rfl⟩ := opens
  exact ⟨tag ++ ending, (List.append_assoc fence tag ending).symm⟩

/-- A closing line starts with a fence. -/
theorem Closes.fenced {line : List Char} (closes : Closes line) : fence <+: line := by
  obtain ⟨ending, -, rfl⟩ := closes
  exact ⟨ending, rfl⟩

/-- What is left of a list of lines behind its last block. -/
inductive LeftOver : List (List Char) → List (List Char) → Prop
  /-- Lines without blocks are all left over. -/
  | all {below : List (List Char)} : Scanned below [] → LeftOver below below
  /-- Behind a block the lines below its closing line go on. -/
  | block {opening tag closing : List Char} {body below left : List (List Char)} :
    Opens opening tag → (∀ line ∈ body, ¬Closes line) → Closes closing → LeftOver below left →
      LeftOver (opening :: (body ++ closing :: below)) left
  /-- A line that opens nothing is not left over when a block follows. -/
  | line {line : List Char} {below left : List (List Char)} {blocks : List Block} :
    (∀ tag, ¬Opens line tag) → Scanned below blocks → blocks ≠ [] → LeftOver below left →
      LeftOver (line :: below) left

/-- Lines with blocks have a line that closes one. -/
theorem Scanned.exists_closes {below : List (List Char)} {blocks : List Block}
    (scanned : Scanned below blocks) (some : blocks ≠ []) : ∃ line ∈ below, Closes line := by
  by_contra unclosed
  have none : ∀ line ∈ below, ¬Closes line := fun line member closes =>
    unclosed ⟨line, member, closes⟩
  exact some (scanned.unique (scanned_of_not_closes none))

/-- Some lines are left over, perhaps none. -/
theorem exists_leftOver {below : List (List Char)} {blocks : List Block}
    (scanned : Scanned below blocks) : ∃ left, LeftOver below left := by
  induction scanned with
  | done => exact ⟨[], .all .done⟩
  | block opens unclosed closes _ step =>
    obtain ⟨left, remains⟩ := step
    exact ⟨left, .block opens unclosed closes remains⟩
  | @line line below blocks passed scanned step =>
    obtain ⟨left, remains⟩ := step
    by_cases none : blocks = []
    · rw [none] at scanned
      exact ⟨line :: below, .all (.line passed scanned)⟩
    · obtain ⟨later, member, closes⟩ := scanned.exists_closes none
      have plain : ∀ tag, ¬Opens line tag := fun tag opens =>
        passed ⟨tag, opens⟩ later member closes
      exact ⟨left, .line plain scanned none remains⟩

/-- The lines that are left over behind a block are those left over below it. -/
theorem LeftOver.of_block {opening tag closing : List Char} {body below left : List (List Char)}
    (opens : Opens opening tag) (unclosed : ∀ line ∈ body, ¬Closes line) (closes : Closes closing)
    (remains : LeftOver (opening :: (body ++ closing :: below)) left) : LeftOver below left := by
  generalize whole : opening :: (body ++ closing :: below) = found at remains
  cases remains with
  | all scanned =>
    rw [← whole] at scanned
    obtain ⟨more, -, blocks⟩ := scanned.of_block opens unclosed closes
    simp at blocks
  | block _ bodyAgain closingAgain rest =>
    obtain ⟨-, same⟩ := List.cons.inj whole
    obtain ⟨-, -, rfl⟩ := eq_of_first Closes unclosed closes bodyAgain closingAgain same
    exact rest
  | line plain =>
    obtain ⟨rfl, -⟩ := List.cons.inj whole
    exact absurd opens (plain tag)

/-- A line that opens nothing and that a block follows does not matter to what is left over. -/
theorem LeftOver.of_line {line : List Char} {below left : List (List Char)} {blocks : List Block}
    (plain : ∀ tag, ¬Opens line tag) (scanned : Scanned below blocks) (some : blocks ≠ [])
    (remains : LeftOver (line :: below) left) : LeftOver below left := by
  cases remains with
  | all none =>
    have passed : (∃ tag, Opens line tag) → ∀ later ∈ below, ¬Closes later :=
      fun ⟨tag, opens⟩ => absurd opens (plain tag)
    exact absurd (scanned.unique (none.of_line passed)) some
  | block opens => exact absurd opens (plain _)
  | line _ _ _ rest => exact rest

/-- The lines determine what is left over. -/
theorem LeftOver.unique {below left other : List (List Char)} (remains : LeftOver below left)
    (again : LeftOver below other) : left = other := by
  induction remains generalizing other with
  | all none =>
    cases again with
    | all => rfl
    | block opens unclosed closes =>
      obtain ⟨more, -, blocks⟩ := none.of_block opens unclosed closes
      simp at blocks
    | line plain scanned some =>
      have passed := none.of_line fun ⟨tag, opens⟩ => absurd opens (plain tag)
      exact absurd (scanned.unique passed) some
  | block opens unclosed closes _ step => exact step (again.of_block opens unclosed closes)
  | line plain scanned some _ step => exact step (again.of_line plain scanned some)

/-- A last line that closes nothing is left over. -/
theorem LeftOver.getLast?_eq {below left : List (List Char)} {last : List Char}
    (remains : LeftOver below left) (final : below.getLast? = some last) (other : ¬Closes last) :
    left.getLast? = some last := by
  induction remains with
  | all => exact final
  | @block opening tag closing body below left _ _ closes _ step =>
    refine step ?_
    rw [← List.cons_append, List.getLast?_append_cons] at final
    cases below with
    | nil =>
      obtain rfl := Option.some.inj final
      exact absurd closes other
    | cons first more => rwa [List.getLast?_cons_cons] at final
  | @line line below left blocks _ scanned some _ step =>
    refine step ?_
    cases scanned with
    | done => exact absurd rfl some
    | block => rwa [List.getLast?_cons_cons] at final
    | line => rwa [List.getLast?_cons_cons] at final

/-- Up to what is left over lines are read alike whatever follows. -/
theorem LeftOver.exists_front {below left : List (List Char)} {blocks : List Block}
    (remains : LeftOver below left) (scanned : Scanned below blocks) :
    ∃ front, below = front ++ left ∧
      ∀ more others, Scanned more others → Scanned (front ++ more) (blocks ++ others) := by
  induction remains generalizing blocks with
  | all none =>
    obtain rfl := scanned.unique none
    exact ⟨[], rfl, fun more others read => read⟩
  | @block opening tag closing body below left opens unclosed closes _ step =>
    obtain ⟨later, rest, rfl⟩ := scanned.of_block opens unclosed closes
    obtain ⟨front, rfl, kept⟩ := step rest
    refine ⟨opening :: (body ++ closing :: front), by simp, fun more others read => ?_⟩
    simpa using Scanned.block opens unclosed closes (kept more others read)
  | @line line below left later plain _ _ _ step =>
    have passed : ∀ {more : List (List Char)},
        (∃ tag, Opens line tag) → ∀ later ∈ more, ¬Closes later :=
      fun ⟨tag, opens⟩ => absurd opens (plain tag)
    obtain ⟨front, rfl, kept⟩ := step (scanned.of_line passed)
    exact ⟨line :: front, rfl, fun more others read => .line passed (kept more others read)⟩

/-- Behind whole lines in which nothing that is left over opens a block the blocks of another text
follow those before. -/
theorem scan_append {before after : List Char} {left : List (List Char)} (ended : Ended before)
    (remains : LeftOver (lines before) left) (plain : ∀ line ∈ left, ∀ tag, ¬Opens line tag) :
    scan (before ++ after) = scan before ++ scan after := by
  obtain ⟨whole, cut, joined⟩ := exists_lines_append ended
  obtain ⟨front, split, kept⟩ := remains.exists_front (scanned_scan before)
  have other : ¬Closes [] := fun closes => absurd closes.fenced (by decide)
  have final := remains.getLast?_eq (by rw [cut, List.getLast?_concat]) other
  obtain ⟨rest, rfl⟩ := List.getLast?_eq_some_iff.1 final
  have same : whole = front ++ rest := by
    rw [cut, ← List.append_assoc] at split
    exact (List.append_inj' split rfl).1
  have later : Scanned (rest ++ lines after) (scan after) :=
    .prose (fun line member => plain line (List.mem_append_left _ member)) (scanned_scan after)
  have read := kept _ _ later
  rw [← List.append_assoc, ← same, ← joined] at read
  exact (scanned_scan (before ++ after)).unique read

end Block

namespace Link

/-- The square brackets of a text. -/
def brackets (text : List Char) : List Char :=
  text.filter fun character => character = '[' ∨ character = ']'

/-- No square bracket is open at the end of a text: the last one, if there is one, closes. -/
def Shut (text : List Char) : Prop :=
  (brackets text).getLast? = none ∨ (brackets text).getLast? = some ']'

instance : DecidablePred Shut := fun text =>
  inferInstanceAs
    (Decidable ((brackets text).getLast? = none ∨ (brackets text).getLast? = some ']'))

/-- Behind each bracket that opens a closing one stands. -/
theorem Shut.mem {before later : List Char} (shut : Shut before)
    (behind : '[' :: later <:+ before) : ']' ∈ later := by
  obtain ⟨start, rfl⟩ := behind
  have cut : brackets (start ++ '[' :: later) = brackets start ++ '[' :: brackets later := by
    simp [brackets]
  have closing : ('[' :: brackets later).getLast? = some ']' := by
    rw [Shut, cut, List.getLast?_append_cons] at shut
    exact shut.resolve_left (by simp)
  have member : ']' ∈ brackets later :=
    (List.mem_cons.1 (List.mem_of_getLast? closing)).resolve_left (by decide)
  exact List.mem_of_mem_filter member

/-- A target that begins in front of a line feed ends there too. -/
theorem Legal.exists_eq_append {link : Link} (legal : link.Legal) {text after rest : List Char}
    (feed : '\n' ∈ text) (split : text ++ after = '(' :: (link.spelling ++ ')' :: rest)) :
    ∃ left, text = '(' :: (link.spelling ++ ')' :: left) := by
  have target : text ++ after = ('(' :: (link.spelling ++ [')'])) ++ rest := by simpa using split
  rcases List.append_eq_append_iff.1 target with ⟨beyond, long, -⟩ | ⟨left, short, -⟩
  · have inside : '\n' ∈ '(' :: (link.spelling ++ [')']) := by
      rw [long]
      exact List.mem_append_left _ feed
    have spelled : '\n' ∈ link.spelling := by simpa using inside
    exact absurd (legal.mem_spelling spelled) (by decide +kernel)
  · exact ⟨left, by simpa using short⟩

/-- A link at the start of a text of whole lines ends in it when its label does. -/
theorem Begins.of_append {text after rest : List Char} {link : Link}
    (begins : Begins (text ++ after) link rest) (final : text.getLast? = some '\n')
    (closed : ∀ later, text = '[' :: later → ']' ∈ later) : ∃ left, Begins text link left := by
  obtain ⟨label, proper, legal, whole⟩ := begins
  cases text with
  | nil => simp at final
  | cons first later =>
    rw [List.cons_append] at whole
    obtain ⟨rfl, behind⟩ := List.cons.inj whole
    obtain ⟨inner, target, rfl, clean⟩ := List.eq_append_cons_of_mem (closed later rfl)
    have split : inner ++ ']' :: (target ++ after) =
        label ++ ']' :: '(' :: (link.spelling ++ ')' :: rest) := by simpa using behind
    obtain ⟨rfl, -, spelled⟩ := eq_of_first (· = ']') (fun _ member same => clean (same ▸ member))
      rfl (fun character member => (proper.2 character member).2) rfl split
    have feed : '\n' ∈ target := by
      rw [← List.cons_append, List.getLast?_append_cons] at final
      simpa using List.mem_of_getLast? final
    obtain ⟨left, rfl⟩ := legal.exists_eq_append feed spelled
    exact ⟨left, inner, proper, legal, rfl⟩

/-- Behind whole lines in which no bracket is open the links of another text follow those before. -/
theorem scan_append_ended {before after : List Char} (ended : Ended before) (shut : Shut before) :
    scan (before ++ after) = scan before ++ scan after := by
  refine scan_append fun text filled behind => ?_
  have final : text.getLast? = some '\n' := by
    obtain ⟨start, rfl⟩ := behind
    rcases ended with empty | final
    · exact absurd (List.append_eq_nil_iff.1 empty).2 filled
    · rwa [List.getLast?_append_of_ne_nil _ filled] at final
  ext link
  rw [first?_eq_some_iff, first?_eq_some_iff]
  constructor
  · rintro ⟨rest, begins⟩
    refine begins.of_append final ?_
    rintro later rfl
    exact shut.mem behind
  · rintro ⟨rest, begins⟩
    exact ⟨_, begins.append after⟩

end Link

namespace Sample

/-- Samples of two lists of blocks are taken one after the other. -/
theorem ofBlocks_append (settings : Settings) (blocks others : List Block) :
    (ofBlocks settings (blocks ++ others)).directives =
        (ofBlocks settings blocks).directives ++ (ofBlocks settings others).directives ∧
      (ofBlocks settings (blocks ++ others)).statements =
        (ofBlocks settings blocks).statements ++ (ofBlocks settings others).statements := by
  simp [ofBlocks]

end Sample

/-- Behind whole lines the headings of another text are added to those before. -/
theorem Index.mem_anchors_append {before : String} (ended : Ended before.toList) (after : String)
    (document : Path) (anchor : String) :
    anchor ∈ (ofText document (before ++ after)).anchors ↔
      anchor ∈ (ofText document before).anchors ∨ anchor ∈ (ofText document after).anchors := by
  obtain ⟨whole, cut, joined⟩ := exists_lines_append ended
  have plain : ∀ title, headingTitle? [] ≠ some title := by simp [headingTitle?]
  simp only [mem_anchors_iff, String.toList_append, joined, cut, List.mem_append, or_and_right,
    exists_or, List.mem_singleton, exists_eq_left, plain, false_and, exists_false, or_false]

/-- Text that is written behind whole lines is read by itself. If nothing that is left over behind
the last block opens one, the blocks of the new text follow those before, and so do the sample
lines. The anchors are those of both texts, and if no square bracket is open, the references of the
new text follow those before. -/
theorem readings_append {before : String} (ended : Ended before.toList) (after : String) :
    (∃ left, (∀ other, Block.LeftOver (lines before.toList) other ↔ other = left) ∧
      ((∀ line ∈ left, ∀ tag, ¬Block.Opens line tag) →
        Block.ofText (before ++ after) = Block.ofText before ++ Block.ofText after ∧
        ∀ settings,
          (Sample.ofText settings (before ++ after)).directives =
              (Sample.ofText settings before).directives ++
                (Sample.ofText settings after).directives ∧
            (Sample.ofText settings (before ++ after)).statements =
              (Sample.ofText settings before).statements ++
                (Sample.ofText settings after).statements)) ∧
      ∀ document,
        (∀ anchor, anchor ∈ (Index.ofText document (before ++ after)).anchors ↔
          anchor ∈ (Index.ofText document before).anchors ∨
            anchor ∈ (Index.ofText document after).anchors) ∧
        (Link.Shut before.toList →
          (Index.ofText document (before ++ after)).references =
            (Index.ofText document before).references ++
              (Index.ofText document after).references) := by
  refine ⟨?_, fun document => ⟨Index.mem_anchors_append ended after document, fun shut => ?_⟩⟩
  · obtain ⟨left, remains⟩ := Block.exists_leftOver (Block.scanned_scan before.toList)
    refine ⟨left, fun other => ⟨fun again => again.unique remains, fun same => same ▸ remains⟩, ?_⟩
    intro plain
    have blocks : Block.ofText (before ++ after) = Block.ofText before ++ Block.ofText after := by
      rw [Block.ofText, String.toList_append]
      exact Block.scan_append ended remains plain
    refine ⟨blocks, fun settings => ?_⟩
    rw [Sample.ofText, blocks]
    exact Sample.ofBlocks_append settings (Block.ofText before) (Block.ofText after)
  · simp only [Index.ofText, String.toList_append, Link.scan_append_ended ended shut,
      List.filterMap_append]

/-- A section follows a block in which a bracket opens and a link that runs over two lines. It
starts with a bare fence, which closes nothing there, and a bracket that closes nothing either. -/
theorem readings_append_bareFence :
    Block.ofText ("```a\n[\n```\n[y\nz](b.md)\n" ++ "```\n](c.md)\n```b\n```\n") =
        Block.ofText "```a\n[\n```\n[y\nz](b.md)\n" ++
          Block.ofText "```\n](c.md)\n```b\n```\n" ∧
      (Index.ofText ⟨"a.md"⟩
          ("```a\n[\n```\n[y\nz](b.md)\n" ++ "```\n](c.md)\n```b\n```\n")).references =
        (Index.ofText ⟨"a.md"⟩ "```a\n[\n```\n[y\nz](b.md)\n").references ++
          (Index.ofText ⟨"a.md"⟩ "```\n](c.md)\n```b\n```\n").references := by
  have ended : Ended "```a\n[\n```\n[y\nz](b.md)\n".toList := .inr (by decide +kernel)
  obtain ⟨⟨left, only, blocks⟩, index⟩ := readings_append ended "```\n](c.md)\n```b\n```\n"
  have unfenced : ∀ line ∈ ["[y".toList, "z](b.md)".toList, []], ¬Block.fence <+: line := by
    decide +kernel
  have remains : Block.LeftOver (lines "```a\n[\n```\n[y\nz](b.md)\n".toList)
      ["[y".toList, "z](b.md)".toList, []] := by
    have opens : Block.Opens (Block.fence ++ ['a']) ['a'] :=
      ⟨by simp, List.forall_mem_singleton.2 (by decide), [], ⟨[], [], by simp, .inl rfl, rfl⟩, rfl⟩
    have unclosed : ∀ line ∈ ["[".toList], ¬Block.Closes line := by
      simpa using fun closes => absurd (Block.Closes.fenced closes) (by decide +kernel)
    refine .block opens unclosed Block.closes_fence (.all ?_)
    exact Block.scanned_of_not_closes fun line member closes => unfenced line member closes.fenced
  obtain rfl := (only _).1 remains
  refine ⟨(blocks ?_).1, (index ⟨"a.md"⟩).2 (by decide +kernel)⟩
  exact fun line member tag opens => unfenced line member opens.fenced

end Handbook
