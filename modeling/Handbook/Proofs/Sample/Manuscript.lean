import Handbook.Proofs.Sample.Fences
import Handbook.Proofs.Settings.Accepted
import Handbook.Sample.Extract

/-!
# Samples that are written into a document

A manuscript alternates prose and blocks; written out, every line ends with a line feed. `Segment`
admits as prose whatever opens no block and as a block whatever its own fences can hold. Reading a
written manuscript gives its blocks back, and the sample lines are the lines of the selected blocks,
each sorted to one of the two places.
-/
namespace Handbook

open Text

namespace Block

/-- A block that its fences can hold: a tag that a fence can carry, and lines that stay what they
are and do not close the block. -/
structure Embeddable (block : Block) : Prop where
  /-- There is a tag. -/
  tag_filled : block.tag ≠ ""
  /-- The tag has neither white space nor a backtick. -/
  tag_plain : ∀ character ∈ block.tag.toList, isBlank character = false ∧ character ≠ backtick
  /-- A line of the body is one line. -/
  body_lines : ∀ line ∈ block.body, '\n' ∉ line.toList
  /-- No line of the body ends with a carriage return. -/
  body_ends : ∀ line ∈ block.body, line.toList.getLast? ≠ some '\r'
  /-- No line of the body is a fence that only spaces and tabs follow. -/
  body_open : ∀ line ∈ block.body, ∀ gaps : List Char,
    (∀ character ∈ gaps, character = ' ' ∨ character = '\t') → line.toList ≠ fence ++ gaps

end Block

/-- A part of a manuscript. -/
inductive Segment where
  /-- Lines of which none opens a block. -/
  | prose (lines : List String)
    (plain : ∀ line ∈ lines, '\n' ∉ line.toList ∧ ∀ tag, ¬Block.Opens line.toList tag)
  /-- A block between its fences. -/
  | fenced (block : Block) (embeddable : block.Embeddable)

namespace Segment

/-- The lines of a segment. -/
def lines : Segment → List String
  | prose lines _ => lines
  | fenced block _ =>
    String.ofList (Block.fence ++ block.tag.toList) :: (block.body ++ [String.ofList Block.fence])

/-- The block of a segment, if it is one. -/
def block? : Segment → Option Block
  | prose _ _ => none
  | fenced block _ => some block

/-- A manuscript as it is written: its lines in order, each with a line feed. -/
def written (segments : List Segment) : String :=
  String.join ((segments.flatMap lines).map (· ++ "\n"))

end Segment

namespace Block

/-- A bare fence closes a block. -/
theorem closes_fence : Closes fence :=
  ⟨[], ⟨[], [], by simp, .inl rfl, rfl⟩, (List.append_nil fence).symm⟩

/-- The fence with the tag of a block opens a block with this tag. -/
theorem Embeddable.opens {block : Block} (embeddable : block.Embeddable) :
    Opens (fence ++ block.tag.toList) block.tag.toList :=
  ⟨by simpa using embeddable.tag_filled, embeddable.tag_plain, [],
    ⟨[], [], by simp, .inl rfl, rfl⟩, (List.append_nil _).symm⟩

/-- No line of a block closes it. -/
theorem Embeddable.not_closes {block : Block} (embeddable : block.Embeddable) {line : String}
    (member : line ∈ block.body) : ¬Closes line.toList := by
  rintro ⟨ending, ⟨gaps, carriage, all, rfl | rfl, rfl⟩, spelled⟩
  · rw [List.append_nil] at spelled
    exact embeddable.body_open line member gaps all spelled
  · refine embeddable.body_ends line member ?_
    rw [spelled, ← List.append_assoc, List.getLast?_concat]

/-- A line of a block keeps all its characters when it is read. -/
theorem Embeddable.kept {block : Block} (embeddable : block.Embeddable) {line : String}
    (member : line ∈ block.body) : line.toList.rdropWhile (· == '\r') = line.toList := by
  rw [List.rdropWhile_eq_self_iff]
  intro filled last
  refine embeddable.body_ends line member ?_
  rw [List.getLast?_eq_some_getLast filled, eq_of_beq last]

/-- Lines that open nothing are passed over. -/
theorem Scanned.prose {lines below : List (List Char)} {blocks : List Block}
    (plain : ∀ line ∈ lines, ∀ tag, ¬Opens line tag) (scanned : Scanned below blocks) :
    Scanned (lines ++ below) blocks := by
  induction lines with
  | nil => exact scanned
  | cons line rest step =>
    obtain ⟨head, tail⟩ := List.forall_mem_cons.1 plain
    exact .line (fun ⟨tag, opens⟩ => absurd opens (head tag)) (step tail)

/-- The lines of a block between an opening line with its tag and a closing line are read as the
block. -/
theorem Scanned.enclosed {block : Block} (embeddable : block.Embeddable)
    {opening closing : List Char} (opens : Opens opening block.tag.toList)
    (closes : Closes closing) {below : List (List Char)} {blocks : List Block}
    (scanned : Scanned below blocks) :
    Scanned (opening :: (block.body.map String.toList ++ closing :: below)) (block :: blocks) := by
  have unclosed : ∀ line ∈ block.body.map String.toList, ¬Closes line := by
    simpa using fun line member => embeddable.not_closes member
  have read := Scanned.block opens unclosed closes scanned
  have body : (block.body.map String.toList).map
      (fun line => String.ofList (line.rdropWhile (· == '\r'))) = block.body := by
    rw [List.map_map]
    refine (List.map_congr_left fun line member => ?_).trans (List.map_id block.body)
    rw [Function.comp_apply, embeddable.kept member, String.ofList_toList, id]
  rw [String.ofList_toList, body] at read
  exact read

/-- The lines of a block between its fences are read as the block. -/
theorem Scanned.embedded {block : Block} (embeddable : block.Embeddable)
    {below : List (List Char)} {blocks : List Block} (scanned : Scanned below blocks) :
    Scanned ((fence ++ block.tag.toList) :: (block.body.map String.toList ++ fence :: below))
      (block :: blocks) :=
  scanned.enclosed embeddable embeddable.opens closes_fence

end Block

/-- A sample has certain lines and no others: those that start with the directive as they are, and
the others with their indent, both in their order. -/
structure Sample.HasLines (settings : Settings) (lines : List String) (sample : Sample) : Prop where
  /-- The lines outside the entry point. -/
  directives : sample.directives =
    lines.filter (fun line => settings.directive.toList <+: line.toList)
  /-- The lines inside the entry point. -/
  statements : sample.statements =
    (lines.filter (fun line => ¬settings.directive.toList <+: line.toList)).map
      (settings.indent ++ ·)
  /-- No line is lost, and none is there twice. -/
  complete : sample.directives.length + sample.statements.length = lines.length

/-- The sample of a document has the lines of its selected blocks. -/
theorem Sample.hasLines_ofBlocks (settings : Settings) (blocks : List Block) :
    (Sample.ofBlocks settings blocks).HasLines settings
      ((blocks.filter fun block => settings.Selects block.tag).flatMap (·.body)) := by
  have directive : settings.isDirective =
      fun line => decide (settings.directive.toList <+: line.toList) := by
    funext line
    rw [Settings.isDirective, Bool.eq_iff_iff, List.isPrefixOf_iff_prefix, decide_eq_true_iff]
  have selected : settings.selects = fun tag => decide (settings.Selects tag) := by
    funext tag
    rw [Bool.eq_iff_iff, settings.selects_iff, decide_eq_true_iff]
  have parted := List.length_eq_length_filter_add
    (l := (blocks.filter fun block => settings.Selects block.tag).flatMap (·.body))
    fun line => decide (settings.directive.toList <+: line.toList)
  constructor
  · rw [Sample.ofBlocks, directive, selected]
  · simp only [Sample.ofBlocks, directive, selected, decide_not]
  · simp only [Sample.ofBlocks, directive, selected, List.length_map]
    exact parted.symm

namespace Segment

/-- The lines of a manuscript have its blocks. -/
theorem scanned_lines (segments : List Segment) :
    Block.Scanned ((segments.flatMap lines).map String.toList ++ [[]])
      (segments.filterMap block?) := by
  induction segments with
  | nil =>
    refine .line ?_ .done
    simp
  | cons segment rest step =>
    cases segment with
    | prose texts plain =>
      have opensNothing : ∀ line ∈ texts.map String.toList, ∀ tag, ¬Block.Opens line tag := by
        simpa using fun line member => (plain line member).2
      rw [List.filterMap_cons_none (show (prose texts plain).block? = none from rfl)]
      simpa [lines] using Block.Scanned.prose opensNothing step
    | fenced block embeddable =>
      simpa [lines, block?] using step.embedded embeddable

/-- No line of a segment has a line feed. -/
theorem clean_of_mem_lines (segment : Segment) : ∀ line ∈ segment.lines, '\n' ∉ line.toList := by
  cases segment with
  | prose texts plain => exact fun line member => (plain line member).1
  | fenced block embeddable =>
    have opening := embeddable.opens.clean
    have closing := Block.closes_fence.clean
    refine List.forall_mem_cons.2 ⟨by simpa using opening, List.forall_mem_append.2 ⟨?_, ?_⟩⟩
    · exact embeddable.body_lines
    · simpa using closing

/-- Reading a written manuscript gives its blocks back. -/
theorem ofText_written (segments : List Segment) :
    Block.ofText (written segments) = segments.filterMap block? := by
  have clean : ∀ line ∈ segments.flatMap lines, '\n' ∉ line.toList := by
    intro line member
    obtain ⟨segment, -, inside⟩ := List.mem_flatMap.1 member
    exact segment.clean_of_mem_lines line inside
  have found := Block.scanned_scan (written segments).toList
  rw [written, lines_join clean] at found
  exact found.unique (scanned_lines segments)

/-- The lines of the blocks that settings select, in the order of the manuscript. -/
def selectedLines (settings : Settings) (segments : List Segment) : List String :=
  ((segments.filterMap block?).filter fun block => settings.Selects block.tag).flatMap (·.body)

/-- The sample of a written manuscript has the lines of the selected blocks: those that start with
the directive as they are, the others indented, and no line more or less. -/
theorem sample_written (settings : Settings) (segments : List Segment) :
    Block.ofText (written segments) = segments.filterMap block? ∧
      (Sample.ofText settings (written segments)).directives =
        (selectedLines settings segments).filter
          (fun line => settings.directive.toList <+: line.toList) ∧
      (Sample.ofText settings (written segments)).statements =
        ((selectedLines settings segments).filter
          (fun line => ¬settings.directive.toList <+: line.toList)).map (settings.indent ++ ·) ∧
      (Sample.ofText settings (written segments)).directives.length +
        (Sample.ofText settings (written segments)).statements.length =
          (selectedLines settings segments).length := by
  have read := ofText_written segments
  have lines : (Sample.ofText settings (written segments)).HasLines settings
      (selectedLines settings segments) := by
    rw [Sample.ofText, read]
    exact Sample.hasLines_ofBlocks settings (segments.filterMap block?)
  exact ⟨read, lines.directives, lines.statements, lines.complete⟩

end Segment

end Handbook
