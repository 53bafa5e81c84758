import Handbook.Proofs.Sample.Fences
import Handbook.Proofs.Settings.Accepted
import Handbook.Sample.Program

/-!
# The layout of a program

A program has one line for each header of the settings, each sample line and each line around them.
Accepted headers are one line each, and so are the lines that a document gives. Nothing is asked of
the indent: the layout holds exactly when the indent has no line feed.
-/
namespace Handbook

open Text

/-- The blocks of clean lines have clean lines. -/
theorem Block.Scanned.clean {below : List (List Char)} {blocks : List Block}
    (scanned : Block.Scanned below blocks) (clean : ∀ line ∈ below, '\n' ∉ line) :
    ∀ block ∈ blocks, ∀ line ∈ block.body, '\n' ∉ line.toList := by
  induction scanned with
  | done => simp
  | @block opening tag closing body after more _ _ _ _ step =>
    have inBody : ∀ line ∈ body, '\n' ∉ line := fun line member =>
      clean line (List.mem_cons_of_mem _ (List.mem_append_left _ member))
    have later : ∀ line ∈ after, '\n' ∉ line := fun line member =>
      clean line (List.mem_cons_of_mem _ (List.mem_append_right _ (List.mem_cons_of_mem _ member)))
    refine List.forall_mem_cons.2 ⟨?_, step later⟩
    intro line member
    obtain ⟨whole, inside, rfl⟩ := List.mem_map.1 member
    rw [String.toList_ofList]
    exact fun feed => inBody whole inside ((List.rdropWhile_prefix _ whole).subset feed)
  | line _ _ step => exact step fun line member => clean line (List.mem_cons_of_mem _ member)

namespace Sample

/-- The lines of a program around a sample, and the empty text after the last of them. -/
def layout (settings : Settings) (sample : Sample) : List String :=
  ["#include <cstdio>"] ++ settings.headers.map (fun header => "#include \"" ++ header ++ "\"") ++
    sample.directives ++ ["int main() \x7b"] ++ sample.statements ++
    [settings.indent ++ "return 0;", "\x7d", ""]

/-- A document gives lines that have no line feed. -/
theorem clean_of_mem_ofText (settings : Settings) (content : String) :
    (∀ line ∈ (ofText settings content).directives, '\n' ∉ line.toList) ∧
      ∀ line ∈ (ofText settings content).statements,
        '\n' ∉ settings.indent.toList → '\n' ∉ line.toList := by
  have blocks : ∀ block ∈ Block.ofText content, ∀ line ∈ block.body, '\n' ∉ line.toList :=
    (Block.scanned_scan content.toList).clean fun line => separator_notMem_of_mem_splitOn
  have selected : ∀ line ∈ ((Block.ofText content).filter fun block =>
      settings.selects block.tag).flatMap (·.body), '\n' ∉ line.toList := by
    intro line member
    obtain ⟨block, kept, inside⟩ := List.mem_flatMap.1 member
    exact blocks block (List.mem_filter.1 kept).1 line inside
  constructor
  · intro line member
    exact selected line (List.mem_filter.1 member).1
  · intro line member indent
    obtain ⟨text, kept, rfl⟩ := List.mem_map.1 member
    have clean := selected text (List.mem_filter.1 kept).1
    rw [String.toList_append, List.mem_append, not_or]
    exact ⟨indent, clean⟩

/-- Under accepted settings, all lines of a program are one line exactly when the indent has no line
feed. -/
theorem clean_programLines_iff {settings : Settings} (accepted : settings.flaw? = none)
    (content : String) :
    (∀ line ∈ (ofText settings content).programLines settings, '\n' ∉ line.toList) ↔
      '\n' ∉ settings.indent.toList := by
  constructor
  · intro clean feed
    have last : settings.indent ++ "return 0;" ∈ (ofText settings content).programLines settings :=
      List.mem_append_right _ List.mem_cons_self
    apply clean _ last
    rw [String.toList_append]
    exact List.mem_append_left _ feed
  · intro indent line member
    obtain ⟨-, -, -, headers⟩ := settings.flaw?_eq_none_iff.1 accepted
    obtain ⟨directives, statements⟩ := clean_of_mem_ofText settings content
    simp only [programLines, List.mem_append, List.mem_cons, List.not_mem_nil, or_false] at member
    rcases member with ((((rfl | header) | directive) | rfl) | statement) | rfl | rfl
    · decide
    · obtain ⟨name, configured, rfl⟩ := List.mem_map.1 header
      have sound := (Settings.isHeader_iff name).1 (headers name configured)
      simpa [includeLine] using sound.2.2.1
    · exact directives line directive
    · decide
    · exact statements line statement indent
    · simpa using indent
    · decide

/-- Under accepted settings, the program of a document has the lines of the layout and no others
exactly when the indent has no line feed, and exactly then it has as many lines as the layout. -/
theorem lines_program_iff {settings : Settings} (accepted : settings.flaw? = none)
    (content : String) :
    (((ofText settings content).program settings).toList.splitOn '\n' =
        ((ofText settings content).layout settings).map String.toList ↔
      '\n' ∉ settings.indent.toList) ∧
    (((ofText settings content).program settings).toList.count '\n' =
        4 + settings.headers.length + (ofText settings content).directives.length +
          (ofText settings content).statements.length ↔
      '\n' ∉ settings.indent.toList) := by
  have clean := clean_programLines_iff accepted content
  have whole : (ofText settings content).layout settings =
      (ofText settings content).programLines settings ++ [""] := by
    simp only [layout, programLines, List.append_assoc]
    rfl
  have length : ((ofText settings content).programLines settings).length =
      4 + settings.headers.length + (ofText settings content).directives.length +
        (ofText settings content).statements.length := by
    simp only [programLines, List.length_append, List.length_map, List.length_cons, List.length_nil]
    omega
  rw [whole, List.map_append, ← clean, ← length]
  exact ⟨lines_join_iff _, count_join_eq_length_iff _⟩

/-- The settings of a project that says nothing but how its samples are indented. -/
def indentedBy (indent : String) : Settings := { indent }

/-- The program of one statement has the layout under an indent of one space. -/
theorem lines_program_of_space :
    (indentedBy " ").flaw? = none ∧
      ((ofText (indentedBy " ") "```c++\nint a;\n```\n").program
          (indentedBy " ")).toList.splitOn '\n' =
        ["#include <cstdio>", "int main() \x7b", " int a;", " return 0;", "\x7d", ""].map
          String.toList := by
  have accepted : (indentedBy " ").flaw? = none := by decide
  have read : ofText (indentedBy " ") "```c++\nint a;\n```\n" = ⟨[], [" int a;"]⟩ := by
    decide +kernel
  have lines := (lines_program_iff accepted "```c++\nint a;\n```\n").1.2 (by decide)
  rw [read] at lines ⊢
  exact ⟨accepted, lines⟩

/-- An indent that is a line feed is accepted, and the program of one statement then has other lines
than the layout: the indents make two empty lines of their own. -/
theorem lines_program_of_feed :
    (indentedBy "\n").flaw? = none ∧
      ((ofText (indentedBy "\n") "```c++\nint a;\n```\n").program
          (indentedBy "\n")).toList.splitOn '\n' =
        ["#include <cstdio>", "int main() \x7b", "", "int a;", "", "return 0;", "\x7d", ""].map
          String.toList ∧
      ((ofText (indentedBy "\n") "```c++\nint a;\n```\n").program
          (indentedBy "\n")).toList.splitOn '\n' ≠
        ((ofText (indentedBy "\n") "```c++\nint a;\n```\n").layout (indentedBy "\n")).map
          String.toList := by
  decide +kernel

end Sample

end Handbook
