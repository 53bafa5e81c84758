import Mathlib.Data.List.DropRight
import Handbook.Proofs.Text.Splitting

/-!
# Carriage returns at the ends of lines

What is cut off the end of a text is a run of one kind of characters, and what is left does not end
with that kind. Of a line one carriage return is cut off at most. In a text with line ends of both
kinds every carriage return stands before a line feed, and so at the end of its line; replacing the
pairs by line feeds takes the carriage returns away and nothing else.
-/
namespace Handbook.Text

/-- What is left behind a run of a kind does not start with that kind. -/
theorem stops_dropWhile (kind : Char → Bool) (text : List Char) :
    Stops kind (text.dropWhile kind) := by
  intro first found
  have stops := List.head?_dropWhile_not kind text
  rw [found] at stops
  simpa using stops

/-- What is left without the characters of a kind at the end does not end with that kind, and what
was cut off is of that kind. -/
theorem exists_trimEnd (kind : Char → Bool) (text : List Char) :
    Stops kind (trimEnd kind text).reverse ∧
      ∃ run, (∀ character ∈ run, kind character = true) ∧ text = trimEnd kind text ++ run := by
  constructor
  · rw [trimEnd, List.reverse_reverse]
    exact stops_dropWhile kind text.reverse
  · exact ⟨text.rtakeWhile kind, fun _ => List.mem_rtakeWhile_imp,
      List.rdropWhile_append_rtakeWhile.symm⟩

/-- A run of a kind is cut off the end of a text that does not end with that kind. -/
theorem trimEnd_append {kind : Char → Bool} {kept run : List Char}
    (bare : Stops kind kept.reverse) (all : ∀ character ∈ run, kind character = true) :
    trimEnd kind (kept ++ run) = kept := by
  have turned : ∀ character ∈ run.reverse, kind character = true := fun character member =>
    all character (List.mem_reverse.1 member)
  rw [trimEnd, List.reverse_append, (takeWhile_append_of_stops turned bare).2,
    List.reverse_reverse]

/-- A line is what is left of it without a carriage return, and at most one such return. -/
theorem exists_carriage (line : List Char) :
    ∃ carriage, (carriage = [] ∨ carriage = ['\r']) ∧ line = withoutReturn line ++ carriage := by
  unfold withoutReturn
  split
  · rename_i ends
    exact ⟨['\r'], .inr rfl, (List.dropLast_append_getLast? '\r' ends).symm⟩
  · exact ⟨[], .inl rfl, (List.append_nil line).symm⟩

/-- A text without carriage returns is what is left of itself, and of itself with one such return
behind it. -/
theorem withoutReturn_append {text carriage : List Char} (bare : '\r' ∉ text)
    (final : carriage = [] ∨ carriage = ['\r']) : withoutReturn (text ++ carriage) = text := by
  rcases final with rfl | rfl
  · rw [List.append_nil, withoutReturn, if_neg fun ends => bare (List.mem_of_getLast? ends)]
  · simp [withoutReturn]

/-- Every carriage return of a text stands before a line feed. -/
def Paired (text : List Char) : Prop :=
  ∀ rest, '\r' :: rest <:+ text → rest.head? = some '\n'

/-- A text with a line feed in place of each carriage return and line feed. -/
def withFeeds : List Char → List Char
  | [] => []
  | '\r' :: '\n' :: rest => '\n' :: withFeeds rest
  | character :: rest => character :: withFeeds rest

/-- A text without its carriage returns. -/
def bare (text : List Char) : List Char := text.filter (· ≠ '\r')

/-- A line has at most one carriage return, and this at its end. -/
def ReturnsLast (line : List Char) : Prop :=
  ∃ carriage, (carriage = [] ∨ carriage = ['\r']) ∧ line = bare line ++ carriage

/-- The carriage returns of a text stand before line feeds when that of its first character does and
those behind it do. -/
theorem paired_cons_iff (character : Char) (rest : List Char) : Paired (character :: rest) ↔
    (character = '\r' → rest.head? = some '\n') ∧ Paired rest := by
  constructor
  · intro paired
    refine ⟨?_, fun after inside => paired after (inside.trans (List.suffix_cons character rest))⟩
    rintro rfl
    exact paired rest List.suffix_rfl
  · rintro ⟨first, later⟩ after inside
    rcases List.suffix_cons_iff.1 inside with whole | inside
    · obtain ⟨rfl, rfl⟩ := List.cons.inj whole
      exact first rfl
    · exact later after inside

/-- Whether every carriage return stands before a line feed can be computed. -/
instance decidablePaired : (text : List Char) → Decidable (Paired text)
  | [] => .isTrue fun rest inside => by simp at inside
  | character :: rest =>
    have := decidablePaired rest
    decidable_of_iff _ (paired_cons_iff character rest).symm

/-- A text behind a part of a text with paired carriage returns has such returns. -/
theorem Paired.of_suffix {text tail : List Char} (paired : Paired text) (inside : tail <:+ text) :
    Paired tail :=
  fun rest further => paired rest (further.trans inside)

/-- The parts of a text lose their carriage returns one by one. -/
@[simp] theorem bare_append (text after : List Char) :
    bare (text ++ after) = bare text ++ bare after :=
  List.filter_append text after

/-- A carriage return is left out. -/
@[simp] theorem bare_return (rest : List Char) : bare ('\r' :: rest) = bare rest := by
  simp [bare]

/-- Any other character is kept. -/
theorem bare_cons {character : Char} (other : character ≠ '\r') (rest : List Char) :
    bare (character :: rest) = character :: bare rest := by
  simp [bare, other]

/-- A text without carriage returns is kept as it is. -/
theorem bare_eq_self {text : List Char} (clean : '\r' ∉ text) : bare text = text := by
  apply List.filter_eq_self.2
  intro character member
  have other : character ≠ '\r' := fun same => clean (same ▸ member)
  simpa using other

/-- The characters that are kept are those that are no carriage returns. -/
theorem mem_bare_iff (character : Char) (text : List Char) :
    character ∈ bare text ↔ character ∈ text ∧ character ≠ '\r' := by
  simp [bare]

/-- No carriage return is kept. -/
theorem return_notMem_bare (text : List Char) : '\r' ∉ bare text := fun member =>
  ((mem_bare_iff _ _).1 member).2 rfl

/-- Replacing the pairs by line feeds takes the carriage returns away. -/
theorem withFeeds_eq_bare {text : List Char} (paired : Paired text) :
    withFeeds text = bare text := by
  fun_induction withFeeds text with
  | case1 => rfl
  | case2 rest step =>
    have later := ((paired_cons_iff _ _).1 ((paired_cons_iff _ _).1 paired).2).2
    rw [bare_return, bare_cons (by decide), step later]
  | case3 character rest single step =>
    obtain ⟨first, later⟩ := (paired_cons_iff _ _).1 paired
    have other : character ≠ '\r' := by
      intro same
      obtain ⟨behind, whole⟩ := List.head?_eq_some_iff.1 (first same)
      exact single behind same whole
    rw [bare_cons other, step later]

/-- With paired carriage returns, what a text starts with without them it starts with as it is, up
to the end of the line. -/
theorem Paired.exists_append {text start after : List Char} (paired : Paired text)
    (oneLine : '\n' ∉ start) (whole : bare text = start ++ after) :
    ∃ rest, text = start ++ rest ∧ bare rest = after := by
  induction start generalizing text with
  | nil => exact ⟨text, rfl, whole⟩
  | cons first more step =>
    cases text with
    | nil => simp [bare] at whole
    | cons character rest =>
      obtain ⟨pair, later⟩ := (paired_cons_iff _ _).1 paired
      simp only [List.mem_cons, not_or] at oneLine
      by_cases carriage : character = '\r'
      · obtain ⟨behind, feed⟩ := List.head?_eq_some_iff.1 (pair carriage)
        rw [carriage, bare_return, feed, bare_cons (by decide)] at whole
        exact absurd (List.cons.inj whole).1 oneLine.1
      · rw [bare_cons carriage] at whole
        obtain ⟨rfl, behind⟩ := List.cons.inj whole
        obtain ⟨rest, rfl, kept⟩ := step later oneLine.2 behind
        exact ⟨rest, rfl, kept⟩

/-- A line feed at the start ends an empty first line. -/
theorem lines_feed (rest : List Char) : lines ('\n' :: rest) = [] :: lines rest :=
  lines_append List.not_mem_nil rest

/-- Any other character at the start stands in the first line. -/
theorem exists_lines_cons {character : Char} (other : character ≠ '\n') (rest : List Char) :
    ∃ first more, lines rest = first :: more ∧
      lines (character :: rest) = (character :: first) :: more := by
  obtain ⟨first, more, cut⟩ := List.exists_cons_of_ne_nil (List.splitOn_ne_nil '\n' rest)
  refine ⟨first, more, cut, ?_⟩
  have uncut : ¬(character == '\n') = true := by simpa using other
  rw [List.splitOn] at cut
  rw [lines, List.splitOn, List.splitOnP_cons_eq_if_modifyHead, if_neg uncut, cut]
  rfl

/-- The lines lose their carriage returns one by one. -/
theorem lines_bare (text : List Char) : lines (bare text) = (lines text).map bare := by
  induction text with
  | nil => rfl
  | cons character rest step =>
    by_cases feed : character = '\n'
    · rw [feed, bare_cons (by decide), lines_feed, lines_feed, step]
      rfl
    · obtain ⟨first, more, cut, longer⟩ := exists_lines_cons feed rest
      rw [cut] at step
      rw [longer, List.map_cons]
      by_cases carriage : character = '\r'
      · rw [carriage, bare_return, bare_return, step]
        rfl
      · obtain ⟨kept, others, bareCut, bareLonger⟩ := exists_lines_cons feed (bare rest)
        have same := List.cons.inj (bareCut.symm.trans step)
        rw [bare_cons carriage, bare_cons carriage, bareLonger, same.1, same.2]

/-- A line of a text with paired carriage returns has at most one of them, at its end. -/
theorem returnsLast_of_mem_lines {text line : List Char} (paired : Paired text)
    (member : line ∈ lines text) : ReturnsLast line := by
  induction text generalizing line with
  | nil =>
    obtain rfl : line = [] := by simpa [lines] using member
    exact ⟨[], .inl rfl, rfl⟩
  | cons character rest step =>
    obtain ⟨first, later⟩ := (paired_cons_iff _ _).1 paired
    by_cases feed : character = '\n'
    · rw [feed, lines_feed] at member
      rcases List.mem_cons.1 member with rfl | behind
      · exact ⟨[], .inl rfl, rfl⟩
      · exact step later behind
    · obtain ⟨start, more, cut, longer⟩ := exists_lines_cons feed rest
      rw [longer] at member
      rw [cut] at step
      rcases List.mem_cons.1 member with rfl | behind
      · by_cases carriage : character = '\r'
        · -- The line feed behind it ends the line.
          obtain ⟨after, whole⟩ := List.head?_eq_some_iff.1 (first carriage)
          rw [whole, lines_feed] at cut
          rw [carriage, ← (List.cons.inj cut).1]
          exact ⟨['\r'], .inr rfl, rfl⟩
        · obtain ⟨ending, final, spelled⟩ := step later List.mem_cons_self
          refine ⟨ending, final, ?_⟩
          rw [bare_cons carriage, List.cons_append, ← spelled]
      · exact step later (List.mem_cons_of_mem start behind)

end Handbook.Text
