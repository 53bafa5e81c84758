import Handbook.Text.Lines

/-!
# Cutting texts at a separator

Paths are cut into pieces and documents into lines by the same cut. No part of it contains the
separator, and the first part ends at the first separator. A run of characters of one kind ends
where the first other character stands, and the first entry of a kind cuts a list in one way.
-/
namespace Handbook.Text

/-- The characters of the parts of a text, cut at the characters of a kind, are its others. -/
theorem exists_mem_splitOnP_iff (kind : Char → Bool) (character : Char) (text : List Char) :
    (∃ part ∈ text.splitOnP kind, character ∈ part) ↔
      character ∈ text ∧ kind character = false := by
  induction text with
  | nil => simp
  | cons first rest step =>
    rw [List.splitOnP_cons_eq_if_modifyHead, List.mem_cons, or_and_right, ← step]
    by_cases cut : kind first = true
    · have other : ¬(character = first ∧ kind character = false) := by
        rintro ⟨rfl, uncut⟩
        simp [cut] at uncut
      simp [cut, other]
    · obtain ⟨part, parts, split⟩ := List.exists_cons_of_ne_nil (List.splitOnP_ne_nil kind rest)
      have same : character = first ∧ kind character = false ↔ character = first :=
        and_iff_left_of_imp fun same => by simpa [same] using cut
      simp [cut, split, same, or_assoc]

/-- No part between two separators contains the separator. -/
theorem separator_notMem_of_mem_splitOn {separator : Char} {text part : List Char}
    (member : part ∈ text.splitOn separator) : separator ∉ part := by
  intro inside
  have kept := (exists_mem_splitOnP_iff (· == separator) separator text).1 ⟨part, member, inside⟩
  simp at kept

/-- The characters of a text other than the separator are those of its parts. -/
theorem exists_mem_splitOn_iff {separator character : Char} (other : character ≠ separator)
    (text : List Char) : (∃ part ∈ text.splitOn separator, character ∈ part) ↔ character ∈ text :=
  (exists_mem_splitOnP_iff (· == separator) character text).trans
    (and_iff_left (beq_eq_false_iff_ne.2 other))

/-- The lines of a text that has a first line with a line feed. -/
theorem lines_append {line : List Char} (clean : '\n' ∉ line) (after : List Char) :
    lines (line ++ '\n' :: after) = line :: lines after :=
  List.splitOn_append_cons_self_of_not_mem clean after

/-- A text without line feeds is its only line. -/
theorem lines_of_clean {text : List Char} (clean : '\n' ∉ text) : lines text = [text] :=
  List.splitOn_eq_singleton clean

/-- Texts that each end with a line feed are the first lines of what they make together with a text
behind them. -/
theorem lines_join_append {texts : List String} (clean : ∀ text ∈ texts, '\n' ∉ text.toList)
    (after : List Char) :
    lines ((String.join (texts.map (· ++ "\n"))).toList ++ after) =
      texts.map String.toList ++ lines after := by
  induction texts with
  | nil => rfl
  | cons text rest step =>
    obtain ⟨head, tail⟩ := List.forall_mem_cons.1 clean
    have first : (String.join ((text :: rest).map (· ++ "\n"))).toList ++ after =
        text.toList ++ '\n' :: ((String.join (rest.map (· ++ "\n"))).toList ++ after) := by
      simp [String.toList_join]
    rw [first, lines_append head, step tail]
    rfl

/-- Texts that each end with a line feed are the lines of what they make together, before an empty
last line. -/
theorem lines_join {texts : List String} (clean : ∀ text ∈ texts, '\n' ∉ text.toList) :
    lines (String.join (texts.map (· ++ "\n"))).toList = texts.map String.toList ++ [[]] := by
  have whole := lines_join_append clean []
  rwa [List.append_nil] at whole

/-- Texts are the lines of what they make together only if each of them is one line. -/
theorem lines_join_iff (texts : List String) :
    lines (String.join (texts.map (· ++ "\n"))).toList = texts.map String.toList ++ [[]] ↔
      ∀ text ∈ texts, '\n' ∉ text.toList := by
  constructor
  · intro cut text member
    have part : text.toList ∈ lines (String.join (texts.map (· ++ "\n"))).toList := by
      rw [cut]
      exact List.mem_append_left _ (List.mem_map_of_mem member)
    exact separator_notMem_of_mem_splitOn part
  · exact lines_join

/-- A text that ends with a line feed makes one line feed, and those that stand inside the text. -/
theorem count_join_cons (text : String) (rest : List String) :
    (String.join ((text :: rest).map (· ++ "\n"))).toList.count '\n' =
      text.toList.count '\n' + 1 + (String.join (rest.map (· ++ "\n"))).toList.count '\n' := by
  rw [List.map_cons, String.join_cons, String.toList_append, List.count_append,
    String.toList_append, List.count_append]
  rfl

/-- Texts that each end with a line feed make at least as many line feeds. -/
theorem length_le_count_join (texts : List String) :
    texts.length ≤ (String.join (texts.map (· ++ "\n"))).toList.count '\n' := by
  induction texts with
  | nil => exact Nat.zero_le _
  | cons text rest step =>
    rw [count_join_cons, List.length_cons]
    omega

/-- There are as many line feeds as texts exactly when each text is one line. -/
theorem count_join_eq_length_iff (texts : List String) :
    (String.join (texts.map (· ++ "\n"))).toList.count '\n' = texts.length ↔
      ∀ text ∈ texts, '\n' ∉ text.toList := by
  induction texts with
  | nil => simp
  | cons text rest step =>
    have least := length_le_count_join rest
    rw [count_join_cons, List.length_cons, List.forall_mem_cons, ← step, ← List.count_eq_zero]
    omega

/-- A text has no next line exactly when it has no line feed. -/
theorem nextLine?_eq_none_iff (text : List Char) : nextLine? text = none ↔ '\n' ∉ text := by
  induction text with
  | nil => simp [nextLine?]
  | cons character rest step =>
    unfold nextLine?
    by_cases feed : character = '\n'
    · simp [feed]
    · simp [feed, step, Ne.symm feed]

/-- The first line of a text and its other lines. -/
theorem lines_of_nextLine? {text line after : List Char}
    (found : nextLine? text = some (line, after)) : lines text = line :: lines after := by
  obtain ⟨rfl, clean⟩ := nextLine?_eq_some found
  exact lines_append clean after

/-- The first entry of a kind cuts a list in one way only. -/
theorem eq_of_first {α : Type} (kind : α → Prop) {before after early late : List α}
    {first other : α} (clean : ∀ entry ∈ before, ¬kind entry) (found : kind first)
    (cleanAgain : ∀ entry ∈ early, ¬kind entry) (again : kind other)
    (same : before ++ first :: after = early ++ other :: late) :
    before = early ∧ first = other ∧ after = late := by
  induction before generalizing early with
  | nil =>
    cases early with
    | nil => exact ⟨rfl, List.cons.inj same⟩
    | cons entry more =>
      obtain ⟨rfl, -⟩ := List.cons.inj same
      exact absurd found (cleanAgain _ List.mem_cons_self)
  | cons entry rest step =>
    cases early with
    | nil =>
      obtain ⟨rfl, -⟩ := List.cons.inj same
      exact absurd again (clean _ List.mem_cons_self)
    | cons another more =>
      obtain ⟨rfl, later⟩ := List.cons.inj same
      rw [List.forall_mem_cons] at clean cleanAgain
      obtain ⟨rfl, cut⟩ := step clean.2 cleanAgain.2 later
      exact ⟨rfl, cut⟩

/-- A text does not start with a character of a kind. -/
def Stops (kind : Char → Bool) (text : List Char) : Prop :=
  ∀ character ∈ text.head?, kind character = false

/-- The end of a text stops every run. -/
theorem stops_nil (kind : Char → Bool) : Stops kind [] := by
  simp [Stops]

/-- A character of another kind stops a run. -/
theorem stops_cons {kind : Char → Bool} {character : Char} (other : kind character = false)
    (rest : List Char) : Stops kind (character :: rest) := by
  intro first found
  rw [← Option.some.inj found]
  exact other

/-- Nothing is dropped where a text does not start with the kind. -/
theorem dropWhile_of_stops {kind : Char → Bool} {text : List Char} (stops : Stops kind text) :
    text.dropWhile kind = text := by
  cases text with
  | nil => rfl
  | cons first rest => exact List.dropWhile_cons_of_neg (by simp [stops first rfl])

/-- A run of a kind, and what follows it, are read off when the text goes on with another kind. -/
theorem takeWhile_append_of_stops {kind : Char → Bool} {run rest : List Char}
    (all : ∀ character ∈ run, kind character = true) (stops : Stops kind rest) :
    (run ++ rest).takeWhile kind = run ∧ (run ++ rest).dropWhile kind = rest := by
  rw [List.takeWhile_append_of_pos all, List.dropWhile_append_of_pos all]
  cases rest with
  | nil => simp
  | cons character more => simp [stops character rfl]

end Handbook.Text
