import Handbook.Toml.Scalars
import Handbook.Toml.Strings
import Handbook.Toml.Tables

/-!
# TOML documents

A document is a sequence of lines: empty lines, comments, headers, and entries, which belong to the
table of the header above them. Reading a document gives its entries or, when any line is not well
formed or defines a key again, nothing. Arrays and inline tables are read to a fixed depth.
-/
namespace Handbook.Toml

open Text

/-- The text after a comment, which ends before a line end or at the end of the document. -/
def afterComment (text : List Char) : List Char :=
  match text with
  | '#' :: rest => rest.dropWhile isVisible
  | text => text

/-- Leaving out a comment makes no text longer. -/
theorem length_afterComment_le (text : List Char) : (afterComment text).length ≤ text.length := by
  unfold afterComment
  split
  · rename_i rest
    have := length_dropWhile_le isVisible rest
    simp only [List.length_cons]
    omega
  · exact Nat.le_refl _

/-- Leave out gaps, line ends, and comments on lines of their own or at the end of a line. -/
def dropFiller (text : List Char) : List Char :=
  match text with
  | [] => []
  | character :: rest =>
    if isGap character then dropFiller rest
    else
      match _ended : afterNewline? (afterComment (character :: rest)) with
      | some more => dropFiller more
      | none => character :: rest
termination_by text.length
decreasing_by
  · exact Nat.lt_succ_self _
  · exact Nat.lt_of_lt_of_le (length_of_afterNewline? _ended) (length_afterComment_le _)

/-- Leaving out filler makes no text longer. -/
theorem length_dropFiller_le (text : List Char) : (dropFiller text).length ≤ text.length := by
  fun_induction dropFiller text with
  | case1 => exact Nat.le_refl _
  | case2 character rest _ step =>
    simp only [List.length_cons]
    omega
  | case3 character rest _ more ended step =>
    have := length_of_afterNewline? ended
    have := length_afterComment_le (character :: rest)
    omega
  | case4 => exact Nat.le_refl _

/-- The text after the first character that is no filler is shorter. -/
theorem length_of_dropFiller {text rest : List Char} {first : Char}
    (found : dropFiller text = first :: rest) : rest.length < text.length := by
  have kept := length_dropFiller_le text
  rwa [found] at kept

/-- A reader of values: it takes a value from the start of a text. -/
structure ValueReader where
  /-- The value that a text begins with, and the text after it. -/
  read? : List Char → Option (Value × List Char)
  /-- The text after a value is no longer than the text that begins with it. -/
  length_le : ∀ {text value after},
    read? text = some (value, after) → after.length ≤ text.length

/-- The items of an array, read from after its bracket or a comma up to its closing bracket. -/
def items? (reader : ValueReader) (text : List Char) : Option (List Value × List Char) :=
  match _begun : dropFiller text with
  | ']' :: rest => some ([], rest)
  | start =>
    match _read : reader.read? start with
    | none => none
    | some (value, rest) =>
      match _ended : dropFiller rest with
      | ',' :: more => (items? reader more).map fun (values, after) => (value :: values, after)
      | ']' :: after => some ([value], after)
      | _ => none
termination_by text.length
decreasing_by
  have begun := length_dropFiller_le text
  have := reader.length_le _read
  have := length_of_dropFiller _ended
  rw [_begun] at begun
  omega

/-- The text after the items of an array is shorter. -/
theorem length_of_items? {reader : ValueReader} {text after : List Char} {values : List Value}
    (found : items? reader text = some (values, after)) : after.length < text.length := by
  fun_induction items? reader text generalizing values with
  | case1 text rest begun =>
    obtain ⟨-, rfl⟩ := Prod.mk.inj (Option.some.inj found)
    exact length_of_dropFiller begun
  | case2 => simp at found
  | case3 text value rest more ended _ read step =>
    obtain ⟨inner, later⟩ := exists_of_map found
    have := step later
    have := length_of_dropFiller ended
    have := reader.length_le read
    have := length_dropFiller_le text
    omega
  | case4 text value rest last ended _ read =>
    obtain ⟨-, rfl⟩ := Prod.mk.inj (Option.some.inj found)
    have := length_of_dropFiller ended
    have := reader.length_le read
    have := length_dropFiller_le text
    omega
  | case5 => simp at found

/-- The entries of an inline table, of which there is at least one, read up to its closing brace. -/
def pairs? (reader : ValueReader) (text : List Char) :
    Option (List (List String × Value) × List Char) :=
  match _named : dottedKey? text with
  | some (keys, '=' :: start) =>
    match _read : reader.read? (start.dropWhile isGap) with
    | none => none
    | some (value, rest) =>
      match _ended : rest.dropWhile isGap with
      | ',' :: more =>
        (pairs? reader more).map fun (pairs, after) => ((keys, value) :: pairs, after)
      | '\x7d' :: after => some ([(keys, value)], after)
      | _ => none
  | _ => none
termination_by text.length
decreasing_by
  have named := length_of_dottedKey? _named
  have := length_dropWhile_le isGap start
  have := reader.length_le _read
  have := length_of_dropWhile _ended
  simp only [List.length_cons] at named
  omega

/-- The text after the entries of an inline table is shorter. -/
theorem length_of_pairs? {reader : ValueReader} {text after : List Char}
    {pairs : List (List String × Value)} (found : pairs? reader text = some (pairs, after)) :
    after.length < text.length := by
  fun_induction pairs? reader text generalizing pairs with
  | case1 => simp at found
  | case2 text keys start named value rest read more ended step =>
    obtain ⟨inner, later⟩ := exists_of_map found
    have := step later
    have := length_of_dropWhile ended
    have := reader.length_le read
    have := length_dropWhile_le isGap start
    have named := length_of_dottedKey? named
    simp only [List.length_cons] at named
    omega
  | case3 text keys start named value rest read last ended =>
    obtain ⟨-, rfl⟩ := Prod.mk.inj (Option.some.inj found)
    have := length_of_dropWhile ended
    have := reader.length_le read
    have := length_dropWhile_le isGap start
    have named := length_of_dottedKey? named
    simp only [List.length_cons] at named
    omega
  | case4 => simp at found
  | case5 => simp at found

/-- The inline table that goes on after its opening brace. -/
def inlineTable? (reader : ValueReader) (text : List Char) : Option (Value × List Char) :=
  match text.dropWhile isGap with
  | '\x7d' :: rest => some (.table .inline [], rest)
  | start =>
    match pairs? reader start with
    | none => none
    | some (pairs, after) =>
      (pairs.foldlM (fun entries pair => assign pair.1 pair.2 entries) []).map
        fun entries => (.table .inline entries, after)

/-- The text after an inline table is shorter. -/
theorem length_of_inlineTable? {reader : ValueReader} {text after : List Char} {value : Value}
    (found : inlineTable? reader text = some (value, after)) : after.length < text.length := by
  unfold inlineTable? at found
  split at found
  · rename_i closed
    obtain ⟨-, rfl⟩ := Prod.mk.inj (Option.some.inj found)
    exact length_of_dropWhile closed
  · split at found
    · simp at found
    · rename_i read
      obtain ⟨entries, -, same⟩ := Option.map_eq_some_iff.1 found
      obtain ⟨-, rfl⟩ := Prod.mk.inj same
      have := length_of_pairs? read
      have := length_dropWhile_le isGap text
      omega

/-- The value that a text begins with, in which the values inside an array or an inline table are
read by the given reader; without one there is no array and no inline table. -/
def valueWith? (inner : Option ValueReader) (text : List Char) : Option (Value × List Char) :=
  match text, inner with
  | '[' :: rest, some inner => (items? inner rest).map fun (items, after) => (.array items, after)
  | '\x7b' :: rest, some inner => inlineTable? inner rest
  | text, _ =>
    match string? text with
    | some (content, after) => some (.text (String.ofList content), after)
    | none => (scalar? text).map fun (kind, after) => (.scalar kind, after)

/-- The text after a value is no longer. -/
theorem length_of_valueWith? {inner : Option ValueReader} {text after : List Char} {value : Value}
    (found : valueWith? inner text = some (value, after)) : after.length ≤ text.length := by
  unfold valueWith? at found
  split at found
  · obtain ⟨items, read⟩ := exists_of_map found
    have := length_of_items? read
    simp only [List.length_cons]
    omega
  · have := length_of_inlineTable? found
    simp only [List.length_cons]
    omega
  · split at found
    · rename_i read
      obtain ⟨-, rfl⟩ := Prod.mk.inj (Option.some.inj found)
      exact Nat.le_of_lt (length_of_string? read)
    · obtain ⟨kind, read⟩ := exists_of_map found
      exact length_of_scalar? read

/-- The reader of values in which arrays and inline tables are nested to the given depth at most. -/
def valueReader : Nat → ValueReader
  | 0 => ⟨valueWith? none, length_of_valueWith?⟩
  | depth + 1 => ⟨valueWith? (some (valueReader depth)), length_of_valueWith?⟩

/-- The greatest depth to which arrays and inline tables are nested. -/
def depthLimit : Nat := 79

/-- The text after the end of a line, before which a gap and a comment may stand. -/
def afterLineEnd? (text : List Char) : Option (List Char) :=
  match afterComment (text.dropWhile isGap) with
  | [] => some []
  | rest => afterNewline? rest

/-- The text after the end of a line is shorter or is empty. -/
theorem length_of_afterLineEnd? {text after : List Char} (found : afterLineEnd? text = some after) :
    after = [] ∨ after.length < text.length := by
  have := length_afterComment_le (text.dropWhile isGap)
  have := length_dropWhile_le isGap text
  unfold afterLineEnd? at found
  split at found
  · exact .inl (Option.some.inj found).symm
  · have := length_of_afterNewline? found
    exact .inr (by omega)

/-- The entries of a document that is read in part, and the header of the table that gets the next
entries. -/
structure Draft where
  /-- The entries of the whole document. -/
  root : Entries := []
  /-- The header above the next line; it is empty before the first header. -/
  header : List String := []

namespace Draft

/-- Read a header from after its opening brackets: what it does to the entries, and the text after
its closing brackets. -/
def header? (draft : Draft) (text : List Char) : Option (Draft × List Char) :=
  match text with
  | '[' :: text =>
    match dottedKey? text with
    | some (keys, ']' :: ']' :: rest) =>
      (openElement keys draft.root).map fun root => (⟨root, keys⟩, rest)
    | _ => none
  | text =>
    match dottedKey? text with
    | some (keys, ']' :: rest) =>
      (openTable keys draft.root).map fun root => (⟨root, keys⟩, rest)
    | _ => none

/-- Read an entry, and the text after its value. -/
def entry? (draft : Draft) (text : List Char) : Option (Draft × List Char) :=
  match dottedKey? text with
  | some (keys, '=' :: start) =>
    match (valueReader depthLimit).read? (start.dropWhile isGap) with
    | none => none
    | some (value, rest) =>
      (changeAt (assign keys value) draft.header draft.root).map
        fun root => (⟨root, draft.header⟩, rest)
  | _ => none

/-- Read what stands on a line of a document that is not empty, and the text after it. -/
def content? (draft : Draft) : List Char → Option (Draft × List Char)
  | '[' :: rest => draft.header? rest
  | text => draft.entry? text

/-- The text after a header is shorter. -/
theorem length_of_header? {draft made : Draft} {text after : List Char}
    (found : draft.header? text = some (made, after)) : after.length < text.length := by
  unfold header? at found
  split at found
  · split at found
    · rename_i named
      obtain ⟨root, -, same⟩ := Option.map_eq_some_iff.1 found
      obtain ⟨-, rfl⟩ := Prod.mk.inj same
      have named := length_of_dottedKey? named
      simp only [List.length_cons] at named ⊢
      omega
    · simp at found
  · split at found
    · rename_i named
      obtain ⟨root, -, same⟩ := Option.map_eq_some_iff.1 found
      obtain ⟨-, rfl⟩ := Prod.mk.inj same
      have named := length_of_dottedKey? named
      simp only [List.length_cons] at named
      omega
    · simp at found

/-- The text after an entry is shorter. -/
theorem length_of_entry? {draft made : Draft} {text after : List Char}
    (found : draft.entry? text = some (made, after)) : after.length < text.length := by
  unfold entry? at found
  split at found
  · rename_i keys start named
    split at found
    · simp at found
    · rename_i value rest read
      obtain ⟨root, -, same⟩ := Option.map_eq_some_iff.1 found
      obtain ⟨-, rfl⟩ := Prod.mk.inj same
      have named := length_of_dottedKey? named
      have := length_dropWhile_le isGap start
      have := (valueReader depthLimit).length_le read
      simp only [List.length_cons] at named
      omega
  · simp at found

/-- The text after what stands on a line is shorter. -/
theorem length_of_content? {draft made : Draft} {text after : List Char}
    (found : draft.content? text = some (made, after)) : after.length < text.length := by
  unfold content? at found
  split at found
  · have := length_of_header? found
    simp only [List.length_cons]
    omega
  · exact length_of_entry? found

/-- Read the rest of a document. -/
def finish? (draft : Draft) (text : List Char) : Option Entries :=
  match _begun : text.dropWhile isGap with
  | [] => some draft.root
  | first :: rest =>
    match _blank : afterLineEnd? (first :: rest) with
    | some below => draft.finish? below
    | none =>
      match _read : draft.content? (first :: rest) with
      | none => none
      | some (draft, rest) =>
        match _ended : afterLineEnd? rest with
        | some below => draft.finish? below
        | none => none
termination_by text.length
decreasing_by
  · have := length_of_dropWhile _begun
    rcases length_of_afterLineEnd? _blank with rfl | shorter
    · simp only [List.length_nil]
      omega
    · simp only [List.length_cons] at shorter
      omega
  · have := length_of_dropWhile _begun
    have read := length_of_content? _read
    simp only [List.length_cons] at read
    rcases length_of_afterLineEnd? _ended with rfl | shorter
    · simp only [List.length_nil]
      omega
    · omega

end Draft

/-- The mark that may stand at the start of a document and means nothing. -/
def byteOrderMark : Char := Char.ofNat 0xfeff

/-- The entries of a document. -/
def parse? (content : String) : Option Entries :=
  match content.toList with
  | [] => some []
  | first :: rest => Draft.finish? {} (if first = byteOrderMark then rest else first :: rest)

end Handbook.Toml
