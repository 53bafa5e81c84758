import Handbook.Text.Blank
import Handbook.Text.Lines

/-!
# Fenced blocks

A block opens with a line of three backticks and a tag, closes with the next line of three backticks
alone, and holds the lines between the two. Gaps and one carriage return may follow on either fence.
A fence without a tag opens nothing, and an opening fence that nothing closes is an ordinary line.
No fence below such a line is closed either, so it ends the search.
-/
namespace Handbook

open Text

/-- A fenced block of a document. -/
structure Block where
  /-- The tag of the opening fence. -/
  tag : String
  /-- The lines between the fences, without the carriage returns at their ends. -/
  body : List String
deriving DecidableEq

namespace Block

/-- The character of which fences are made. -/
def backtick : Char := '\x60'

/-- The three characters that start a fence. -/
def fence : List Char := [backtick, backtick, backtick]

/-- Whether a tag may have a character. -/
def isTagChar (character : Char) : Bool := !isBlank character && character != backtick

/-- The text after a fence at the start of a text. -/
def afterFence? : List Char → Option (List Char)
  | first :: second :: third :: rest =>
    if [first, second, third] = fence then some rest else none
  | _ => none

/-- The text after an opening fence that a text starts with, and its tag. The fence ends with a line
feed, since the block goes on in the next line. -/
def opening? (text : List Char) : Option (List Char × List Char) := do
  let rest ← afterFence? text
  let tag := rest.takeWhile isTagChar
  if tag = [] then none
  else
    match (rest.dropWhile isTagChar).dropWhile isGap with
    | '\n' :: inside => some (tag, inside)
    | '\r' :: '\n' :: inside => some (tag, inside)
    | _ => none

/-- The text below a closing fence that a text starts with. -/
def closing? (text : List Char) : Option (List Char) := do
  let rest ← afterFence? text
  match rest.dropWhile isGap with
  | [] => some []
  | ['\r'] => some []
  | '\n' :: below => some below
  | '\r' :: '\n' :: below => some below
  | _ => none

/-- The lines up to the next closing fence and the text below that fence. -/
def body? (text : List Char) : Option (List (List Char) × List Char) :=
  match closing? text with
  | some below => some ([], below)
  | none =>
    match _found : nextLine? text with
    | none => none
    | some (line, rest) => (body? rest).map fun (more, below) => (line :: more, below)
termination_by text.length
decreasing_by exact length_of_nextLine? _found

/-- The text after a fence is shorter. -/
theorem length_of_afterFence? {text rest : List Char} (found : afterFence? text = some rest) :
    rest.length < text.length := by
  unfold afterFence? at found
  split at found
  · split at found
    · obtain rfl := Option.some.inj found
      simp only [List.length_cons]
      omega
    · simp at found
  · simp at found

/-- The text below an opening fence is shorter. -/
theorem length_of_opening? {text tag inside : List Char}
    (found : opening? text = some (tag, inside)) : inside.length < text.length := by
  unfold opening? at found
  cases start : afterFence? text with
  | none => simp [start] at found
  | some rest =>
    have shorter := length_of_afterFence? start
    have tagged := length_dropWhile_le isTagChar rest
    have gapped := length_dropWhile_le isGap (rest.dropWhile isTagChar)
    simp only [start, Option.bind_eq_bind, Option.bind_some] at found
    split at found
    · simp at found
    · split at found
      case h_3 => simp at found
      all_goals
        rename_i ending
        obtain ⟨-, rfl⟩ := found
        rw [ending] at gapped
        simp only [List.length_cons] at gapped
        omega

/-- The text below a closing fence is shorter. -/
theorem length_of_closing? {text below : List Char} (found : closing? text = some below) :
    below.length < text.length := by
  unfold closing? at found
  cases start : afterFence? text with
  | none => simp [start] at found
  | some rest =>
    have shorter := length_of_afterFence? start
    have gapped := length_dropWhile_le isGap rest
    simp only [start, Option.bind_eq_bind, Option.bind_some] at found
    split at found <;> simp at found
    all_goals
      rename_i ending
      subst found
      rw [ending] at gapped
      simp only [List.length_cons, List.length_nil] at gapped ⊢
      omega

/-- The text below a block is shorter than the text from its first body line on. -/
theorem length_of_body? {text below : List Char} {body : List (List Char)}
    (found : body? text = some (body, below)) : below.length < text.length := by
  fun_induction body? text generalizing body with
  | case1 text after closed =>
    obtain ⟨-, rfl⟩ := Prod.mk.inj (Option.some.inj found)
    exact length_of_closing? closed
  | case2 => simp at found
  | case3 text _ line rest first step =>
    obtain ⟨⟨more, after⟩, later, same⟩ := Option.map_eq_some_iff.1 found
    obtain ⟨-, rfl⟩ := Prod.mk.inj same
    exact Nat.lt_trans (step later) (length_of_nextLine? first)

/-- The blocks of a text that starts at the start of a line. -/
def scan (text : List Char) : List Block :=
  match text with
  | [] => []
  | character :: rest =>
    match opened : opening? (character :: rest) with
    | some (tag, inside) =>
      match closed : body? inside with
      | some (body, below) =>
        have := Nat.lt_trans (length_of_body? closed) (length_of_opening? opened)
        ⟨String.ofList tag, body.map fun line => String.ofList (withoutReturns line)⟩ :: scan below
      | none => []
    | none =>
      have := length_afterLine (List.cons_ne_nil character rest)
      scan (afterLine (character :: rest))
termination_by text.length
decreasing_by all_goals assumption

/-- The fenced blocks of a document in order. -/
def ofText (content : String) : List Block := scan content.toList

end Block

end Handbook
