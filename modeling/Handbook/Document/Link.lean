import Handbook.Document.Heading
import Handbook.Path.Basic

/-!
# Links

A link is a label in square brackets and a target in round ones. The label is any nonempty text
without square brackets, which may run over several lines. The target is a path of word characters,
hyphens, dots and separators, a fragment after a number sign, or both; anything else between the
round brackets, such as an address with a colon, makes the text no link. A target with neither part
is read over and names nothing.
-/
namespace Handbook

open Text

/-- The target of a link as it is written. -/
structure Link where
  /-- The path, if one is written. -/
  path : Option String
  /-- The fragment after the number sign, if one is written. -/
  fragment : Option String
deriving DecidableEq

/-- What a link of a document points to. -/
structure Reference where
  /-- The path, seen from where the document's own path is seen from, as the link spells it. -/
  target : Path
  /-- The anchor in the target. -/
  anchor : Option String
deriving DecidableEq

namespace Link

/-- Whether a label may have a character. -/
def isLabelChar (character : Char) : Bool := character != '[' && character != ']'

/-- Whether the path of a link may have a character. -/
def isPathChar (character : Char) : Bool :=
  character == '.' || character == '/' || isAnchorChar character

/-- A text, unless it is empty. -/
def written (text : List Char) : Option String :=
  if text = [] then none else some (String.ofList text)

/-- The target that a text begins with, and the text after its closing bracket. -/
def target? (text : List Char) : Option (Link × List Char) :=
  let path := written (text.takeWhile isPathChar)
  match text.dropWhile isPathChar with
  | ')' :: rest => some (⟨path, none⟩, rest)
  | '#' :: more =>
    match written (more.takeWhile isAnchorChar), more.dropWhile isAnchorChar with
    | some fragment, ')' :: rest => some (⟨path, some fragment⟩, rest)
    | _, _ => none
  | _ => none

/-- The link that a text begins with, and the text after it. -/
def atStart? : List Char → Option (Link × List Char)
  | '[' :: text =>
    match text.takeWhile isLabelChar, text.dropWhile isLabelChar with
    | _ :: _, ']' :: '(' :: rest => target? rest
    | _, _ => none
  | _ => none

/-- The text after a target is shorter than the text that begins with it. -/
theorem length_of_target? {text rest : List Char} {link : Link}
    (found : target? text = some (link, rest)) : rest.length < text.length := by
  have kept := length_dropWhile_le isPathChar text
  unfold target? at found
  simp only at found
  split at found
  · rename_i after whole
    rw [whole] at kept
    obtain ⟨-, rfl⟩ := Prod.mk.inj (Option.some.inj found)
    simp only [List.length_cons] at kept
    omega
  · rename_i more whole
    rw [whole] at kept
    have later := length_dropWhile_le isAnchorChar more
    split at found
    · rename_i fragment after _ ending
      rw [ending] at later
      obtain ⟨-, rfl⟩ := Prod.mk.inj (Option.some.inj found)
      simp only [List.length_cons] at kept later
      omega
    · simp at found
  · simp at found

/-- The text after a link is shorter than the text that begins with it. -/
theorem length_of_atStart? {text rest : List Char} {link : Link}
    (found : atStart? text = some (link, rest)) : rest.length < text.length := by
  unfold atStart? at found
  split at found
  · rename_i inner
    split at found
    · rename_i after _ whole
      have kept := length_dropWhile_le isLabelChar inner
      rw [whole] at kept
      have shorter := length_of_target? found
      simp only [List.length_cons] at kept ⊢
      omega
    · simp at found
  · simp at found

/-- The links of a text in order. The search goes on after a link that was found. -/
def scan (text : List Char) : List Link :=
  match found : atStart? text with
  | some (link, rest) =>
    have := length_of_atStart? found
    link :: scan rest
  | none =>
    match text with
    | [] => []
    | _ :: rest => scan rest
termination_by text.length

/-- What a link points to from a document: a path is seen from the folder of the document, and a
fragment alone names a heading of the document itself. -/
def resolve? (document : Path) (link : Link) : Option Reference :=
  match link.path, link.fragment with
  | some path, fragment => some ⟨document.folder.join ⟨path⟩, fragment⟩
  | none, some fragment => some ⟨document, some fragment⟩
  | none, none => none

end Link

/-- The reference as it is shown: the target and, after a number sign, the anchor. -/
def Reference.shown (reference : Reference) : String :=
  match reference.anchor with
  | some anchor => reference.target.spelling ++ "#" ++ anchor
  | none => reference.target.spelling

end Handbook
