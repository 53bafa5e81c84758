import Mathlib.Data.List.Forall2
import Handbook.Settings.Basic

/-!
# What settings accept

Settings are accepted when each part of them is: `flaw?_eq_none_iff` lists the parts. Which blocks
they select is said letter by letter, so that the case of ASCII letters is all that a tag and a
marker may differ in.
-/
namespace Handbook.Settings

open Text

/-- One character twice, or an ASCII letter in both its cases. -/
def SameLetter (left right : Char) : Prop :=
  left = right ∨ (left.isUpper = true ∧ right.toNat = left.toNat + 32) ∨
    (right.isUpper = true ∧ left.toNat = right.toNat + 32)

/-- Two texts of the same letters, up to the case of ASCII letters. -/
def SameLetters (left right : String) : Prop :=
  List.Forall₂ SameLetter left.toList right.toList

/-- A block with the tag is a sample: the tag is a marker up to the case of ASCII letters. -/
def Selects (settings : Settings) (tag : String) : Prop :=
  ∃ marker ∈ settings.markers, SameLetters marker tag

/-- The capital ASCII letters have the code points from 65 to 90. -/
theorem isUpper_iff (letter : Char) :
    letter.isUpper = true ↔ 65 ≤ letter.toNat ∧ letter.toNat ≤ 90 :=
  decide_eq_true_iff

/-- A small ASCII letter stands 32 code points after its capital letter. -/
theorem toNat_toLower (letter : Char) :
    letter.toLower.toNat = if letter.isUpper = true then letter.toNat + 32 else letter.toNat := by
  unfold Char.toLower
  split
  · rename_i capital
    have upper : letter.isUpper = true := decide_eq_true capital
    have bounds := (isUpper_iff letter).1 upper
    have distance : ('a'.val - 'A'.val).toNat = 32 := by decide
    have moved : (letter.val + ('a'.val - 'A'.val)).toNat = letter.toNat + 32 := by
      rw [UInt32.toNat_add, distance]
      exact Nat.mod_eq_of_lt (show letter.toNat + 32 < 2 ^ 32 by omega)
    rw [if_pos upper]
    exact moved
  · rename_i small
    have lower : letter.isUpper ≠ true := fun upper => small (of_decide_eq_true upper)
    rw [if_neg lower]

/-- Characters that differ in case only have one small letter. -/
theorem toLower_eq_iff (left right : Char) :
    left.toLower = right.toLower ↔ SameLetter left right := by
  rw [← Char.toNat_inj, toNat_toLower, toNat_toLower, SameLetter, ← Char.toNat_inj]
  simp only [isUpper_iff]
  split <;> split <;> omega

/-- Tags are compared letter by letter. -/
theorem sameTag_iff (left right : String) : sameTag left right = true ↔ SameLetters left right := by
  rw [sameTag, beq_iff_eq, ← List.forall₂_eq_eq_eq, List.forall₂_map_left_iff,
    List.forall₂_map_right_iff]
  simp only [toLower_eq_iff, SameLetters]

/-- The blocks that are samples are those with a marker for their tag, in any case. -/
theorem selects_iff (settings : Settings) (tag : String) :
    settings.selects tag = true ↔ settings.Selects tag := by
  simp only [selects, List.any_eq_true, sameTag_iff, Selects]

/-- Whether a block with a tag is a sample can be computed. -/
instance (settings : Settings) : DecidablePred settings.Selects := fun tag =>
  decidable_of_iff _ (settings.selects_iff tag)

/-- A header is accepted when it is not empty and has neither a quote nor the end of a line. -/
theorem isHeader_iff (header : String) :
    isHeader header = true ↔ header ≠ "" ∧ '"' ∉ header.toList ∧ '\n' ∉ header.toList ∧
      '\r' ∉ header.toList := by
  simp only [isHeader, Bool.and_eq_true, bne_iff_ne, Bool.not_eq_true', List.any_eq_false,
    Bool.or_eq_true, beq_iff_eq]
  grind

/-- Settings are accepted when they have a marker, every marker fits on a fence, the directive is
not empty, and every header fits between quotes. -/
theorem flaw?_eq_none_iff (settings : Settings) :
    settings.flaw? = none ↔ settings.markers ≠ [] ∧
      (∀ marker ∈ settings.markers, isMarker marker = true) ∧ settings.directive ≠ "" ∧
      ∀ header ∈ settings.headers, isHeader header = true := by
  unfold flaw?
  by_cases none : settings.markers = []
  · simp [none]
  · rw [if_neg none]
    cases bad : settings.markers.find? (!isMarker ·) with
    | some marker =>
      have member := List.mem_of_find?_eq_some bad
      have flawed : isMarker marker = false := by simpa using List.find?_some bad
      simp only [reduceCtorEq, false_iff]
      rintro ⟨-, all, -⟩
      simp [all marker member] at flawed
    | none =>
      by_cases empty : settings.directive = ""
      · simp [empty]
      · have all : ∀ marker ∈ settings.markers, isMarker marker = true := by
          simpa using List.find?_eq_none.1 bad
        simp only [if_neg empty, Option.map_eq_none_iff, List.find?_eq_none]
        simpa [none, empty] using fun _ => all

end Handbook.Settings
