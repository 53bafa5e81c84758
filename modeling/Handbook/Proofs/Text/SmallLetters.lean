import Handbook.Proofs.Text.Lowering

/-!
# Small letters stay as they are

Lowercase is reached in one step. No small letter in the table is a capital again, also where small
letters stand between the capitals of a run. The small sigmas are no capitals either, and without a
capital sigma no character looks at its neighbours, so a text of small letters is its own lowercase.
Nor is any small letter white space: a text has the same gaps between its words in lowercase.
-/
namespace Handbook.Text

namespace CapitalRun

variable {run other : CapitalRun} {code letter : Nat}

/-- What lies outside a run is no capital of it. -/
theorem small?_eq_none (outside : code < run.first ∨ run.last < code) : run.small? code = none := by
  unfold small?
  rw [if_neg]
  rintro ⟨first, last, -⟩
  omega

/-- The small letters of a run lie between those of its ends. -/
theorem small_bounds (found : run.small? code = some letter) :
    run.small run.first ≤ letter ∧ letter ≤ run.small run.last := by
  obtain ⟨-, last, first, rfl⟩ := small?_eq_some found
  unfold small
  constructor <;> omega

/-- No small letter of the run is a capital. Another run lies below or above the small letters as a
whole, or has none of them among its capitals. -/
def Settles (run : CapitalRun) : Prop :=
  ∀ other ∈ capitalRuns, other.last < run.small run.first ∨ run.small run.last < other.first ∨
    ∀ code ∈ run.codes, other.small? (run.small code) = none

/-- The runs are compared with comparisons that compute fast. -/
instance (run : CapitalRun) : Decidable run.Settles :=
  decidable_of_iff
    (capitalRuns.all fun other => other.last.blt (run.small run.first) ||
      (run.small run.last).blt other.first ||
        run.codes.all fun code => (other.small? (run.small code)).isNone)
    (by simp [Settles, or_assoc])

/-- A small letter of a run that settles is no capital. -/
theorem Settles.small?_eq_none (settles : run.Settles) (found : run.small? code = some letter)
    (member : other ∈ capitalRuns) : other.small? letter = none := by
  have bounds := small_bounds found
  rcases settles other member with below | above | apart
  · exact CapitalRun.small?_eq_none (.inr (by omega))
  · exact CapitalRun.small?_eq_none (.inl (by omega))
  · obtain ⟨listed, -, -, rfl⟩ := small?_eq_some found
    exact apart code listed

/-- What no small letter can be: the dotted capital I, a surrogate or white space. -/
def excluded : Ranges := (0x130, 0x130) :: (0xd800, 0xdfff) :: blankRanges

/-- The small letters of the run are characters that are not excluded. -/
def Admitted (run : CapitalRun) : Prop :=
  run.small run.last < 0x110000 ∧
    ∀ range ∈ excluded, range.2 < run.small run.first ∨ run.small run.last < range.1

instance (run : CapitalRun) : Decidable run.Admitted := inferInstanceAs (Decidable (_ ∧ _))

/-- A small letter of an admitted run is a code point and lies in no excluded range. -/
theorem Admitted.avoids (admitted : run.Admitted) (found : run.small? code = some letter) :
    letter < 0x110000 ∧ ∀ range ∈ excluded, range.2 < letter ∨ letter < range.1 := by
  have bounds := small_bounds found
  have bounded : run.small run.last < 0x110000 := admitted.1
  constructor
  · omega
  · intro range member
    have apart := admitted.2 range member
    omega

end CapitalRun

/-- No small letter is a capital. -/
theorem capitalRuns_settle : ∀ run ∈ capitalRuns, run.Settles := by
  decide +kernel

/-- All small letters are admitted. -/
theorem capitalRuns_admitted : ∀ run ∈ capitalRuns, run.Admitted := by
  decide +kernel

/-- A code point is its own lowercase, or its lowercase is the small letter of a run. -/
theorem lowerCode_cases (code : Nat) : lowerCode code = code ∨
    ∃ run ∈ capitalRuns, run.small? code = some (lowerCode code) := by
  unfold lowerCode
  cases found : capitalRuns.findSome? (·.small? code) with
  | none => exact .inl rfl
  | some letter =>
    obtain ⟨run, member, small⟩ := List.exists_of_findSome?_eq_some found
    exact .inr ⟨run, member, small⟩

/-- Lowercase is its own lowercase. -/
theorem lowerCode_lowerCode (code : Nat) : lowerCode (lowerCode code) = lowerCode code := by
  rcases lowerCode_cases code with same | ⟨run, member, small⟩
  · rw [same, same]
  · have none : capitalRuns.findSome? (·.small? (lowerCode code)) = none := by
      rw [List.findSome?_eq_none_iff]
      exact fun other listed => (capitalRuns_settle run member).small?_eq_none small listed
    rw [lowerCode, none]
    rfl

/-- A code point is its own lowercase, or its lowercase is a code point that is not excluded. -/
theorem lowerCode_admitted (code : Nat) : lowerCode code = code ∨ lowerCode code < 0x110000 ∧
    ∀ range ∈ CapitalRun.excluded, range.2 < lowerCode code ∨ lowerCode code < range.1 := by
  rcases lowerCode_cases code with same | ⟨run, member, small⟩
  · exact .inl same
  · exact .inr ((capitalRuns_admitted run member).avoids small)

/-- The lowercase of the code point of a character is the code point of a character. -/
theorem toNat_ofNat_lowerCode (character : Char) :
    (Char.ofNat (lowerCode character.toNat)).toNat = lowerCode character.toNat := by
  rcases lowerCode_admitted character.toNat with same | ⟨bounded, apart⟩
  · rw [same, Char.ofNat_toNat]
  · have surrogates := apart (0xd800, 0xdfff) (by simp [CapitalRun.excluded])
    have valid : (lowerCode character.toNat).isValidChar := by
      rcases surrogates with above | below
      · exact .inr ⟨above, bounded⟩
      · exact .inl below
    exact toNat_ofNat valid

/-- The dotted capital I is the lowercase of no other character. -/
theorem ofNat_lowerCode_ne_dottedCapitalI {character : Char} (other : character ≠ dottedCapitalI) :
    Char.ofNat (lowerCode character.toNat) ≠ dottedCapitalI := by
  rcases lowerCode_admitted character.toNat with same | ⟨-, apart⟩
  · rwa [same, Char.ofNat_toNat]
  · intro dotted
    have code : lowerCode character.toNat = 0x130 := by
      rw [← toNat_ofNat_lowerCode, dotted]
      rfl
    have missed := apart (0x130, 0x130) (by simp [CapitalRun.excluded])
    omega

/-- The lowercase of a character that is not white space has no white space. -/
theorem isBlank_lowerChar (character : Char) (dark : isBlank character = false) :
    ∀ small ∈ lowerChar character, isBlank small = false := by
  intro small member
  unfold lowerChar at member
  split at member
  · have both : isBlank 'i' = false ∧ isBlank combiningDotAbove = false := by decide +kernel
    simp only [List.mem_cons, List.not_mem_nil, or_false] at member
    rcases member with rfl | rfl
    · exact both.1
    · exact both.2
  · obtain rfl := List.mem_singleton.1 member
    rcases lowerCode_admitted character.toNat with same | ⟨-, apart⟩
    · rwa [same, Char.ofNat_toNat]
    · rw [isBlank, toNat_ofNat_lowerCode, Bool.eq_false_iff]
      intro blank
      obtain ⟨range, listed, low, high⟩ := (Ranges.has_iff_covers blankRanges_ascending).1 blank
      have missed := apart range (by simp [CapitalRun.excluded, listed])
      omega

/-- The characters of a lowercase are their own lowercase. -/
theorem lowerChar_of_mem_lowerChar {character small : Char} (member : small ∈ lowerChar character) :
    lowerChar small = [small] := by
  unfold lowerChar at member
  split at member
  · have both : lowerChar 'i' = ['i'] ∧ lowerChar combiningDotAbove = [combiningDotAbove] := by
      decide +kernel
    simp only [List.mem_cons, List.not_mem_nil, or_false] at member
    rcases member with rfl | rfl
    · exact both.1
    · exact both.2
  · rename_i other
    obtain rfl := List.mem_singleton.1 member
    rw [lowerChar, if_neg (ofNat_lowerCode_ne_dottedCapitalI other), toNat_ofNat_lowerCode,
      lowerCode_lowerCode]

/-- The characters of a text in lowercase are their own lowercase. -/
theorem lowerChar_of_mem_lowercase {text : List Char} {small : Char}
    (member : small ∈ lowercase text) : lowerChar small = [small] := by
  have sigmas : lowerChar finalSigma = [finalSigma] ∧ lowerChar smallSigma = [smallSigma] := by
    decide +kernel
  rcases mem_lowercaseFrom member with (rfl | rfl) | ⟨character, -, found⟩
  · exact sigmas.1
  · exact sigmas.2
  · exact lowerChar_of_mem_lowerChar found

/-- A text of characters that are their own lowercase is its own lowercase, whatever stands before
it. -/
theorem lowercaseFrom_eq_self {text : List Char}
    (small : ∀ character ∈ text, lowerChar character = [character]) (passed : List Char) :
    lowercaseFrom passed text = text := by
  have capital : lowerChar capitalSigma ≠ [capitalSigma] := by decide +kernel
  induction text generalizing passed with
  | nil => rfl
  | cons character rest step =>
    rw [List.forall_mem_cons] at small
    have other : character ≠ capitalSigma := by
      rintro rfl
      exact capital small.1
    rw [lowercaseFrom, if_neg other, small.1, step small.2]
    rfl

/-- The lowercase of a text without white space has no white space. -/
theorem isBlank_lowercase {text : List Char}
    (dark : ∀ character ∈ text, isBlank character = false) :
    ∀ small ∈ lowercase text, isBlank small = false :=
  forall_mem_lowercaseFrom (by decide +kernel) isBlank_lowerChar dark []

end Handbook.Text
