/-!
# Sets of characters given by code point ranges

A property of characters is kept as the ascending list of the ranges of code points that have it,
both ends included. Membership reads the list from its lowest range and stops at the first range
that begins above the character; `Ranges.has_iff` says that nothing is missed by stopping there
when the ranges ascend.
-/
namespace Handbook.Text

/-- Inclusive ranges of code points, the lowest first. -/
abbrev Ranges := List (Nat × Nat)

namespace Ranges

/-- Whether a code point lies in one of the ranges, reading no further than the first range that
begins above it. -/
def has : Ranges → Nat → Bool
  | [], _ => false
  | (low, high) :: higher, code => low ≤ code && (code ≤ high || has higher code)

/-- Every range is nonempty and ends below the next one. -/
def Ascending (ranges : Ranges) : Prop :=
  (∀ range ∈ ranges, range.1 ≤ range.2) ∧ ranges.Pairwise fun left right => left.2 < right.1

/-- In ascending ranges a code point is found exactly when some range contains it. -/
theorem has_iff {ranges : Ranges} (ascending : ranges.Ascending) (code : Nat) :
    ranges.has code = true ↔ ∃ range ∈ ranges, range.1 ≤ code ∧ code ≤ range.2 := by
  induction ranges with
  | nil => simp [has]
  | cons range higher step =>
    obtain ⟨nonempty, ordered⟩ := ascending
    obtain ⟨below, ordered⟩ := List.pairwise_cons.1 ordered
    have tail := step ⟨fun other member => nonempty other (List.mem_cons_of_mem _ member), ordered⟩
    have proper : range.1 ≤ range.2 := nonempty range List.mem_cons_self
    simp only [has, Bool.and_eq_true, decide_eq_true_eq, Bool.or_eq_true, tail, List.mem_cons,
      exists_eq_or_imp]
    constructor
    · rintro ⟨low, high | ⟨other, member, inside⟩⟩
      · exact .inl ⟨low, high⟩
      · exact .inr ⟨other, member, inside⟩
    · rintro (⟨low, high⟩ | ⟨other, member, inside⟩)
      · exact ⟨low, .inl high⟩
      · have := below other member
        exact ⟨by omega, .inr ⟨other, member, inside⟩⟩

end Ranges

end Handbook.Text
