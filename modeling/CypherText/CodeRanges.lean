/-!
# Sets of code points

A set of code points is given by its ranges in ascending order, each with its first and its last
member. A search stops at the first range that lies behind the code point.
-/

namespace CypherText

/-- Ranges of code points in ascending order, each with its first and its last member. -/
abbrev CodeRanges := List (Nat × Nat)

namespace CodeRanges

/-- Whether a code point lies in one of the ranges. -/
def holds : CodeRanges → Nat → Bool
  | [], _ => false
  | (first, last) :: rest, code => first ≤ code && (code ≤ last || holds rest code)

/-- A code point that is held lies in one of the ranges. -/
theorem exists_of_holds {ranges : CodeRanges} {code : Nat} (held : ranges.holds code = true) :
    ∃ range ∈ ranges, range.1 ≤ code ∧ code ≤ range.2 := by
  induction ranges with
  | nil => simp [holds] at held
  | cons range rest inductionHypothesis =>
    simp only [holds, Bool.and_eq_true, Bool.or_eq_true, decide_eq_true_eq] at held
    obtain ⟨behind, inside | later⟩ := held
    · exact ⟨range, by simp, behind, inside⟩
    · obtain ⟨other, member, bounds⟩ := inductionHypothesis later
      exact ⟨other, by simp [member], bounds⟩

end CodeRanges

end CypherText
