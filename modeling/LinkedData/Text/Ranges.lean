/-
# LinkedData.Text.Ranges -- character classes given as sorted code point ranges

A Unicode property is data: a list of closed intervals of code points. Membership is a
search through the list, and every class of this library is either a handful of ASCII
characters or one of these tables.
-/

namespace LinkedData.Text

/-- A closed interval of code points, first and last. -/
abbrev CodeRange := Nat × Nat

/-- Whether a code point lies in one of the intervals. -/
def inRanges (ranges : List CodeRange) (n : Nat) : Bool :=
  ranges.any fun r => r.1 ≤ n && n ≤ r.2

theorem inRanges_iff {ranges : List CodeRange} {n : Nat} :
    inRanges ranges n = true ↔ ∃ r ∈ ranges, r.1 ≤ n ∧ n ≤ r.2 := by
  simp [inRanges]

end LinkedData.Text
