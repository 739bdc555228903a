/-!
# Sets of code points

A character class of a standard is a list of closed ranges of code points.
-/

namespace JavaHome.Text

/-- A set of code points, as closed ranges in increasing order. -/
abbrev CodePoints := List (Nat × Nat)

/-- Whether a code point lies in one of the ranges. -/
def CodePoints.has (ranges : CodePoints) (code : Nat) : Bool :=
  ranges.any fun range => range.1 ≤ code && code ≤ range.2

/-- Members of the set lie in one of its ranges. -/
theorem CodePoints.mem_of_has {ranges : CodePoints} {code : Nat} (h : ranges.has code = true) :
    ∃ low high, (low, high) ∈ ranges ∧ low ≤ code ∧ code ≤ high := by
  simp only [CodePoints.has, List.any_eq_true, Bool.and_eq_true, decide_eq_true_eq] at h
  obtain ⟨⟨low, high⟩, mem, hlow, hhigh⟩ := h
  exact ⟨low, high, mem, hlow, hhigh⟩

end JavaHome.Text
