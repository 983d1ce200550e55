/-! Sets of characters given by ranges of code points. -/
namespace HazardJob.Text

/-- The code points from the first to the second, both included. -/
abbrev CodeRange := Nat × Nat

/-- Some range of `ranges` holds `n`. -/
def inRanges (ranges : List CodeRange) (n : Nat) : Bool :=
  ranges.any fun r => r.1 ≤ n && n ≤ r.2

end HazardJob.Text
