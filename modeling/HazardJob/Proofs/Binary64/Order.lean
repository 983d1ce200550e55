import HazardJob.Proofs.Binary64.Rounding

/-! The numeric order. It is the order of the exact values, it never holds of the value that is not a
number, and the total order follows it. -/
namespace HazardJob.Binary64

theorem isFinite_infinity (negative : Bool) : (infinity negative).isFinite = false := by
  simp [infinity, isFinite]

/-- The exact value in units of 2^-1074, with its sign. -/
def signedUnits (negative : Bool) (pattern : Nat) : Int :=
  if negative then -(units pattern : Int) else units pattern

/-- Positions stand in the order of the exact values. -/
theorem position_lt_iff {a b : Bool} {p q : Nat} :
    position a p < position b q ↔ signedUnits a p < signedUnits b q := by
  have least (r : Nat) : units r ≤ 0 ↔ r ≤ 0 := by
    have origin : units r ≤ units 0 ↔ r ≤ 0 := units_le_iff
    rwa [units_of_lt (Nat.two_pow_pos 52)] at origin
  have left := least p
  have right := least q
  have upward : units p ≤ units q ↔ p ≤ q := units_le_iff
  have downward : units q ≤ units p ↔ q ≤ p := units_le_iff
  cases a <;> cases b <;>
    simp only [position, signedUnits, if_true, Bool.false_eq_true, if_false] <;> omega

theorem signed_beq {a b : Bool} {p q : Nat} {hp : p ≤ infinityPattern} {hq : q ≤ infinityPattern} :
    (signed a p hp == signed b q hq) = (position a p == position b q) := rfl

theorem numericLt_iff_units {a b : Bool} {p q : Nat} {hp : p ≤ infinityPattern}
    {hq : q ≤ infinityPattern} :
    (signed a p hp).numericLt (signed b q hq) = true ↔ signedUnits a p < signedUnits b q := by
  rw [← position_lt_iff]
  exact decide_eq_true_iff

/-- What is below something and what it is below have exact values, which are in this order. -/
theorem numericLt_cases {x y : Binary64} (below : x.numericLt y = true) :
    ∃ a p b q hp hq, x = signed a p hp ∧ y = signed b q hq ∧ signedUnits a p < signedUnits b q := by
  cases x with
  | nan => cases below
  | signed a p hp =>
    cases y with
    | nan => cases below
    | signed b q hq => exact ⟨a, p, b, q, hp, hq, rfl, rfl, numericLt_iff_units.mp below⟩

theorem numericLt_trans {x y z : Binary64} (first : x.numericLt y = true)
    (second : y.numericLt z = true) : x.numericLt z = true := by
  obtain ⟨a, p, b, q, hp, hq, rfl, rfl, lower⟩ := numericLt_cases first
  obtain ⟨_, _, c, r, _, hr, same, rfl, upper⟩ := numericLt_cases second
  cases same
  exact numericLt_iff_units.mpr (Int.lt_trans lower upper)

theorem numericLt_asymm {x y : Binary64} (below : x.numericLt y = true) :
    y.numericLt x = false := by
  obtain ⟨a, p, b, q, hp, hq, rfl, rfl, values⟩ := numericLt_cases below
  exact Bool.eq_false_iff.mpr fun above => Int.lt_asymm values (numericLt_iff_units.mp above)

theorem beq_of_numericLt {x y : Binary64} (below : x.numericLt y = true) : (x == y) = false := by
  obtain ⟨a, p, b, q, hp, hq, rfl, rfl, values⟩ := numericLt_cases below
  rw [signed_beq]
  exact beq_eq_false_iff_ne.mpr (Int.ne_of_lt (position_lt_iff.mpr values))

/-- What is above something is a number and is not minus infinity. -/
theorem proper_of_numericLt {x y : Binary64} (below : x.numericLt y = true) :
    y ≠ .nan ∧ y ≠ .infinity true := by
  obtain ⟨a, p, b, q, hp, hq, rfl, rfl, values⟩ := numericLt_cases below
  have positions := position_lt_iff.mpr values
  refine ⟨nofun, fun least => ?_⟩
  cases least
  cases a <;> simp only [position, if_true, Bool.false_eq_true, if_false] at positions <;> omega

/-- Of two finite numbers that are not equal one is below the other. -/
theorem numericLt_of_finite {x y : Binary64} (left : x.isFinite = true) (right : y.isFinite = true)
    (apart : (x == y) = false) (above : y.numericLt x = false) : x.numericLt y = true := by
  cases x with
  | nan => cases left
  | signed a p hp =>
    cases y with
    | nan => cases right
    | signed b q hq =>
      rw [signed_beq] at apart
      have order : ¬position b q < position a p := of_decide_eq_false above
      rcases Int.lt_trichotomy (position a p) (position b q) with below | same | beyond
      · exact decide_eq_true below
      · exact absurd same (beq_eq_false_iff_ne.mp apart)
      · exact absurd beyond order

theorem zero_numericLe {x : Binary64} (finite : x.isFinite = true)
    (low : x.numericLt .zero = false) : zero.numericLe x = true := by
  cases equal : (zero == x) with
  | true =>
    have same : zero.numericEq x = true := equal
    rw [numericLe, same, Bool.or_true]
  | false =>
    have above : zero.numericLt x = true := numericLt_of_finite rfl finite equal low
    rw [numericLe, above, Bool.true_or]

theorem numericLt_zero_of_le {x : Binary64} (low : zero.numericLe x = true) :
    x.numericLt .zero = false := by
  rcases Bool.or_eq_true_iff.mp low with below | same
  · exact numericLt_asymm below
  · refine Bool.eq_false_iff.mpr fun above => ?_
    obtain ⟨a, p, b, q, hp, hq, rfl, origin, values⟩ := numericLt_cases above
    cases origin
    have equal : position false 0 = position a p := eq_of_beq same
    exact absurd equal.symm (Int.ne_of_lt (position_lt_iff.mpr values))

/-- The total order follows the numeric one. -/
theorem compare_of_numericLt {x y : Binary64} (below : x.numericLt y = true) :
    compare x y = .lt := by
  obtain ⟨a, p, b, q, hp, hq, rfl, rfl, values⟩ := numericLt_cases below
  have positions := position_lt_iff.mpr values
  apply Int.compare_eq_lt.mpr
  cases a <;> cases b <;>
    simp only [position, rank, if_true, Bool.false_eq_true, if_false] at positions ⊢ <;> omega

end HazardJob.Binary64
