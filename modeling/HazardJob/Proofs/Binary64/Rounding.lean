import HazardJob.Binary64.Basic

/-! Rounding to the nearest number. What lies on the grid stays where it is, and a decimal denotes
the same number however its digits and its exponent share the power of ten. -/
namespace HazardJob.Binary64

theorem units_of_lt {p : Nat} (small : p < 2 ^ 52) : units p = p := if_pos small

theorem units_of_ge {p : Nat} (large : 2 ^ 52 ≤ p) :
    units p = (2 ^ 52 + p % 2 ^ 52) * 2 ^ (p / 2 ^ 52 - 1) := if_neg (Nat.not_lt.mpr large)

theorem units_lt_succ (p : Nat) : units p < units (p + 1) := by
  rcases Nat.lt_or_ge (p + 1) (2 ^ 52) with below | above
  · rw [units_of_lt (by omega), units_of_lt below]
    exact Nat.lt_succ_self p
  rcases Nat.lt_or_ge p (2 ^ 52) with small | large
  · have edge : p + 1 = 2 ^ 52 := by omega
    rw [units_of_lt small, edge]
    exact small
  rw [units_of_ge large, units_of_ge above]
  have positive (k : Nat) : 0 < 2 ^ k := Nat.two_pow_pos k
  by_cases wraps : p % 2 ^ 52 = 2 ^ 52 - 1
  · have quotient : (p + 1) / 2 ^ 52 - 1 = (p / 2 ^ 52 - 1) + 1 := by omega
    have remainder : (p + 1) % 2 ^ 52 = 0 := by omega
    have double : 2 ^ (p / 2 ^ 52 - 1 + 1) = 2 * 2 ^ (p / 2 ^ 52 - 1) := Nat.pow_succ'
    have scale := positive (p / 2 ^ 52 - 1)
    rw [quotient, remainder, wraps, double]
    omega
  · have quotient : (p + 1) / 2 ^ 52 = p / 2 ^ 52 := by omega
    have remainder : (p + 1) % 2 ^ 52 = p % 2 ^ 52 + 1 := by omega
    rw [quotient, remainder]
    exact Nat.mul_lt_mul_of_pos_right (by omega) (positive _)

theorem units_lt {p q : Nat} (below : p < q) : units p < units q := by
  induction below with
  | refl => exact units_lt_succ p
  | step _ ih => exact Nat.lt_trans ih (units_lt_succ _)

theorem units_le_iff {p q : Nat} : units p ≤ units q ↔ p ≤ q := by
  constructor
  · intro ordered
    exact Nat.le_of_not_lt fun above => absurd (units_lt above) (Nat.not_lt.mpr ordered)
  · intro ordered
    rcases Nat.lt_or_eq_of_le ordered with below | same
    · exact Nat.le_of_lt (units_lt below)
    · exact Nat.le_of_eq (congrArg units same)

theorem units_pos {p : Nat} (positive : 0 < p) : 0 < units p := by
  have below := units_lt positive
  rwa [units_of_lt (by decide)] at below

theorem floorPattern_of_lt {n : Nat} (small : n < 2 ^ 53) : floorPattern n = n := by
  have shift : n.log2 - 52 = 0 := by
    by_cases zero : n = 0
    · simp [zero]
    · have := (Nat.log2_lt zero).mpr small
      omega
  simp [floorPattern, shift]

theorem log2_scaled {m k : Nat} (low : 2 ^ 52 ≤ m) (high : m < 2 ^ 53) :
    (m * 2 ^ k).log2 = 52 + k := by
  have positive := Nat.two_pow_pos k
  have full : m * 2 ^ k ≠ 0 := Nat.mul_ne_zero (by omega) (by omega)
  refine (Nat.log2_eq_iff full).mpr ⟨?_, ?_⟩
  · rw [Nat.pow_add]
    exact Nat.mul_le_mul_right _ low
  · rw [show 52 + k + 1 = 53 + k by omega, Nat.pow_add]
    exact Nat.mul_lt_mul_of_pos_right high positive

theorem floorPattern_units (p : Nat) : floorPattern (units p) = p := by
  rcases Nat.lt_or_ge p (2 ^ 52) with small | large
  · rw [units_of_lt small, floorPattern_of_lt (by omega)]
  · rw [units_of_ge large]
    have shift : ((2 ^ 52 + p % 2 ^ 52) * 2 ^ (p / 2 ^ 52 - 1)).log2 - 52 = p / 2 ^ 52 - 1 := by
      rw [log2_scaled (by omega) (by omega)]
      omega
    unfold floorPattern
    rw [shift]
    dsimp only
    rw [Nat.mul_div_cancel _ (Nat.two_pow_pos _)]
    omega

theorem infinity_le_floorPattern {n k : Nat} (exponent : 2098 ≤ k) (large : 2 ^ k ≤ n) :
    infinityPattern ≤ floorPattern n := by
  have full : n ≠ 0 := Nat.ne_of_gt (Nat.lt_of_lt_of_le (Nat.two_pow_pos k) large)
  have leading : 2098 ≤ n.log2 := Nat.le_trans exponent ((Nat.le_log2 full).mpr large)
  have mantissa : 2 ^ 52 ≤ n / 2 ^ (n.log2 - 52) := by
    rw [Nat.le_div_iff_mul_le (Nat.two_pow_pos _), ← Nat.pow_add,
      show 52 + (n.log2 - 52) = n.log2 by omega]
    exact Nat.log2_self_le full
  unfold floorPattern infinityPattern
  dsimp only
  omega

theorem nearestPattern_ge_floor (numerator denominator : Nat) :
    floorPattern (numerator / denominator) ≤ nearestPattern numerator denominator := by
  unfold nearestPattern
  dsimp only
  repeat' split
  all_goals omega

/-- A number of units that has a pattern rounds to that pattern. -/
theorem nearestPattern_units (p : Nat) {denominator : Nat} (positive : 0 < denominator) :
    nearestPattern (units p * denominator) denominator = p := by
  have above := Nat.mul_lt_mul_of_pos_left (units_lt_succ p) positive
  have commuted : 2 * (units p * denominator) =
      denominator * units p + denominator * units p := by
    rw [Nat.two_mul, Nat.mul_comm]
  unfold nearestPattern
  rw [Nat.mul_div_cancel _ positive, floorPattern_units]
  dsimp only
  rw [if_pos (by rw [commuted, Nat.mul_add]; omega)]

theorem nearestPattern_scale (numerator denominator : Nat) {scale : Nat} (positive : 0 < scale) :
    nearestPattern (scale * numerator) (scale * denominator) =
      nearestPattern numerator denominator := by
  have twice : 2 * (scale * numerator) = scale * (2 * numerator) := Nat.mul_left_comm ..
  unfold nearestPattern
  rw [Nat.mul_div_mul_left _ _ positive, twice]
  dsimp only
  simp only [Nat.mul_assoc, Nat.mul_lt_mul_left positive]

/-- Less than half a unit rounds to zero. -/
theorem nearestPattern_small {numerator denominator : Nat} (small : 2 * numerator < denominator) :
    nearestPattern numerator denominator = 0 := by
  have floor : floorPattern 0 = 0 := by decide
  have first : units 0 + units 1 = 1 := by decide
  unfold nearestPattern
  rw [Nat.div_eq_of_lt (by omega), floor]
  dsimp only
  rw [first, Nat.mul_one, if_pos small]

theorem round_scale (negative : Bool) (numerator denominator : Nat) {scale : Nat}
    (positive : 0 < scale) :
    round negative (scale * numerator) (scale * denominator) =
      round negative numerator denominator := by
  simp only [round, nearestPattern_scale numerator denominator positive]

theorem round_units (negative : Bool) {p : Nat} (bounded : p ≤ infinityPattern)
    (denominator : Nat) (positive : 0 < denominator) :
    round negative (units p * denominator) denominator = signed negative p bounded := by
  simp only [round, nearestPattern_units p positive, Nat.min_eq_left bounded]

theorem round_small (negative : Bool) {numerator denominator : Nat}
    (small : 2 * numerator < denominator) :
    round negative numerator denominator = signed negative 0 (Nat.zero_le _) := by
  simp only [round, nearestPattern_small small, Nat.zero_min]

theorem round_large (negative : Bool) {numerator k : Nat} (exponent : 2098 ≤ k)
    (large : 2 ^ k ≤ numerator) : round negative numerator 1 = infinity negative := by
  have beyond := nearestPattern_ge_floor numerator 1
  rw [Nat.div_one] at beyond
  simp only [round, infinity,
    Nat.min_eq_right (Nat.le_trans (infinity_le_floorPattern exponent large) beyond)]

theorem two_pow_le_ten_pow (e : Nat) : 2 ^ (3 * e) ≤ 10 ^ e := by
  rw [Nat.pow_mul]
  exact Nat.pow_le_pow_left (by decide) e

theorem two_pow_add_le {a n : Nat} (k : Nat) (bound : 2 ^ a ≤ n) : 2 ^ (a + k) ≤ n * 2 ^ k := by
  rw [Nat.pow_add]
  exact Nat.mul_le_mul_right _ bound

theorem two_mul_lt_two_pow {a n : Nat} (k : Nat) (bound : n < 2 ^ a) :
    2 * (n * 2 ^ k) < 2 ^ (a + (k + 1)) := by
  rw [Nat.mul_left_comm, ← Nat.pow_succ', Nat.pow_add]
  exact Nat.mul_lt_mul_of_pos_right bound (Nat.two_pow_pos _)

/-- The exponents that are answered at once are answered as the computation would. -/
theorem ofDecimal_eq_round (negative : Bool) (digits : Nat) (exponent : Int) :
    ofDecimal negative digits exponent =
      round negative (digits * 10 ^ exponent.toNat * 2 ^ 1074) (10 ^ (-exponent).toNat) := by
  unfold ofDecimal
  split
  · rename_i zero
    simp only [zero, Nat.zero_mul]
    exact (round_small negative (Nat.pow_pos (by decide))).symm
  rename_i full
  cases exponent with
  | ofNat e =>
    have power : (-Int.ofNat e).toNat = 0 := by simp
    have same : (Int.ofNat e).toNat = e := rfl
    rw [power, same, Nat.pow_zero]
    dsimp only
    split
    · rename_i far
      have whole : 2 ^ (3 * e) ≤ digits * 10 ^ e := Nat.le_trans (two_pow_le_ten_pow e)
        (Nat.le_mul_of_pos_left _ (Nat.pos_of_ne_zero full))
      exact (round_large negative (by omega) (two_pow_add_le 1074 whole)).symm
    · rfl
  | negSucc e =>
    have power : (-Int.negSucc e).toNat = e + 1 := rfl
    have none : (Int.negSucc e).toNat = 0 := rfl
    rw [power, none, Nat.pow_zero, Nat.mul_one]
    dsimp only
    split
    · rename_i far
      have size : digits < 2 ^ (digits.log2 + 1) := Nat.lt_log2_self
      have scaled := two_mul_lt_two_pow 1074 size
      have tens : 2 ^ (digits.log2 + 1 + (1074 + 1)) ≤ 10 ^ (e + 1) :=
        Nat.le_trans (Nat.pow_le_pow_right (by decide) (by omega)) (two_pow_le_ten_pow (e + 1))
      exact (round_small negative (Nat.lt_of_lt_of_le scaled tens)).symm
    · rfl

/-- A zero among the digits is worth one in the exponent. -/
theorem ofDecimal_ten (negative : Bool) (digits : Nat) (exponent : Int) :
    ofDecimal negative (10 * digits) exponent = ofDecimal negative digits (exponent + 1) := by
  rw [ofDecimal_eq_round, ofDecimal_eq_round]
  generalize 2 ^ 1074 = unit
  rcases Int.lt_or_le exponent 0 with below | above
  · have up : (exponent + 1).toNat = 0 := by omega
    have none : exponent.toNat = 0 := by omega
    have down : (-exponent).toNat = (-(exponent + 1)).toNat + 1 := by omega
    rw [up, none, down, Nat.pow_succ', Nat.mul_assoc, Nat.mul_assoc, Nat.mul_assoc,
      round_scale negative _ _ (by decide)]
  · have up : (exponent + 1).toNat = exponent.toNat + 1 := by omega
    have none : (-exponent).toNat = 0 := by omega
    have gone : (-(exponent + 1)).toNat = 0 := by omega
    rw [up, none, gone, Nat.pow_succ', Nat.mul_left_comm digits, ← Nat.mul_assoc 10]

theorem ofDecimal_tens (negative : Bool) (digits : Nat) (exponent : Int) (tens : Nat) :
    ofDecimal negative (digits * 10 ^ tens) exponent =
      ofDecimal negative digits (exponent + tens) := by
  induction tens generalizing exponent with
  | zero => simp
  | succ tens ih =>
    rw [Nat.pow_succ', Nat.mul_left_comm, ofDecimal_ten, ih]
    congr 1
    omega

end HazardJob.Binary64
