import HazardJob.Binary64.Text
import HazardJob.Proofs.Binary64.Numeral
import HazardJob.Proofs.Binary64.Rounding

/-! Numbers read back as they are written. The shortest digits of a number are those of a decimal
that rounds to it; in positional notation they are a numeral for that decimal. -/
namespace HazardJob.Binary64

section Digits

theorem digitsValue_toDigits (n : Nat) : digitsValue (Nat.toDigits 10 n) = n :=
  Nat.ofDigitChars_ten_toDigits

theorem digitsValue_padded (n zeros : Nat) :
    digitsValue (List.replicate zeros '0' ++ Nat.toDigits 10 n) = n := by
  have value := Nat.ofDigitChars_append (b := 10) (l := List.replicate zeros '0')
    (m := Nat.toDigits 10 n) 0
  rw [Nat.ofDigitChars_replicate_zero, Nat.mul_zero, Nat.ofDigitChars_ten_toDigits] at value
  exact value

theorem digitsValue_concat_zero (digits : List Char) :
    digitsValue (digits ++ ['0']) = 10 * digitsValue digits := by
  simp [digitsValue]

theorem isDigit_toDigits {n : Nat} {c : Char} (member : c ∈ Nat.toDigits 10 n) :
    c.isDigit = true := Nat.isDigit_of_mem_toDigits (by decide) (by decide) member

/-- The sign of a number as it is written. -/
def signText (negative : Bool) : List Char := if negative then ['-'] else []

theorem signText_spells (negative : Bool) : SignText negative (signText negative) := by
  cases negative with
  | true => exact .minus
  | false => exact .none

/-- Digits around a point are a numeral. -/
theorem scan_digits (negative : Bool) {whole : List Char} (decimals : List Char)
    (wholeDigits : ∀ c ∈ whole, c.isDigit = true) (some : whole ≠ [])
    (decimalDigits : ∀ c ∈ decimals, c.isDigit = true) :
    scan (signText negative ++ (whole ++ '.' :: decimals)) =
        .number (ofParts negative whole decimals 0) [] ∧
      scan (signText negative ++ whole) = .number (ofParts negative whole [] 0) [] := by
  have signed := signText_spells negative
  have full : Digits whole := ⟨some, wholeDigits⟩
  have pointed := scan_iff.mpr (.parts signed (.pointed full decimalDigits) .none)
  have plain := scan_iff.mpr (.parts signed (.whole full) .none)
  rw [List.append_nil] at pointed plain
  exact ⟨pointed, plain⟩

end Digits

section Positional

theorem dropPlaces_eq (digits places : Nat) :
    (dropPlaces digits places).2 ≤ places ∧
      digits = (dropPlaces digits places).1 * 10 ^ (places - (dropPlaces digits places).2) := by
  induction places generalizing digits with
  | zero => simp [dropPlaces]
  | succ places ih =>
    rw [dropPlaces]
    split
    · rename_i tens
      obtain ⟨fewer, same⟩ := ih (digits / 10)
      refine ⟨by omega, ?_⟩
      rw [show places + 1 - (dropPlaces (digits / 10) places).2 =
        (places - (dropPlaces (digits / 10) places).2) + 1 by omega, Nat.pow_succ, ← Nat.mul_assoc,
        ← same]
      omega
    · simp

theorem scan_placed (negative : Bool) (digits places : Nat) :
    scan (signText negative ++ placed digits places) =
      .number (ofDecimal negative digits (-places)) [] := by
  unfold placed
  dsimp only
  split
  · rename_i zero
    have all : ∀ c ∈ Nat.toDigits 10 digits, c.isDigit = true := fun _ => isDigit_toDigits
    have read := (scan_digits negative [] all Nat.toDigits_ne_nil (by simp)).2
    rw [read, ofParts, List.append_nil, digitsValue_toDigits]
    simp [zero]
  · rename_i some
    generalize padding : List.replicate (places + 1 - (Nat.toDigits 10 digits).length) '0' ++
      Nat.toDigits 10 digits = padded
    have size : places + 1 ≤ padded.length := by
      rw [← padding, List.length_append, List.length_replicate]
      omega
    have all : ∀ c ∈ padded, c.isDigit = true := by
      intro c member
      rw [← padding] at member
      rcases List.mem_append.mp member with zero | digit
      · rw [(List.mem_replicate.mp zero).2]
        rfl
      · exact isDigit_toDigits digit
    have inner : padded.take (padded.length - places) ≠ [] := by
      intro nothing
      have := congrArg List.length nothing
      rw [List.length_take] at this
      simp only [List.length_nil] at this
      omega
    have read := (scan_digits negative (padded.drop (padded.length - places))
      (fun c member => all c (List.mem_of_mem_take member)) inner
      (fun c member => all c (List.mem_of_mem_drop member))).1
    have count : (padded.drop (padded.length - places)).length = places := by
      rw [List.length_drop]
      omega
    rw [read, ofParts, List.take_append_drop, ← padding, digitsValue_padded, padding, count]
    simp

/-- A decimal in positional notation is a numeral for that decimal. -/
theorem scan_positional (negative : Bool) (d : Decimal) :
    scan (signText negative ++ d.positional) =
      .number (ofDecimal negative d.digits d.exponent) [] := by
  unfold Decimal.positional
  split
  · rename_i e exponent
    rw [scan_placed, ofDecimal_tens, exponent]
    simp
  · rename_i e exponent
    obtain ⟨fewer, same⟩ := dropPlaces_eq d.digits (e + 1)
    dsimp only
    rw [scan_placed, exponent]
    conv => rhs; rw [same, ofDecimal_tens]
    congr 2
    omega

end Positional

section Shortest

theorem round_pattern (numerator denominator : Nat) :
    ∃ pattern bounded, ∀ negative,
      round negative numerator denominator = signed negative pattern bounded :=
  ⟨_, _, fun _ => rfl⟩

/-- The sign of a decimal does not matter for its pattern. -/
theorem ofDecimal_pattern (digits : Nat) (exponent : Int) :
    ∃ pattern bounded, ∀ negative,
      ofDecimal negative digits exponent = signed negative pattern bounded := by
  simp only [ofDecimal_eq_round]
  exact round_pattern _ _

theorem readsBackAs_iff {d : Decimal} {pattern : Nat} (bounded : pattern ≤ infinityPattern) :
    d.readsBackAs pattern = true ↔
      ∀ negative, ofDecimal negative d.digits d.exponent = signed negative pattern bounded := by
  obtain ⟨found, bounded', same⟩ := ofDecimal_pattern d.digits d.exponent
  simp only [Decimal.readsBackAs, same, beq_iff_eq, signed.injEq, true_and, forall_const]

theorem neighbour?_readsBackAs {pattern : Nat} {exponent : Int} {d : Decimal}
    (found : neighbour? pattern exponent = some d) :
    d.readsBackAs pattern = true ∧ d.exponent = exponent := by
  have nearer {c : Prop} [Decidable c] {x y : Decimal}
      (low : x.readsBackAs pattern = true ∧ x.exponent = exponent)
      (high : y.readsBackAs pattern = true ∧ y.exponent = exponent) :
      (if c then x else y).readsBackAs pattern = true ∧ (if c then x else y).exponent = exponent := by
    split
    · exact low
    · exact high
  unfold neighbour? at found
  dsimp only at found
  split at found
  · rename_i low high
    rw [← Option.some.inj found]
    exact nearer ⟨low, rfl⟩ ⟨high, rfl⟩
  · rename_i low high
    rw [← Option.some.inj found]
    exact ⟨low, rfl⟩
  · rename_i low high
    rw [← Option.some.inj found]
    exact ⟨high, rfl⟩
  · cases found

theorem round_fives {pattern : Nat} (bounded : pattern ≤ infinityPattern) (negative : Bool)
    (k : Nat) : round negative (units pattern * 5 ^ k * 10 ^ 0 * 2 ^ k) (10 ^ k) =
      signed negative pattern bounded := by
  have tens : units pattern * 5 ^ k * 10 ^ 0 * 2 ^ k = units pattern * 10 ^ k := by
    rw [Nat.pow_zero, Nat.mul_one, Nat.mul_assoc, ← Nat.mul_pow]
  rw [tens]
  exact round_units negative bounded _ (Nat.pow_pos (by decide))

theorem exactDecimal_readsBackAs {pattern : Nat} (bounded : pattern ≤ infinityPattern) :
    (exactDecimal (units pattern)).readsBackAs pattern = true := by
  have up : (-1074 : Int).toNat = 0 := rfl
  have down : (- -1074 : Int).toNat = 1074 := rfl
  have digits : (exactDecimal (units pattern)).digits = units pattern * 5 ^ 1074 := rfl
  have exponent : (exactDecimal (units pattern)).exponent = -1074 := rfl
  refine (readsBackAs_iff bounded).mpr fun negative => ?_
  rw [ofDecimal_eq_round, digits, exponent, up, down]
  exact round_fives bounded negative 1074

theorem shortest_readsBackAs {pattern : Nat} (bounded : pattern ≤ infinityPattern) :
    (shortest pattern).readsBackAs pattern = true := by
  unfold shortest
  dsimp only
  cases found : (List.range 17).findSome? fun (more : Nat) =>
      neighbour? pattern (leadingExponent (units pattern) - more) with
  | none => exact exactDecimal_readsBackAs bounded
  | some d =>
    obtain ⟨more, -, neighbour⟩ := List.exists_of_findSome?_eq_some found
    exact (neighbour?_readsBackAs neighbour).1

end Shortest

/-- A finite number is read back from its text. -/
theorem scan_text {negative : Bool} {pattern : Nat} (bounded : pattern ≤ infinityPattern)
    (finite : pattern < infinityPattern) :
    scan (signed negative pattern bounded).text.toList =
      .number (signed negative pattern bounded) [] := by
  have written : (signed negative pattern bounded).text.toList =
      signText negative ++ magnitudeText pattern := by
    simp [text, signText]
  rw [written]
  unfold magnitudeText
  rw [if_neg (Nat.ne_of_lt finite)]
  split
  · rename_i zero
    subst zero
    cases negative <;> rfl
  · rw [scan_positional, (readsBackAs_iff bounded).mp (shortest_readsBackAs bounded)]

section Pointed

theorem scaled_units (m k : Nat) : m * 2 ^ (k + 1) = 2 * m * 2 ^ k := by
  rw [Nat.pow_succ', ← Nat.mul_assoc, Nat.mul_comm m 2]

theorem units_tenToSixteen : units tenToSixteen = 10 ^ 16 * 2 ^ 1074 := by
  have exponent : tenToSixteen / 2 ^ 52 - 1 = 1074 + 1 := by decide
  have mantissa : 2 * (2 ^ 52 + tenToSixteen % 2 ^ 52) = 10 ^ 16 := by decide
  rw [units_of_ge (by decide), exponent, scaled_units _ 1074, mantissa]

theorem quotient_of_mod {count bound k : Nat} (divides : count % 2 ^ k = 0)
    (below : count < bound * 2 ^ k) : ∃ n < bound, count = n * 2 ^ k :=
  ⟨count / 2 ^ k, (Nat.div_lt_iff_lt_mul (Nat.two_pow_pos k)).mpr below,
    (Nat.div_mul_cancel (Nat.dvd_of_mod_eq_zero divides)).symm⟩

/-- A whole number below 10^16 is some number of times the units of one. -/
theorem whole_of_isIntegral {negative : Bool} {pattern : Nat} {bounded : pattern ≤ infinityPattern}
    (integral : (signed negative pattern bounded).isIntegral = true)
    (small : pattern < tenToSixteen) : ∃ n < 10 ^ 16, units pattern = n * 2 ^ 1074 := by
  simp only [isIntegral, Bool.and_eq_true, beq_iff_eq] at integral
  have below : units pattern < 10 ^ 16 * 2 ^ 1074 :=
    Nat.lt_of_lt_of_eq (units_lt small) units_tenToSixteen
  exact quotient_of_mod (k := 1074) integral.2 below

theorem round_whole (negative : Bool) {pattern n k : Nat} (bounded : pattern ≤ infinityPattern)
    (whole : units pattern = n * 2 ^ k) :
    round negative (n * 10 ^ 0 * 2 ^ k) (10 ^ 0) = signed negative pattern bounded := by
  have unscaled := round_units negative bounded 1 (by decide)
  rwa [Nat.mul_one, whole, ← Nat.mul_one n, ← Nat.pow_zero 10] at unscaled

theorem ofDecimal_whole (negative : Bool) {pattern n : Nat} (bounded : pattern ≤ infinityPattern)
    (whole : units pattern = n * 2 ^ 1074) :
    ofDecimal negative n 0 = signed negative pattern bounded := by
  rw [ofDecimal_eq_round]
  exact round_whole negative (k := 1074) bounded whole

theorem quotient_of_whole {count n k : Nat} (whole : count = n * 2 ^ k) : count / 2 ^ k = n := by
  rw [whole, Nat.mul_div_cancel _ (Nat.two_pow_pos _)]

theorem neighbour?_whole {pattern n : Nat} (bounded : pattern ≤ infinityPattern)
    (whole : units pattern = n * 2 ^ 1074) : neighbour? pattern 0 ≠ none := by
  have quotient : units pattern / (2 ^ 1074 * 10 ^ 0) = n := by
    simp only [Nat.pow_zero, Nat.mul_one]
    exact quotient_of_whole (k := 1074) whole
  have low : Decimal.readsBackAs ⟨units pattern / (2 ^ 1074 * 10 ^ 0), .ofNat 0⟩ pattern = true := by
    rw [quotient, readsBackAs_iff bounded]
    exact fun negative => ofDecimal_whole negative bounded whole
  show neighbour? pattern (.ofNat 0) ≠ none
  unfold neighbour?
  dsimp only
  rw [low]
  split
  · exact Option.some_ne_none _
  · exact Option.some_ne_none _
  · contradiction
  · contradiction

theorem mem_of_range_eq {size more i : Nat} {before after : List Nat}
    (split : List.range size = before ++ more :: after) (less : i < more) : i ∈ before := by
  have bounded : before.length < size := by
    have := congrArg List.length split
    simp only [List.length_range, List.length_append, List.length_cons] at this
    omega
  have here : (List.range size)[before.length]? = some more := by
    rw [split]
    simp
  rw [List.getElem?_range bounded] at here
  have place : before.length = more := Option.some.inj here
  have there : (List.range size)[i]? = before[i]? := by
    rw [split, List.getElem?_append_left (by omega)]
  rw [List.getElem?_range (by omega)] at there
  exact List.mem_of_getElem? there.symm

/-- The digits of a whole number below 10^16 are found before the grids get finer than one. -/
theorem shortest_exponent {pattern n : Nat} (bounded : pattern ≤ infinityPattern)
    (whole : units pattern = n * 2 ^ 1074) (some : n ≠ 0) (small : n < 10 ^ 16) :
    0 ≤ (shortest pattern).exponent := by
  have digits : digitCount n - 1 < 17 := by
    have count := (Nat.length_toDigits_le_iff (n := n) (by decide : 1 < 10) (by decide : 0 < 16)).mpr small
    unfold digitCount
    omega
  have lead : leadingExponent (units pattern) = (digitCount n - 1 : Nat) := by
    have positive : 0 < digitCount n := Nat.length_toDigits_pos
    unfold leadingExponent
    dsimp only
    rw [quotient_of_whole (k := 1074) whole, if_neg some]
    omega
  unfold shortest
  rw [lead]
  dsimp only
  cases found : (List.range 17).findSome? fun (more : Nat) =>
      neighbour? pattern ((digitCount n - 1 : Nat) - more) with
  | none =>
    have missed := List.findSome?_eq_none_iff.mp found (digitCount n - 1) (by simpa using digits)
    rw [Int.sub_self] at missed
    exact absurd missed (neighbour?_whole bounded whole)
  | some d =>
    obtain ⟨before, more, after, split, neighbour, missed⟩ := List.findSome?_eq_some_iff.mp found
    have exponent := (neighbour?_readsBackAs neighbour).2
    have coarse : more ≤ digitCount n - 1 := by
      refine Nat.le_of_not_lt fun finer => ?_
      have earlier := mem_of_range_eq split finer
      have none := missed _ earlier
      rw [Int.sub_self] at none
      exact neighbour?_whole bounded whole none
    simp only [Option.getD_some, exponent]
    omega

/-- A whole number below 10^16 is written as whole digits. -/
theorem magnitudeText_whole {negative : Bool} {pattern : Nat} (bounded : pattern ≤ infinityPattern)
    (finite : pattern < infinityPattern)
    (integral : (signed negative pattern bounded).isIntegral = true)
    (small : pattern < tenToSixteen) :
    ∃ m, magnitudeText pattern = Nat.toDigits 10 m ∧
      ofDecimal negative m 0 = signed negative pattern bounded := by
  obtain ⟨n, below, whole⟩ := whole_of_isIntegral integral small
  unfold magnitudeText
  rw [if_neg (Nat.ne_of_lt finite)]
  split
  · rename_i zero
    subst zero
    exact ⟨0, rfl, rfl⟩
  · rename_i full
    have some : n ≠ 0 := by
      rintro rfl
      have positive := units_pos (Nat.pos_of_ne_zero full)
      simp only [whole, Nat.zero_mul, Nat.lt_irrefl] at positive
    have coarse := shortest_exponent bounded whole some below
    have reads := (readsBackAs_iff bounded).mp (shortest_readsBackAs bounded) negative
    unfold Decimal.positional
    split
    · rename_i e exponent
      refine ⟨(shortest pattern).digits * 10 ^ e, rfl, ?_⟩
      rw [ofDecimal_tens, ← reads, exponent]
      congr 1
      simp
    · rename_i e exponent
      rw [exponent] at coarse
      exact absurd coarse (by simp)

/-- A finite number is read back from the text that messages and names give it. -/
theorem scan_pointedText {negative : Bool} {pattern : Nat} (bounded : pattern ≤ infinityPattern)
    (finite : pattern < infinityPattern) :
    scan (signed negative pattern bounded).pointedText.toList =
      .number (signed negative pattern bounded) [] := by
  unfold pointedText
  dsimp only
  split
  · rename_i short
    simp only [Bool.and_eq_true, decide_eq_true_eq] at short
    obtain ⟨m, digits, value⟩ := magnitudeText_whole bounded finite short.1 short.2
    have written : ((signed negative pattern bounded).text ++ ".0").toList =
        signText negative ++ (Nat.toDigits 10 m ++ '.' :: ['0']) := by
      simp [text, signText, digits]
    have all : ∀ c ∈ Nat.toDigits 10 m, c.isDigit = true := fun _ => isDigit_toDigits
    have read := (scan_digits negative ['0'] all Nat.toDigits_ne_nil (by simp)).1
    rw [written, read, ofParts, digitsValue_concat_zero, digitsValue_toDigits, ofDecimal_ten, ← value]
    rfl
  · exact scan_text bounded finite

end Pointed

end HazardJob.Binary64
