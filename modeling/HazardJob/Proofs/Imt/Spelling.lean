import HazardJob.Json.Codec
import HazardJob.Proofs.Imt.Grammar

/-! Spellings of an intensity measure. However numbers are written, and with layout or without, texts of a
family with numerically equal arguments name one measure, but for the sign of a zero as second argument,
which the name shows. The name is itself a spelling of the measure, unless it shows minus infinity. -/
namespace HazardJob.Imt

/-- Numerically equal, or both the value that is not a number. -/
def SameNumber (x y : Binary64) : Prop := x.numericEq y = true ∨ x = .nan ∧ y = .nan

section Names

theorem scalar_name_injective {a b : ScalarMeasure} (same : a.name = b.name) : a = b := by
  have found := b.ofName?_name
  rw [← same, ScalarMeasure.ofName?_name] at found
  exact Option.some.inj found

theorem period_name_injective {a b : PeriodFamily} (same : a.name = b.name) : a = b := by
  have found := b.ofName?_name
  rw [← same, PeriodFamily.ofName?_name] at found
  exact Option.some.inj found

theorem period_eq_of_value {p q : Period} (same : p.value = q.value) : p = q := by
  have found := q.ofNumber?_value
  rw [← same, Period.ofNumber?_value] at found
  exact Option.some.inj found

end Names

section Agreement

theorem withoutMinusZero_signed (negative : Bool) (pattern : Nat)
    (bounded : pattern ≤ infinityPattern) :
    (Binary64.signed negative pattern bounded).withoutMinusZero =
      .signed (negative && pattern != 0) pattern bounded := by
  cases negative <;> cases pattern <;> rfl

theorem withoutMinusZero_eq_infinity {x : Binary64} :
    x.withoutMinusZero = .infinity true ↔ x = .infinity true := by
  cases x with
  | nan => exact Iff.rfl
  | signed negative pattern bounded =>
    rw [withoutMinusZero_signed]
    simp only [Binary64.infinity, Binary64.signed.injEq, Bool.and_eq_true, bne_iff_ne]
    constructor
    · rintro ⟨⟨minus, -⟩, large⟩
      exact ⟨minus, large⟩
    · rintro ⟨minus, rfl⟩
      exact ⟨⟨minus, by decide⟩, rfl⟩

theorem SameNumber.withoutMinusZero {x y : Binary64} (same : SameNumber x y) :
    x.withoutMinusZero = y.withoutMinusZero := by
  rcases same with equal | ⟨rfl, rfl⟩
  · cases x with
    | nan => cases equal
    | signed a p hp =>
      cases y with
      | nan => cases equal
      | signed b q hq =>
        have positions : Binary64.position a p = Binary64.position b q := eq_of_beq equal
        have magnitudes : p = q := by
          cases a <;> cases b <;>
            simp only [Binary64.position, if_true, Bool.false_eq_true, if_false] at positions <;> omega
        subst magnitudes
        rw [withoutMinusZero_signed, withoutMinusZero_signed]
        cases a <;> cases b <;>
          simp only [Binary64.position, if_true, Bool.false_eq_true, if_false] at positions
        · rfl
        · obtain rfl : p = 0 := by omega
          rfl
        · obtain rfl : p = 0 := by omega
          rfl
        · rfl
  · rfl

theorem period_eq_of_same {p q : Period} {x y : Binary64} (first : p.value = x.withoutMinusZero)
    (second : q.value = y.withoutMinusZero) (same : SameNumber x y) : p = q :=
  period_eq_of_value (first.trans (same.withoutMinusZero.trans second.symm))

/-- Measures of one family with numerically equal arguments are the same if the second arguments are,
down to the sign. -/
theorem Denotes.eq_iff {a b : Imt} {family : String} {xs ys : Option (List Binary64)}
    (first : Denotes a family xs) (second : Denotes b family ys)
    (same : List.Forall₂ SameNumber (xs.getD []) (ys.getD [])) :
    a = b ↔ (xs.getD [])[1]? = (ys.getD [])[1]? := by
  cases first with
  | scalar measure =>
    generalize named : measure.name = family at second
    cases second with
    | scalar other =>
      rw [scalar_name_injective named]
      exact iff_of_true rfl rfl
    | spectral other value => cases same
    | inelastic y value => cases same
  | spectral known value =>
    generalize named : known.name = family at second
    cases second with
    | scalar measure => cases same
    | spectral other value' =>
      obtain ⟨equal, -⟩ := List.forall₂_cons.mp same
      rw [period_name_injective named, period_eq_of_same value value' equal]
      exact iff_of_true rfl rfl
    | inelastic y value' => cases (List.forall₂_cons.mp same).2
  | inelastic y value =>
    generalize named : inelasticFamily = family at second
    cases second with
    | scalar measure => cases same
    | spectral other value' => cases (List.forall₂_cons.mp same).2
    | inelastic y' value' =>
      obtain ⟨equal, -⟩ := List.forall₂_cons.mp same
      rw [period_eq_of_same value value' equal]
      simp

end Agreement

/-- Two texts of a family with numerically equal arguments that are read are the same measure, with one
name and one fingerprint, exactly if no zero as second argument has another sign in one than in the
other. -/
theorem spellings_agree_iff {s t family : String} {xs ys : Option (List Binary64)} {a b : Imt}
    (first : Calls s family xs) (second : Calls t family ys) (readFirst : ofText s = .ok a)
    (readSecond : ofText t = .ok b)
    (same : List.Forall₂ SameNumber (xs.getD []) (ys.getD [])) :
    (compare a b = .eq ∧ (a == b) = true ∧ a.name = b.name ∧ a.fingerprint = b.fingerprint) ↔
      (xs.getD [])[1]? = (ys.getD [])[1]? := by
  rw [← (denotes_of_ofText first readFirst).eq_iff (denotes_of_ofText second readSecond) same]
  constructor
  · rintro ⟨-, equal, -, -⟩
    exact eq_of_beq equal
  · rintro rfl
    exact ⟨Std.compare_eq_iff_eq.mpr rfl, beq_self_eq_true a, rfl, rfl⟩

theorem spellings_agree_exponent : ∃ a b,
    ofText " SDi( -0 , +2.50 )" = .ok a ∧ ofText "SDi(0e7,25E-1)" = .ok b ∧
      compare a b = .eq ∧ (a == b) = true ∧ a.name = b.name ∧ a.fingerprint = b.fingerprint := by
  let strength : Binary64 := .ofDecimal false 25 (-1)
  have first : Calls " SDi( -0 , +2.50 )" "SDi" (some [.ofDecimal true 0 0, strength]) :=
    readAll_call_iff.mp (by decide +kernel)
  have second : Calls "SDi(0e7,25E-1)" "SDi" (some [.zero, strength]) :=
    readAll_call_iff.mp (by decide +kernel)
  have readFirst : ofText " SDi( -0 , +2.50 )" = .ok (.inelastic .zero strength) := by
    decide +kernel
  have readSecond : ofText "SDi(0e7,25E-1)" = .ok (.inelastic .zero strength) := by
    decide +kernel
  have same : List.Forall₂ SameNumber [.ofDecimal true 0 0, strength] [.zero, strength] :=
    .cons (.inl (by decide +kernel)) (.cons (.inl (by decide +kernel)) .nil)
  exact ⟨_, _, readFirst, readSecond,
    (spellings_agree_iff first second readFirst readSecond same).mpr rfl⟩

/-- A strength of minus zero makes another measure than a strength of zero: one stands before the other,
and their names differ, although both are said to have zero as second argument. -/
theorem spellings_disagree_zero :
    ¬∀ (s t family : String) (xs ys : List Binary64) (a b : Imt), Calls s family (some xs) →
      Calls t family (some ys) → ofText s = .ok a → ofText t = .ok b →
      List.Forall₂ (fun x y : Binary64 => x.numericEq y = true) xs ys →
      (a == b) = true ∧ a.name = b.name ∧ a.fingerprint = b.fingerprint := by
  intro all
  let one : Binary64 := .ofDecimal false 1 0
  have first : Calls "SDi(1,-0)" "SDi" (some [one, .ofDecimal true 0 0]) :=
    readAll_call_iff.mp (by decide +kernel)
  have second : Calls "SDi(1,0)" "SDi" (some [one, .zero]) :=
    readAll_call_iff.mp (by decide +kernel)
  have readFirst : ofText "SDi(1,-0)" =
      .ok (.inelastic ⟨0x3FF0000000000000, by decide⟩ (.ofDecimal true 0 0)) := by decide +kernel
  have readSecond : ofText "SDi(1,0)" = .ok (.inelastic ⟨0x3FF0000000000000, by decide⟩ .zero) := by
    decide +kernel
  have same : List.Forall₂ (fun x y : Binary64 => x.numericEq y = true)
      [one, .ofDecimal true 0 0] [one, .zero] :=
    .cons (by decide +kernel) (.cons (by decide +kernel) .nil)
  have equal := (all _ _ _ _ _ _ _ first second readFirst readSecond same).1
  revert equal
  decide +kernel

/-- A measure is read back from its name, and from its form in JSON, exactly if its second argument is
not minus infinity. -/
theorem name_stable_iff (imt : Imt) :
    (∃ again, ofText imt.name = .ok again ∧ (again == imt) = true ∧ again.name = imt.name) ∧
        ofJson imt.toJson = .ok imt ↔
      imt.secondary ≠ some (.infinity true) := by
  have condition : imt.Readable ↔ imt.secondary ≠ some (.infinity true) := by
    cases imt with
    | scalar measure => simp [Readable, secondary]
    | spectral known period => simp [Readable, secondary]
    | inelastic period strength =>
      rw [secondary, ne_eq, Option.some.injEq, withoutMinusZero_eq_infinity]
      rfl
  rw [← condition]
  constructor
  · rintro ⟨⟨again, read, equal, -⟩, -⟩
    rw [eq_of_beq equal] at read
    exact ofText_name_iff.mp read
  · intro readable
    have read := ofText_name readable
    refine ⟨⟨imt, read, beq_self_eq_true imt, rfl⟩, ?_⟩
    show (ofText imt.name).mapError some = .ok imt
    rw [read]
    rfl

/-- The yield strength may be too large for a number; the name then shows an infinity that is not read
below zero. -/
theorem name_unstable_infinity :
    ¬∀ (text : String) (a : Imt), ofText text = .ok a →
      ∃ b, ofText a.name = .ok b ∧ (b == a) = true ∧ b.name = a.name := by
  intro all
  have read : ofText "SDi(1,-1e999)" =
      .ok (.inelastic ⟨0x3FF0000000000000, by decide⟩ (.infinity true)) := by decide +kernel
  obtain ⟨b, again, -, -⟩ := all _ _ read
  rw [ofText_name_unreadable (by decide)] at again
  cases again

end HazardJob.Imt
