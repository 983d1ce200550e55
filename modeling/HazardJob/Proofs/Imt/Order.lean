import HazardJob.Proofs.Binary64.Order
import HazardJob.Proofs.Imt.Name

/-! The order of intensity measures. It follows the periods, and measures that stand at the same
place in it are the same: the name tells a measure apart from every other one. A spectral
acceleration is made from its period and read from its name alike. -/
namespace HazardJob

namespace Period

/-- A period is told by what it is written as in a name. -/
theorem eq_of_pointedText {p q : Period} (same : p.value.pointedText = q.value.pointedText) :
    p = q := by
  have read (r : Period) : Binary64.scan r.value.pointedText.toList = .number r.value [] :=
    Binary64.scan_pointedText _ r.finite
  have scanned := read p
  rw [same, read q] at scanned
  have values : q.value = p.value := (Binary64.Scan.number.inj scanned).1
  have found := q.ofNumber?_value
  rw [values, ofNumber?_value] at found
  exact Option.some.inj found

/-- Periods are the finite numbers that are not below zero. -/
theorem isSome_ofNumber?_iff {x : Binary64} :
    (ofNumber? x).isSome = true ↔ x.isFinite = true ∧ x.numericLt .zero = false := by
  cases x with
  | nan => simp [ofNumber?, Binary64.isFinite]
  | signed negative pattern bounded =>
    have low : (Binary64.signed negative pattern bounded).numericLt .zero = true ↔
        negative = true ∧ pattern ≠ 0 := by
      cases negative <;> simp [Binary64.numericLt, Binary64.zero, Binary64.position]
      omega
    rw [← Bool.not_eq_true, low]
    by_cases finite : pattern < infinityPattern
    · cases negative <;> by_cases zero : pattern = 0 <;>
        simp [ofNumber?, Binary64.isFinite, finite, zero]
    · simp [ofNumber?, Binary64.isFinite, finite]

end Period

namespace Imt

section Order

theorem eq_of_name {a b : Imt} (readable : a.Readable) (same : a.name = b.name) : a = b := by
  have read := ofText_name readable
  by_cases other : b.Readable
  · rw [same, ofText_name other] at read
    exact (Except.ok.inj read).symm
  · rw [same, ofText_name_unreadable other] at read
    cases read

/-- The name tells a measure apart from every other one. -/
theorem name_injective {a b : Imt} (same : a.name = b.name) : a = b := by
  by_cases readable : a.Readable
  · exact eq_of_name readable same
  by_cases other : b.Readable
  · exact (eq_of_name other same.symm).symm
  -- Only a second argument of minus infinity cannot be read, so the periods decide.
  cases a with
  | inelastic p strength =>
    cases b with
    | inelastic q limit =>
      rw [Decidable.not_not.mp readable, Decidable.not_not.mp other] at same ⊢
      have periods : p.value.pointedText = q.value.pointedText := by simpa [name] using same
      rw [Period.eq_of_pointedText periods]
    | scalar measure => exact absurd trivial other
    | spectral known q => exact absurd trivial other
  | scalar measure => exact absurd trivial readable
  | spectral known p => exact absurd trivial readable

theorem name_eq_of_compare {a b : Imt} (same : compare a b = .eq) : a.name = b.name :=
  Std.compare_eq_iff_eq.mp (Ordering.then_eq_eq.mp (Ordering.then_eq_eq.mp same).2).1

instance : Std.LawfulEqOrd Imt where
  eq_of_compare same := name_injective (name_eq_of_compare same)

theorem compare_of_period {a b : Imt} (below : a.period.numericLt b.period = true) :
    compare a b = .lt := by
  have periods : compare a.period b.period = .lt := Binary64.compare_of_numericLt below
  show (compare a.period b.period).then _ = .lt
  rw [periods]
  rfl

theorem isLE_total (a b : Imt) : (compare a b).isLE = true ∨ (compare b a).isLE = true := by
  have turned : compare b a = (compare a b).swap := Std.OrientedOrd.eq_swap
  rw [turned]
  cases compare a b <;> simp

end Order

section Acceleration

open Reading

theorem sa_ok_iff {x : Binary64} :
    (∃ imt, sa x = .ok imt) ↔ x.isFinite = true ∧ x.numericLt .zero = false := by
  rw [← Period.isSome_ofNumber?_iff]
  unfold sa spectral?
  cases Period.ofNumber? x <;> simp

/-- The name of the family with a number in parentheses is read as what the number makes. -/
theorem ofText_acceleration {x : Binary64} (proper : x ≠ .infinity true) :
    ofText ("SA(" ++ x.text ++ ")") = sa x := by
  have written : ("SA(" ++ x.text ++ ")").toList =
      "SA".toList ++ '(' :: (x.text.toList ++ [')']) := by simp
  have plain : ∀ c ∈ ("SA(" ++ x.text ++ ")").toList, Text.isBlank c = false := by
    intro c member
    rw [written] at member
    apply isBlank_of_isNameChar
    simp only [List.mem_append, List.mem_cons, List.not_mem_nil, or_false] at member
    rcases member with family | rfl | number | rfl
    · simp [isNameChar, isAlphanum_of_isIdentifier (s := "SA".toList) rfl c family]
    · rfl
    · exact isNameChar_of_isNumberChar (Binary64.mem_text number)
    · rfl
  have trimmed := (Text.Bare.of_forall plain).trimBy
  have read : call ("SA(" ++ x.text ++ ")").toList = .ok ("SA", some [x]) [] := by
    rw [written, call_listed rfl (.one (numberText_text proper)), String.ofList_toList]
  have known : PeriodFamily.ofName? "SA" = some .sa := rfl
  unfold ofText
  simp only [Text.trim, trimmed, readAll, read, ofCall?, known, Option.getD_some,
    String.ofList_toList]
  rfl

/-- Reading finds an acceleration exactly where a number makes one, and finds the same. -/
theorem ofText_acceleration_ok_iff {x : Binary64} {imt : Imt} :
    ofText ("SA(" ++ x.text ++ ")") = .ok imt ↔ sa x = .ok imt := by
  by_cases proper : x = .infinity true
  · -- Minus infinity is written in a way that no number is read from.
    have unread : ofText ("SA(" ++ (Binary64.infinity true).text ++ ")") =
        .error (.unknown "SA(-inf)") := rfl
    have unmade : sa (.infinity true) = .error (.invalid "SA(-inf)" .badPeriod) := rfl
    rw [proper, unread, unmade]
    simp
  · rw [ofText_acceleration proper]

end Acceleration

/-- The order of measures is total, antisymmetric and transitive, and it follows the periods. To be
equal, to stand at one place in it and to have one name are the same, and what identifies a measure
is then the same too. Spectral accelerations exist at the finite numbers that are not below zero, and
are read from their names with the digits of these numbers, and from no others. -/
theorem numeric_order (a b c : Imt) (x : Binary64) :
    (compare a b = (compare b a).swap ∧
      ((compare a b).isLE = true ∨ (compare b a).isLE = true)) ∧
    ((compare a b).isLE = true → (compare b a).isLE = true → a = b) ∧
    ((compare a b).isLE = true → (compare b c).isLE = true → (compare a c).isLE = true) ∧
    (a.period.numericLt b.period = true → compare a b = .lt) ∧
    ((a == b) = true ↔ compare a b = .eq) ∧
    (compare a b = .eq ↔ a.name = b.name) ∧
    (a.name = b.name ↔ a.fingerprint = b.fingerprint) ∧
    ((∃ imt, sa x = .ok imt) ↔ x.isFinite = true ∧ x.numericLt .zero = false) ∧
    ∀ imt, ofText ("SA(" ++ x.text ++ ")") = .ok imt ↔ sa x = .ok imt := by
  have place : compare a b = .eq ↔ a = b := Std.compare_eq_iff_eq
  refine ⟨⟨Std.OrientedOrd.eq_swap, isLE_total a b⟩, ?_, Std.TransOrd.isLE_trans, compare_of_period,
    ?_, ?_, ?_, sa_ok_iff, fun imt => ofText_acceleration_ok_iff⟩
  · intro below above
    exact place.mp (Std.OrientedCmp.isLE_antisymm below above)
  · rw [beq_iff_eq, place]
  · exact ⟨name_eq_of_compare, fun same => place.mpr (name_injective same)⟩
  · constructor
    · intro same
      rw [name_injective same]
    · intro same
      exact congrArg (·.1) same

/-- Nine seconds come before ten, although the names stand the other way round. -/
example : (do return compare (← ofText "SA(9)") (← ofText "SA(10)")) = .ok Ordering.lt := by
  decide +kernel

end Imt
end HazardJob
