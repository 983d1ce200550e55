import HazardJob.Proofs.Binary64.Text
import HazardJob.Proofs.Reading.Basic

/-! Numbers as they are written, where numbers are read: all but minus infinity read back, and they
hold no character that separates or encloses anything. -/
namespace HazardJob

namespace Binary64

/-- A character of a written number. -/
def isNumberChar (c : Char) : Bool :=
  c.isDigit || c == '-' || c == '.' || ['i', 'n', 'f', 'N', 'a'].contains c

theorem mem_placed {digits places : Nat} {c : Char} (member : c ∈ placed digits places) :
    c.isDigit = true ∨ c = '.' := by
  unfold placed at member
  dsimp only at member
  split at member
  · exact .inl (isDigit_toDigits member)
  · have padded {zeros : Nat} {d : Char}
        (inside : d ∈ List.replicate zeros '0' ++ Nat.toDigits 10 digits) : d.isDigit = true := by
      rcases List.mem_append.mp inside with zero | digit
      · rw [(List.mem_replicate.mp zero).2]
        rfl
      · exact isDigit_toDigits digit
    rcases List.mem_append.mp member with before | after
    · exact .inl (padded (List.mem_of_mem_take before))
    · rcases List.mem_cons.mp after with point | after
      · exact .inr point
      · exact .inl (padded (List.mem_of_mem_drop after))

theorem mem_magnitudeText {pattern : Nat} {c : Char} (member : c ∈ magnitudeText pattern) :
    isNumberChar c = true := by
  have plain (d : Decimal) (inside : c ∈ d.positional) : isNumberChar c = true := by
    unfold Decimal.positional at inside
    have kind : c.isDigit = true ∨ c = '.' := by
      split at inside
      · exact mem_placed inside
      · exact mem_placed inside
    rcases kind with digit | rfl
    · simp [isNumberChar, digit]
    · rfl
  unfold magnitudeText at member
  split at member
  · simp only [List.mem_cons, List.not_mem_nil, or_false] at member
    rcases member with rfl | rfl | rfl <;> rfl
  split at member
  · simp only [List.mem_singleton] at member
    subst member
    rfl
  · exact plain _ member

theorem mem_text {x : Binary64} {c : Char} (member : c ∈ x.text.toList) : isNumberChar c = true := by
  cases x with
  | nan =>
    simp only [text] at member
    have letters : "NaN".toList = ['N', 'a', 'N'] := rfl
    rw [letters] at member
    simp only [List.mem_cons, List.not_mem_nil, or_false] at member
    rcases member with rfl | rfl | rfl <;> rfl
  | signed negative pattern bounded =>
    simp only [text, String.toList_ofList] at member
    rcases List.mem_append.mp member with sign | magnitude
    · cases negative
      · cases sign
      · simp only [if_true, List.mem_singleton] at sign
        subst sign
        rfl
    · exact mem_magnitudeText magnitude

theorem mem_pointedText {x : Binary64} {c : Char} (member : c ∈ x.pointedText.toList) :
    isNumberChar c = true := by
  unfold pointedText at member
  split at member
  · split at member
    · rw [String.toList_append] at member
      rcases List.mem_append.mp member with digits | zero
      · exact mem_text digits
      · have point : ".0".toList = ['.', '0'] := rfl
        rw [point] at zero
        simp only [List.mem_cons, List.not_mem_nil, or_false] at zero
        rcases zero with rfl | rfl <;> rfl
    · exact mem_text member
  · exact mem_text member

theorem isNumberChar_toNat {c : Char} (plain : isNumberChar c = true) :
    45 ≤ c.toNat ∧ c.toNat ≤ 57 ∧ c.toNat ≠ 47 ∨ c.toNat ∈ [105, 110, 102, 78, 97] := by
  simp only [isNumberChar, Bool.or_eq_true, beq_iff_eq, List.contains_iff_mem] at plain
  rcases plain with ((digit | rfl) | rfl) | letter
  · have bounds := Char.isDigit_iff_toNat.mp digit
    have low : 48 ≤ c.toNat := bounds.1
    have high : c.toNat ≤ 57 := bounds.2
    omega
  · decide
  · decide
  · refine .inr ?_
    simp only [List.mem_cons, List.not_mem_nil, or_false] at letter ⊢
    rcases letter with rfl | rfl | rfl | rfl | rfl <;> decide

end Binary64

namespace Reading

open Binary64

theorem numberText_infinity : NumberText (infinity false) (infinity false).text.toList := by
  have written : (infinity false).text.toList = ['i', 'n', 'f'] := rfl
  rw [written]
  exact .inr (.inr ⟨rfl, rfl⟩)

theorem numberText_text {x : Binary64} (proper : x ≠ infinity true) :
    NumberText x x.text.toList := by
  cases x with
  | nan => exact .inr (.inl ⟨rfl, rfl⟩)
  | signed negative pattern bounded =>
    rcases Nat.lt_or_eq_of_le bounded with finite | rfl
    · exact .inl (scan_text bounded finite)
    · cases negative with
      | true => exact absurd rfl proper
      | false => exact numberText_infinity

theorem numberText_pointedText {x : Binary64} (proper : x ≠ infinity true) :
    NumberText x x.pointedText.toList := by
  cases x with
  | nan => exact .inr (.inl ⟨rfl, rfl⟩)
  | signed negative pattern bounded =>
    rcases Nat.lt_or_eq_of_le bounded with finite | rfl
    · exact .inl (scan_pointedText bounded finite)
    · have integral : isIntegral (signed negative infinityPattern bounded) = false := by
        simp only [isIntegral, Nat.lt_irrefl, decide_false, Bool.false_and]
      have plain : (signed negative infinityPattern bounded).pointedText =
          (signed negative infinityPattern bounded).text := by
        simp only [pointedText, integral, Bool.false_and, Bool.false_eq_true, if_false]
      rw [plain]
      exact numberText_text proper

/-- Minus infinity is written in a way that is not read. -/
theorem number_minusInfinity (rest : List Char) :
    Misses number ((infinity true).text.toList ++ rest) := by
  have written : (infinity true).text.toList = ['-', 'i', 'n', 'f'] := rfl
  rw [written]
  exact ⟨_, rfl⟩

end Reading
end HazardJob
