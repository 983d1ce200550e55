import HazardJob.Proofs.Imt.Order
import HazardJob.Proofs.Literal.Language

/-! The language of intensity measures, independent of the reader: a family alone, or a family with
numbers in parentheses. Which texts name a measure follows from the family and the number and values of
its arguments; every other text is refused, either for its arguments or as unknown. -/
namespace HazardJob.Imt

open Reading

/-- The texts of an argument. -/
inductive Argument : Binary64 → List Char → Prop
  | numeral {x : Binary64} {t : List Char} : Binary64.Numeral x t → Argument x t
  | nan {t : List Char} : t.map Char.toLower = "nan".toList → Argument .nan t
  | infinity {t : List Char} : t.map Char.toLower = "inf".toList → Argument (.infinity false) t

/-- The texts of a family that stands alone or with arguments. Layout may stand around arguments, but
not before the parenthesis. -/
inductive CallText (family : String) : Option (List Binary64) → List Char → Prop
  | alone : isIdentifier family.toList = true → CallText family none family.toList
  | applied {numbers : List Binary64} {v t w : List Char} : isIdentifier family.toList = true →
      Layout v → Listed Argument numbers t → Layout w →
      CallText family (some numbers) (family.toList ++ '(' :: (v ++ (t ++ (w ++ [')']))))

/-- But for white space around it, a text is that of a family with these arguments. -/
def Calls (text family : String) (numbers : Option (List Binary64)) : Prop :=
  CallText family numbers (Text.trim text.toList)

/-- A finite number that is not below zero. -/
def IsPeriod (x : Binary64) : Prop := x.isFinite = true ∧ x.numericLt .zero = false

section Calls

theorem argument_iff {x : Binary64} {t : List Char} : Argument x t ↔ NumberText x t := by
  rw [Literal.numberText_iff]
  constructor
  · rintro (numeral | nan | infinity)
    · exact .inl numeral
    · exact .inr (.inl ⟨nan, rfl⟩)
    · exact .inr (.inr ⟨infinity, rfl⟩)
  · rintro (numeral | ⟨nan, rfl⟩ | ⟨infinity, rfl⟩)
    · exact .numeral numeral
    · exact .nan nan
    · exact .infinity infinity

theorem identifier_ok {s rest : List Char} {family : String}
    (read : identifier s = .ok family rest) :
    s = family.toList ++ rest ∧ isIdentifier family.toList = true := by
  unfold identifier at read
  split at read
  · rename_i c more
    split at read
    · rename_i letter
      simp only [span, Outcome.map, Outcome.ok.injEq] at read
      obtain ⟨rfl, rfl⟩ := read
      have alphanumeric : c.isAlphanum = true := by simp [Char.isAlphanum, letter]
      rw [String.toList_ofList]
      refine ⟨List.takeWhile_append_dropWhile.symm, ?_⟩
      rw [List.takeWhile_cons_of_pos alphanumeric, isIdentifier, letter, Bool.true_and]
      exact List.all_takeWhile
    · cases read
  · cases read

theorem arguments_ok {s rest : List Char} {numbers : List Binary64}
    (read : arguments s = .ok numbers rest) :
    ∃ v t w, s = '(' :: (v ++ (t ++ (w ++ ')' :: rest))) ∧ Layout v ∧
      Listed NumberText numbers t ∧ Layout w := by
  unfold arguments at read
  obtain ⟨_, s₁, opened, read⟩ := bind_ok.mp read
  obtain ⟨_, s₂, blank, read⟩ := bind_ok.mp read
  obtain ⟨xs, s₃, content, read⟩ := bind_ok.mp read
  obtain ⟨_, s₄, blank', read⟩ := bind_ok.mp read
  obtain ⟨_, s₅, closed, same⟩ := bind_ok.mp read
  cases same
  obtain rfl := char_ok.mp opened
  obtain ⟨v, rfl, before, -⟩ := layout_ok blank
  obtain ⟨t, rfl, listed⟩ := separated1_ok (fun _ _ _ => number_ok) content
  obtain ⟨w, rfl, after, -⟩ := layout_ok blank'
  obtain rfl := char_ok.mp closed
  exact ⟨v, t, w, rfl, before, listed, after⟩

/-- The reader takes exactly the texts of the grammar. -/
theorem readAll_call_iff {s : List Char} {family : String} {numbers : Option (List Binary64)} :
    readAll call s = .ok (family, numbers) ↔ CallText family numbers s := by
  rw [readAll_ok]
  constructor
  · intro read
    unfold call at read
    obtain ⟨name, left, named, read⟩ := bind_ok.mp read
    obtain ⟨given, left', applied, same⟩ := bind_ok.mp read
    cases same
    obtain ⟨rfl, proper⟩ := identifier_ok named
    rcases optional_ok.mp applied with ⟨xs, rfl, inside⟩ | ⟨rfl, rfl, -⟩
    · obtain ⟨v, t, w, rfl, before, listed, after⟩ := arguments_ok inside
      exact .applied proper before (listed.mono fun _ _ => argument_iff.mpr) after
    · rw [List.append_nil]
      exact .alone proper
  · rintro (proper | ⟨proper, before, listed, after⟩)
    · rw [call_alone proper, String.ofList_toList]
    · rw [call_applied proper before (listed.mono fun _ _ => argument_iff.mp) after,
        String.ofList_toList]

theorem ofText_of_calls {text family : String} {numbers : Option (List Binary64)}
    (calls : Calls text family numbers) :
    ofText text = (ofCall? family numbers (String.ofList (Text.trim text.toList))).getD
      (.error (.unknown text)) := by
  simp only [ofText, readAll_call_iff.mpr calls]

theorem ofText_of_no_call {text : String} (none : ∀ family numbers, ¬Calls text family numbers) :
    ofText text = .error (.unknown text) := by
  unfold ofText
  dsimp only
  split
  · rename_i family numbers read
    exact absurd (readAll_call_iff.mp read) (none family numbers)
  · rfl

end Calls

section Families

theorem exists_period {x : Binary64} (proper : IsPeriod x) :
    ∃ period, Period.ofNumber? x = some period ∧ period.value = x.withoutMinusZero := by
  obtain ⟨period, found⟩ := Option.isSome_iff_exists.mp (Period.isSome_ofNumber?_iff.mpr proper)
  refine ⟨period, found, ?_⟩
  cases x with
  | nan => cases found
  | signed negative pattern bounded =>
    simp only [Period.ofNumber?, Option.dite_none_right_eq_some, Option.ite_none_left_eq_some,
      Option.some.injEq] at found
    obtain ⟨finite, positive, rfl⟩ := found
    cases negative with
    | false => rfl
    | true =>
      obtain rfl : pattern = 0 := by simpa using positive
      rfl

theorem isPeriod_of_ofNumber? {x : Binary64} {period : Period}
    (found : Period.ofNumber? x = some period) : IsPeriod x :=
  Period.isSome_ofNumber?_iff.mp (Option.isSome_of_mem found)

theorem ofNumber?_of_not {x : Binary64} (improper : ¬IsPeriod x) : Period.ofNumber? x = none := by
  rw [← Option.not_isSome_iff_eq_none, Period.isSome_ofNumber?_iff]
  exact improper

theorem scalar_ofName?_none {name : String}
    (unknown : ∀ measure : ScalarMeasure, measure.name ≠ name) :
    ScalarMeasure.ofName? name = none :=
  List.find?_eq_none.mpr fun measure _ => by simpa using unknown measure

theorem period_ofName?_none {name : String}
    (unknown : ∀ family : PeriodFamily, family.name ≠ name) : PeriodFamily.ofName? name = none :=
  List.find?_eq_none.mpr fun family _ => by simpa using unknown family

theorem inelasticFamily_apart (family : PeriodFamily) : family.name ≠ inelasticFamily := by
  cases family <;> decide

end Families

/-- The measure that a family with arguments denotes. Zero stands for minus zero. -/
inductive Denotes : Imt → String → Option (List Binary64) → Prop
  | scalar (measure : ScalarMeasure) : Denotes (.scalar measure) measure.name none
  | spectral (family : PeriodFamily) {period : Period} {x : Binary64} :
      period.value = x.withoutMinusZero → Denotes (.spectral family period) family.name (some [x])
  | inelastic {period : Period} {x : Binary64} (y : Binary64) :
      period.value = x.withoutMinusZero →
      Denotes (.inelastic period y) inelasticFamily (some [x, y])

theorem denotes_of_ofCall? {family text : String} {numbers : Option (List Binary64)} {imt : Imt}
    (made : ofCall? family numbers text = some (.ok imt)) : Denotes imt family numbers := by
  have valued {x : Binary64} {period : Period} (found : Period.ofNumber? x = some period) :
      period.value = x.withoutMinusZero := by
    obtain ⟨same, found', value⟩ := exists_period (isPeriod_of_ofNumber? found)
    rwa [Option.some.inj (found.symm.trans found')]
  unfold ofCall? at made
  split at made
  · obtain ⟨measure, found, same⟩ := Option.map_eq_some_iff.mp made
    cases same
    have named : measure.name = family := by simpa using List.find?_some found
    exact named ▸ .scalar measure
  · split at made
    · rename_i known found
      have named : known.name = family := by simpa using List.find?_some found
      subst named
      split at made
      · rename_i x
        unfold spectral? at made
        split at made
        · rename_i period found
          cases made
          exact .spectral known (valued found)
        · cases made
      · cases made
    · split at made
      · rename_i same
        rw [eq_of_beq same]
        split at made
        · rename_i x y
          split at made
          · rename_i period found
            cases made
            exact .inelastic y (valued found)
          · cases made
        · cases made
      · cases made

theorem denotes_of_ofText {text family : String} {numbers : Option (List Binary64)} {imt : Imt}
    (calls : Calls text family numbers) (read : ofText text = .ok imt) :
    Denotes imt family numbers := by
  rw [ofText_of_calls calls] at read
  cases made : ofCall? family numbers (String.ofList (Text.trim text.toList)) with
  | none => rw [made] at read; cases read
  | some answer =>
    rw [made, Option.getD_some] at read
    exact denotes_of_ofCall? (read ▸ made)

theorem Denotes.parts {imt : Imt} {family : String} {numbers : Option (List Binary64)}
    (denotes : Denotes imt family numbers) :
    imt.family = family ∧
      imt.period = ((numbers.getD [])[0]?.getD Binary64.zero).withoutMinusZero ∧
      imt.secondary = (numbers.getD [])[1]?.map Binary64.withoutMinusZero := by
  cases denotes with
  | scalar measure => exact ⟨rfl, rfl, rfl⟩
  | spectral family value => exact ⟨rfl, value, rfl⟩
  | inelastic y value => exact ⟨rfl, value, rfl⟩

/-- What a text is answered with, by the form that it has. Arguments that do not suit their family are
shown with the text that was trimmed, and all else with the text that was given. -/
structure Classified (text : String) (answer : Except ImtError Imt) : Prop where
  scalar : ∀ measure : ScalarMeasure, Calls text measure.name none → answer = .ok (.scalar measure)
  spectral : ∀ (family : PeriodFamily) (x : Binary64), Calls text family.name (some [x]) →
    IsPeriod x → ∃ period, answer = .ok (.spectral family period)
  inelastic : ∀ x y : Binary64, Calls text inelasticFamily (some [x, y]) → IsPeriod x →
    ∃ period, answer = .ok (.inelastic period y)
  spectralPeriod : ∀ (family : PeriodFamily) (x : Binary64), Calls text family.name (some [x]) →
    ¬IsPeriod x → answer = .error (.invalid (String.ofList (Text.trim text.toList)) .badPeriod)
  inelasticPeriod : ∀ x y : Binary64, Calls text inelasticFamily (some [x, y]) → ¬IsPeriod x →
    answer = .error (.invalid (String.ofList (Text.trim text.toList)) .badPeriod)
  spectralCount : ∀ (family : PeriodFamily) (xs : List Binary64),
    Calls text family.name (some xs) → xs.length ≠ 1 → answer =
      .error (.invalid (String.ofList (Text.trim text.toList)) (.singlePeriod family.name))
  inelasticCount : ∀ xs : List Binary64, Calls text inelasticFamily (some xs) → xs.length ≠ 2 →
    answer =
      .error (.invalid (String.ofList (Text.trim text.toList)) (.twoArguments inelasticFamily))
  unknownAlone : ∀ name, Calls text name none → (∀ measure : ScalarMeasure, measure.name ≠ name) →
    answer = .error (.unknown text)
  unknownApplied : ∀ name xs, Calls text name (some xs) →
    (∀ family : PeriodFamily, family.name ≠ name) → name ≠ inelasticFamily →
    answer = .error (.unknown text)
  noCall : (∀ name numbers, ¬Calls text name numbers) → answer = .error (.unknown text)
  accepted : ∀ imt family numbers, answer = .ok imt → Calls text family numbers →
    imt.family = family ∧
    imt.period = ((numbers.getD [])[0]?.getD Binary64.zero).withoutMinusZero ∧
    imt.secondary = (numbers.getD [])[1]?.map Binary64.withoutMinusZero

/-- Every text is answered by its form: it names a measure exactly if it is a call with arguments that
suit a known family, and each way of missing that has its own error. -/
theorem ofText_classified (text : String) : Classified text (ofText text) where
  scalar measure calls := by
    rw [ofText_of_calls calls]
    simp only [ofCall?, ScalarMeasure.ofName?_name, Option.map_some, Option.getD_some]
  spectral family x calls proper := by
    obtain ⟨period, found, -⟩ := exists_period proper
    refine ⟨period, ?_⟩
    rw [ofText_of_calls calls]
    simp only [ofCall?, PeriodFamily.ofName?_name, spectral?, found, Option.getD_some]
  inelastic x y calls proper := by
    obtain ⟨period, found, -⟩ := exists_period proper
    refine ⟨period, ?_⟩
    rw [ofText_of_calls calls]
    simp only [ofCall?, period_ofName?_none inelasticFamily_apart, beq_self_eq_true, if_true, found,
      Option.getD_some]
  spectralPeriod family x calls improper := by
    rw [ofText_of_calls calls]
    simp only [ofCall?, PeriodFamily.ofName?_name, spectral?, ofNumber?_of_not improper,
      Option.getD_some]
  inelasticPeriod x y calls improper := by
    rw [ofText_of_calls calls]
    simp only [ofCall?, period_ofName?_none inelasticFamily_apart, beq_self_eq_true, if_true,
      ofNumber?_of_not improper, Option.getD_some]
  spectralCount family xs calls count := by
    rw [ofText_of_calls calls]
    simp only [ofCall?, PeriodFamily.ofName?_name]
    split
    · exact absurd rfl count
    · rfl
  inelasticCount xs calls count := by
    rw [ofText_of_calls calls]
    simp only [ofCall?, period_ofName?_none inelasticFamily_apart, beq_self_eq_true, if_true]
    split
    · exact absurd rfl count
    · rfl
  unknownAlone name calls unknown := by
    rw [ofText_of_calls calls]
    simp only [ofCall?, scalar_ofName?_none unknown, Option.map_none, Option.getD_none]
  unknownApplied name xs calls unknown other := by
    rw [ofText_of_calls calls]
    simp only [ofCall?, period_ofName?_none unknown, beq_iff_eq, other, if_false, Option.getD_none]
  noCall := ofText_of_no_call
  accepted imt family numbers read calls := (denotes_of_ofText calls read).parts

end HazardJob.Imt
