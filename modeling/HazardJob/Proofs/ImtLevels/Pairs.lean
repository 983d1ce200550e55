import HazardJob.Proofs.ImtLevels

/-! Levels made of pairs. Which pairs make levels is told by looking at each pair alone and at the
measures together, so their order does not matter; where they make none, the order decides which pair
is reported. -/
namespace HazardJob

/-- The measure that something is wrong with. -/
def LevelsFault.imt? : LevelsFault → Option Imt
  | literal _ | notADict _ | keyNotText _ | badImt _ => none
  | nonNumeric imt | notAList imt _ | noLevels imt | duplicatedLevels imt _ | unsorted imt _
  | outOfRange imt _ | duplicatedImt imt => some imt

/-- The message names the measure that something is wrong with. -/
theorem LevelsFault.message_of_imt? {fault : LevelsFault} {imt : Imt}
    (reported : fault.imt? = some imt) : ∃ front back, fault.message = front ++ imt.name ++ back := by
  cases fault with
  | literal _ | notADict _ | keyNotText _ | badImt _ => cases reported
  | nonNumeric _ | noLevels _ | duplicatedImt _ =>
    cases reported
    exact ⟨_, "", String.append_empty.symm⟩
  | notAList _ _ | duplicatedLevels _ _ | unsorted _ _ | outOfRange _ _ =>
    cases reported
    exact ⟨_, _, String.append_assoc⟩

namespace ImtLevels

variable {pairs : List (Imt × List Binary64)}

/-- Pairs with levels that ascend and with a measure of their own each. -/
structure WellFormed (pairs : List (Imt × List Binary64)) : Prop where
  levels : ∀ e ∈ pairs, e.2 ≠ [] ∧ Ascending e.2
  measures : (pairs.map (·.1)).Nodup

theorem wellFormed_iff_fits : WellFormed pairs ↔ Fits SortedMap.empty pairs := by
  constructor
  · rintro ⟨levels, measures⟩
    exact ⟨fun e member => proper_iff_ascending.mpr (levels e member),
      fun _ _ => List.not_mem_nil, measures⟩
  · rintro ⟨proper, -, distinct⟩
    exact ⟨fun e member => proper_iff_ascending.mp (proper e member), distinct⟩

theorem WellFormed.perm {other : List (Imt × List Binary64)} (wellFormed : WellFormed pairs)
    (order : other.Perm pairs) : WellFormed other where
  levels e member := wellFormed.levels e (order.mem_iff.mp member)
  measures := (order.map (·.1)).nodup_iff.mpr wellFormed.measures

/-- Pairs make levels exactly if they are well-formed, and the levels are those with these entries. -/
theorem ofPairs_ok_iff {spec : ImtLevels} :
    ofPairs pairs = .ok spec ↔ WellFormed pairs ∧ spec.toList.Perm pairs := by
  have made : ofPairs pairs = .ok spec ↔
      Fits SortedMap.empty pairs ∧ spec = SortedMap.ofList pairs := addLevels_ok_iff
  rw [made, ← wellFormed_iff_fits]
  refine and_congr_right fun wellFormed => ⟨?_, fun same => ?_⟩
  · rintro rfl
    exact SortedMap.ofList_perm wellFormed.measures
  · exact (SortedMap.ofList_of_perm same.symm).symm

theorem fault?_imt? {imt : Imt} {levels : List Binary64} {fault : LevelsFault}
    (found : fault? imt levels = some fault) : fault.imt? = some imt := by
  unfold fault? at found
  repeat' split at found
  all_goals cases found
  all_goals rfl

/-- The first pair that does not fit is the one that is reported. -/
theorem addLevels_error {spec : ImtLevels} {fault : LevelsFault}
    (failed : addLevels spec pairs = .error fault) : ∃ before e after, pairs = before ++ e :: after ∧
      Fits spec before ∧ ¬Fits spec (before ++ [e]) ∧ fault.imt? = some e.1 := by
  induction pairs generalizing spec with
  | nil => cases failed
  | cons e more ih =>
    rw [addLevels] at failed
    cases found : fault? e.1 e.2 with
    | some wrong =>
      simp only [found, Except.error.injEq] at failed
      subst failed
      refine ⟨[], e, more, rfl, fits_nil spec, fun fits => ?_, fault?_imt? found⟩
      simp [(fits_cons_iff.mp fits).1 e.1] at found
    | none =>
      cases known : spec.contains e.1 with
      | true =>
        simp only [found, known, if_true, Except.error.injEq] at failed
        subst failed
        exact ⟨[], e, more, rfl, fits_nil spec, fun fits =>
          (fits_cons_iff.mp fits).2.1 (SortedMap.contains_iff_mem_keys.mp known), rfl⟩
      | false =>
        simp only [found, known, Bool.false_eq_true, if_false] at failed
        obtain ⟨before, next, after, rfl, fits, unfit, reported⟩ := ih failed
        have unknown : e.1 ∉ spec.keys := by simp [← SortedMap.contains_iff_mem_keys, known]
        refine ⟨e :: before, next, after, rfl, ?_, fun all => ?_, reported⟩
        · exact fits_cons_iff.mpr ⟨proper_of_fault? found, unknown, fits⟩
        · exact unfit (fits_cons_iff.mp all).2.2

/-- Pairs make levels exactly if every measure has some, they ascend, and the measures are different.
The levels hold the pairs in the order of the measures, whichever order the pairs were in. Where there
are none, the report names the measure of the first pair with which the pairs are not well-formed. -/
theorem ofPairs_spec (pairs : List (Imt × List Binary64)) :
    ((∃ spec, ofPairs pairs = .ok spec) ↔ WellFormed pairs) ∧
    (∀ spec, ofPairs pairs = .ok spec → spec.toList.Perm pairs ∧
      spec.imts.Pairwise (fun a b => compare a b = .lt) ∧
      ∀ other, other.Perm pairs → ofPairs other = .ok spec) ∧
    ∀ fault, ofPairs pairs = .error fault → ∃ before e after, pairs = before ++ e :: after ∧
      WellFormed before ∧ ¬WellFormed (before ++ [e]) ∧ fault.imt? = some e.1 ∧
      ∃ front back, fault.message = front ++ e.1.name ++ back := by
  refine ⟨⟨?_, fun wellFormed => ?_⟩, fun spec made => ?_, fun fault failed => ?_⟩
  · rintro ⟨spec, made⟩
    exact (ofPairs_ok_iff.mp made).1
  · exact ⟨SortedMap.ofList pairs,
      ofPairs_ok_iff.mpr ⟨wellFormed, SortedMap.ofList_perm wellFormed.measures⟩⟩
  · obtain ⟨wellFormed, same⟩ := ofPairs_ok_iff.mp made
    refine ⟨same, spec.keys_ascending, fun other order => ?_⟩
    exact ofPairs_ok_iff.mpr ⟨wellFormed.perm order, same.trans order.symm⟩
  · obtain ⟨before, e, after, split, fits, unfit, reported⟩ := addLevels_error failed
    rw [← wellFormed_iff_fits] at fits unfit
    exact ⟨before, e, after, split, fits, unfit, reported, LevelsFault.message_of_imt? reported⟩

/-- Two spellings of one measure collide. -/
example : (ofText "\x7b'SA(1)': [0], 'SA(1.0)': [0.1]\x7d").mapError LevelsFault.message =
    .error "Duplicated IMT SA(1.0)" := by decide +kernel

end ImtLevels
end HazardJob
