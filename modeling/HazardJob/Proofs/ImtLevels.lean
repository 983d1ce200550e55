import HazardJob.ImtLevels
import HazardJob.Proofs.Binary64.Order
import HazardJob.Proofs.Imt.Order
import HazardJob.Proofs.Literal.Mapping
import HazardJob.Proofs.SortedMap

/-! Levels that are written and read back. What is read has proper levels for every measure, and
what has proper levels is read back from its text unless the name of a measure is not. -/
namespace HazardJob

open Reading

theorem Reading.numberText_of_finite {x : Binary64} (finite : x.isFinite = true) :
    NumberText x x.text.toList := by
  refine numberText_text ?_
  rintro rfl
  rw [Binary64.isFinite_infinity] at finite
  cases finite

namespace ImtLevels

/-- Levels that nothing is wrong with. -/
def Proper (levels : List Binary64) : Prop := ∀ imt, fault? imt levels = none

theorem fault?_eq_none_iff {imt : Imt} {levels : List Binary64} : fault? imt levels = none ↔
    levels ≠ [] ∧ anyNeighbours (· == ·) levels = false ∧
      anyNeighbours (fun x y => y.numericLt x) levels = false ∧
      ∀ x ∈ levels, x.isFinite = true ∧ x.numericLt .zero = false := by
  have range : levels.any (fun x => !x.isFinite || x.numericLt .zero) = false ↔
      ∀ x ∈ levels, x.isFinite = true ∧ x.numericLt .zero = false := by simp
  rw [← range]
  unfold fault?
  cases levels.any fun x => !x.isFinite || x.numericLt .zero <;>
    cases anyNeighbours (fun x y => y.numericLt x) levels <;>
    cases anyNeighbours (· == ·) levels <;> cases levels <;> simp

/-- What is wrong with levels does not depend on their measure. -/
theorem proper_iff {levels : List Binary64} : Proper levels ↔
    levels ≠ [] ∧ anyNeighbours (· == ·) levels = false ∧
      anyNeighbours (fun x y => y.numericLt x) levels = false ∧
      ∀ x ∈ levels, x.isFinite = true ∧ x.numericLt .zero = false := by
  simp only [Proper, fault?_eq_none_iff]
  exact ⟨fun each => each Imt.pga, fun proper _ => proper⟩

theorem proper_of_fault? {imt : Imt} {levels : List Binary64} (none : fault? imt levels = .none) :
    Proper levels := proper_iff.mpr (fault?_eq_none_iff.mp none)

theorem Proper.finite {levels : List Binary64} (proper : Proper levels) :
    ∀ x ∈ levels, x.isFinite = true := by
  obtain ⟨-, -, -, range⟩ := proper_iff.mp proper
  exact fun x member => (range x member).1

section Pairs

variable {spec result : ImtLevels} {pairs : List (Imt × List Binary64)}

/-- Pairs that can be added to `spec`: each has proper levels and a measure of its own. -/
structure Fits (spec : ImtLevels) (pairs : List (Imt × List Binary64)) : Prop where
  proper : ∀ e ∈ pairs, Proper e.2
  new : ∀ e ∈ pairs, e.1 ∉ spec.keys
  distinct : (pairs.map (·.1)).Nodup

theorem fits_nil (spec : ImtLevels) : Fits spec [] where
  proper _ member := absurd member List.not_mem_nil
  new _ member := absurd member List.not_mem_nil
  distinct := .nil

/-- Pairs fit if the first one does and the others fit what it leaves. -/
theorem fits_cons_iff {e : Imt × List Binary64} : Fits spec (e :: pairs) ↔
    Proper e.2 ∧ e.1 ∉ spec.keys ∧ Fits (spec.insert e.1 e.2) pairs := by
  constructor
  · rintro ⟨proper, new, distinct⟩
    obtain ⟨apart, distinct⟩ := List.nodup_cons.mp distinct
    refine ⟨proper e List.mem_cons_self, new e List.mem_cons_self,
      fun f member => proper f (List.mem_cons_of_mem _ member), fun f member key => ?_, distinct⟩
    rcases SortedMap.mem_keys_insert_iff.mp key with same | old
    · exact apart (List.mem_map.mpr ⟨f, member, same⟩)
    · exact new f (List.mem_cons_of_mem _ member) old
  · rintro ⟨first, unknown, proper, new, distinct⟩
    have apart (f : Imt × List Binary64) (member : f ∈ pairs) : f.1 ≠ e.1 ∧ f.1 ∉ spec.keys := by
      simpa [SortedMap.mem_keys_insert_iff] using new f member
    refine ⟨List.forall_mem_cons.mpr ⟨first, proper⟩,
      List.forall_mem_cons.mpr ⟨unknown, fun f member => (apart f member).2⟩,
      List.nodup_cons.mpr ⟨fun again => ?_, distinct⟩⟩
    obtain ⟨f, member, same⟩ := List.mem_map.mp again
    exact (apart f member).1 same

/-- Pairs are added exactly if they fit, one after the other. -/
theorem addLevels_ok_iff :
    addLevels spec pairs = .ok result ↔ Fits spec pairs ∧ result = spec.insertAll pairs := by
  induction pairs generalizing spec with
  | nil =>
    rw [addLevels, Except.ok.injEq, eq_comm]
    exact (and_iff_right (fits_nil spec)).symm
  | cons e more ih =>
    have step : spec.insertAll (e :: more) = (spec.insert e.1 e.2).insertAll more := rfl
    rw [addLevels, fits_cons_iff, ← SortedMap.contains_iff_mem_keys, step]
    cases found : fault? e.1 e.2 with
    | some fault =>
      have improper : ¬Proper e.2 := fun proper => by simp [proper e.1] at found
      simp [improper]
    | none =>
      cases spec.contains e.1 with
      | true => simp
      | false => simpa [proper_of_fault? found] using ih

theorem proper_of_addLevels (added : addLevels spec pairs = .ok result)
    (proper : ∀ levels ∈ spec.values, Proper levels) : ∀ levels ∈ result.values, Proper levels := by
  obtain ⟨fits, rfl⟩ := addLevels_ok_iff.mp added
  intro levels member
  rcases SortedMap.mem_values_insertAll member with old | added
  · exact proper levels old
  · obtain ⟨e, inside, rfl⟩ := List.mem_map.mp added
    exact fits.proper e inside

/-- Levels are made of their own entries. -/
theorem ofPairs_toList (proper : ∀ e ∈ spec.toList, Proper e.2) : ofPairs spec.toList = .ok spec :=
  addLevels_ok_iff.mpr ⟨⟨proper, fun _ _ => List.not_mem_nil, spec.keys_nodup⟩,
    spec.ofList_toList.symm⟩

end Pairs

section Ascending

/-- Strictly increasing finite numbers, none below zero. -/
def Ascending (levels : List Binary64) : Prop :=
  levels.Pairwise (fun x y => x.numericLt y = true) ∧
    ∀ x ∈ levels, x.isFinite = true ∧ Binary64.zero.numericLe x = true

instance (levels : List Binary64) : Decidable (Ascending levels) := instDecidableAnd

/-- Neighbours that are neither equal nor in the wrong order increase, and then so does the list. -/
theorem pairwise_of_neighbours {levels : List Binary64}
    (distinct : anyNeighbours (· == ·) levels = false)
    (sorted : anyNeighbours (fun x y => y.numericLt x) levels = false)
    (finite : ∀ x ∈ levels, x.isFinite = true) :
    levels.Pairwise fun x y => x.numericLt y = true := by
  have : Trans (fun x y : Binary64 => x.numericLt y = true) (fun x y => x.numericLt y = true)
      (fun x y => x.numericLt y = true) := ⟨Binary64.numericLt_trans⟩
  apply List.isChain_iff_pairwise.mp
  induction levels with
  | nil => exact .nil
  | cons x rest ih =>
    cases rest with
    | nil => exact .singleton x
    | cons y more =>
      simp only [anyNeighbours, Bool.or_eq_false_iff] at distinct sorted
      have first := finite x List.mem_cons_self
      have second := finite y (List.mem_cons_of_mem _ List.mem_cons_self)
      apply List.IsChain.cons_cons
      · exact Binary64.numericLt_of_finite first second distinct.1 sorted.1
      · exact ih distinct.2 sorted.2 fun z member => finite z (List.mem_cons_of_mem _ member)

/-- Levels that nothing is wrong with ascend. -/
theorem Proper.ascending {levels : List Binary64} (proper : Proper levels) : Ascending levels := by
  obtain ⟨-, distinct, sorted, range⟩ := proper_iff.mp proper
  constructor
  · exact pairwise_of_neighbours distinct sorted proper.finite
  · intro x member
    obtain ⟨finite, low⟩ := range x member
    exact ⟨finite, Binary64.zero_numericLe finite low⟩

/-- A relation that holds of no two levels in order holds of no neighbours. -/
theorem anyNeighbours_of_pairwise {r : Binary64 → Binary64 → Bool} {levels : List Binary64}
    (none : levels.Pairwise fun x y => r x y = false) : anyNeighbours r levels = false := by
  induction levels with
  | nil => rfl
  | cons x rest ih =>
    obtain ⟨first, others⟩ := List.pairwise_cons.mp none
    cases rest with
    | nil => rfl
    | cons y more => simp only [anyNeighbours, first y List.mem_cons_self, ih others, Bool.or_false]

/-- Nothing is wrong with levels exactly if there are some and they ascend. -/
theorem proper_iff_ascending {levels : List Binary64} :
    Proper levels ↔ levels ≠ [] ∧ Ascending levels := by
  constructor
  · intro proper
    exact ⟨(proper_iff.mp proper).1, proper.ascending⟩
  · rintro ⟨some, increasing, range⟩
    refine proper_iff.mpr ⟨some, ?_, ?_, fun x member => ?_⟩
    · exact anyNeighbours_of_pairwise (increasing.imp Binary64.beq_of_numericLt)
    · exact anyNeighbours_of_pairwise (increasing.imp Binary64.numericLt_asymm)
    · obtain ⟨finite, low⟩ := range x member
      exact ⟨finite, Binary64.numericLt_zero_of_le low⟩

end Ascending

/-- Every measure that a text is read with has proper levels. -/
theorem proper_of_ofText {text : String} {spec : ImtLevels} (read : ofText text = .ok spec) :
    ∀ levels ∈ spec.values, Proper levels := by
  obtain ⟨literal, -, read⟩ := bind_eq_ok.mp read
  cases literal with
  | dict entries =>
    obtain ⟨pairs, -, added⟩ := bind_eq_ok.mp read
    exact proper_of_addLevels added (fun _ member => absurd member List.not_mem_nil)
  | none => cases read
  | bool b => cases read
  | number x => cases read
  | text s => cases read
  | list items => cases read

section Text

/-- The levels of a measure as a list. -/
def levelsText (levels : List Binary64) : List Char :=
  '[' :: ([',', ' '].intercalate (levels.map (·.text.toList)) ++ [']'])

theorem spelled_levels {levels : List Binary64} (finite : ∀ x ∈ levels, x.isFinite = true) :
    Literal.Spelled 2 (.list (levels.map .number)) (levelsText levels) :=
  .inl (Literal.enclosed_map fun x member => numberText_of_finite (finite x member))

theorem toList_text (spec : ImtLevels) : spec.text.toList =
    Literal.mappingText (fun e : Imt × List Binary64 => e.1.name.toList)
      (fun e => levelsText e.2) spec.toList := by
  have entry (e : Imt × List Binary64) : (entryText e.1 e.2).toList =
      Literal.entryText (fun e : Imt × List Binary64 => e.1.name.toList)
        (fun e => levelsText e.2) e := by
    simp [entryText, Literal.entryText, levelsText, Text.toList_join, Function.comp_def]
  simp [text, Literal.mappingText, Text.toList_join, Function.comp_def, entry]

theorem numbers_number (imt : Imt) (levels : List Binary64) :
    numbers imt (levels.map .number) = .ok levels := by
  have read : numbers imt (levels.map .number) = .ok (levels.map id) :=
    mapM_map_ok fun x _ => rfl
  rwa [List.map_id] at read

theorem literal_text {spec : ImtLevels} (proper : ∀ e ∈ spec.toList, Proper e.2) :
    Literal.ofText spec.text = .ok (.dict (spec.toList.map fun e =>
      (.text e.1.name, .list (e.2.map .number)))) :=
  Literal.ofText_mapping 1 (Nat.le_refl 1) (toList_text spec) fun e member =>
    ⟨e.1.name_plain, spelled_levels (proper e member).finite⟩

/-- Proper levels are read back if the names of their measures are. -/
theorem ofText_text {spec : ImtLevels} (proper : ∀ e ∈ spec.toList, Proper e.2)
    (readable : ∀ e ∈ spec.toList, e.1.Readable) : ofText spec.text = .ok spec := by
  have pairs : (spec.toList.map fun e => (Literal.text e.1.name, Literal.list (e.2.map .number))).mapM
      (fun e => pairOf e.1 e.2) = .ok (spec.toList.map id) := by
    refine mapM_map_ok fun e member => ?_
    simp only [pairOf, Literal.text?, Imt.ofText_name (readable e member), numbers_number,
      Except.mapError]
    rfl
  rw [List.map_id] at pairs
  unfold ofText
  rw [literal_text proper]
  show (_ >>= _) = _
  simp only [Except.mapError, bind, Except.bind, pairs]
  exact ofPairs_toList proper

/-- Levels are not read back if the name of a measure is not. -/
theorem ofText_text_unreadable {spec : ImtLevels} (proper : ∀ e ∈ spec.toList, Proper e.2)
    {e : Imt × List Binary64} (member : e ∈ spec.toList) (unreadable : ¬e.1.Readable)
    (other : ImtLevels) : ofText spec.text ≠ .ok other := by
  intro read
  unfold ofText at read
  rw [literal_text proper] at read
  obtain ⟨_, same, read⟩ := bind_eq_ok.mp read
  cases same
  obtain ⟨pairs, each, -⟩ := bind_eq_ok.mp read
  obtain ⟨pair, -, found⟩ := ok_of_mem_mapM each (List.mem_map_of_mem member)
  simp only [pairOf, Literal.text?, Imt.ofText_name_unreadable unreadable, Except.mapError] at found
  cases found

/-- Levels are read back from their text exactly if every measure has some, they ascend, and every
measure is read back from its name. -/
theorem ofText_text_iff (spec : ImtLevels) : ofText spec.text = .ok spec ↔
    (∀ e ∈ spec.toList, e.2 ≠ [] ∧ Ascending e.2) ∧
      ∀ imt ∈ spec.imts, Imt.ofText imt.name = .ok imt := by
  have measures : (∀ imt ∈ spec.imts, Imt.ofText imt.name = .ok imt) ↔
      ∀ e ∈ spec.toList, e.1.Readable := by
    simp [imts, SortedMap.keys, Imt.ofText_name_iff]
  simp only [measures, ← proper_iff_ascending]
  constructor
  · intro read
    have proper : ∀ e ∈ spec.toList, Proper e.2 := fun e member =>
      proper_of_ofText read e.2 (List.mem_map_of_mem member)
    refine ⟨proper, fun e member => Decidable.not_not.mp fun unreadable => ?_⟩
    exact ofText_text_unreadable proper member unreadable spec read
  · rintro ⟨proper, readable⟩
    exact ofText_text proper readable

end Text

end ImtLevels
end HazardJob
