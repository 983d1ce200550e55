import HazardJob.Param.Rule
import HazardJob.Proofs.ImtLevels

/-! Parameters that map intensity measures to numbers or tectonic regions to distances. A mapping is
read back from its text unless a number or a measure in it is not, or the name of a region holds the
mark that quotes it. -/
namespace HazardJob

open Reading

namespace Rule

section ImtFloats

/-- A number that is read from what it is written as, for a measure that is. -/
def ReadableEntry (e : Imt × Binary64) : Prop := e.1.Readable ∧ e.2 ≠ .infinity true

instance (e : Imt × Binary64) : Decidable (ReadableEntry e) := instDecidableAnd

theorem toList_imtFloatsText (values : SortedMap Imt Binary64) :
    (ParamValue.imtFloatsText values).toList = Literal.mappingText
      (fun e : Imt × Binary64 => e.1.name.toList) (fun e => e.2.text.toList) values.toList :=
  Literal.toList_mapping _ _ _

theorem literal_imtFloatsText {values : SortedMap Imt Binary64}
    (proper : ∀ e ∈ values.toList, e.2 ≠ .infinity true) :
    Literal.ofText (ParamValue.imtFloatsText values) =
      .ok (.dict (values.toList.map fun e => (.text e.1.name, .number e.2))) :=
  Literal.ofText_mapping 0 (Nat.zero_le 1) (toList_imtFloatsText values)
    fun e member => ⟨e.1.name_plain, numberText_text (proper e member)⟩

/-- Numbers by measure are read back if every entry is. -/
theorem imtFloatsOf_text {values : SortedMap Imt Binary64}
    (readable : ∀ e ∈ values.toList, ReadableEntry e) :
    imtFloatsOf (ParamValue.imtFloatsText values) = .ok values := by
  have pairs : (values.toList.map fun e => (Literal.text e.1.name, Literal.number e.2)).mapM
      (fun e => imtFloat e.1 e.2) = .ok (values.toList.map id) := by
    refine mapM_map_ok fun e member => ?_
    simp only [imtFloat, Literal.text?, Imt.ofText_name (readable e member).1, Except.mapError,
      Literal.number?]
    rfl
  rw [List.map_id] at pairs
  unfold imtFloatsOf
  rw [literal_imtFloatsText fun e member => (readable e member).2]
  simp only [Except.mapError, bind, Except.bind, pairs, SortedMap.ofList_toList]
  rfl

/-- Numbers by measure are not read back if some entry is not. -/
theorem imtFloatsOf_text_unreadable {values : SortedMap Imt Binary64} {e : Imt × Binary64}
    (member : e ∈ values.toList) (unreadable : ¬ReadableEntry e)
    (other : SortedMap Imt Binary64) :
    imtFloatsOf (ParamValue.imtFloatsText values) ≠ .ok other := by
  intro read
  unfold imtFloatsOf at read
  obtain ⟨literal, parsed, read⟩ := bind_eq_ok.mp read
  rw [mapError_eq_ok] at parsed
  cases found : values.toList.find? fun e => decide (e.2 = .infinity true) with
  | some first =>
    obtain ⟨isInfinite, before, after, split, earlier⟩ := List.find?_eq_some_iff_append.mp found
    have written := toList_imtFloatsText values
    rw [split] at written
    have spelled : ∀ e ∈ before, '"' ∉ e.1.name.toList ∧
        Literal.Spelled 1 (.number e.2) e.2.text.toList := by
      intro e member
      exact ⟨e.1.name_plain, numberText_text (by simpa using earlier e member)⟩
    refine Literal.ofText_unreadable 0 (Nat.zero_le 1) (fun e => .number e.2) written spelled
      first.1.name_plain ?_ literal parsed
    rw [of_decide_eq_true isInfinite]
    exact Literal.unreadable_minusInfinity
  | none =>
    have proper : ∀ e ∈ values.toList, e.2 ≠ .infinity true := by
      simpa using List.find?_eq_none.mp found
    have unknown : ¬e.1.Readable := fun readable => unreadable ⟨readable, proper e member⟩
    rw [literal_imtFloatsText proper] at parsed
    cases parsed
    obtain ⟨pairs, each, -⟩ := bind_eq_ok.mp read
    obtain ⟨pair, -, converted⟩ := ok_of_mem_mapM each (List.mem_map_of_mem member)
    simp only [imtFloat, Literal.text?, Imt.ofText_name_unreadable unknown, Except.mapError]
      at converted
    cases converted

end ImtFloats

section Distance

/-- Every distance is above zero. -/
def Positive : MaximumDistance → Prop
  | .uniform d => Binary64.zero.numericLt d = true
  | .byRegion distances => ∀ d ∈ distances.values, Binary64.zero.numericLt d = true

theorem positiveDistance_ok {what : String} {d e : Binary64}
    (read : positiveDistance what d = .ok e) : e = d ∧ Binary64.zero.numericLt d = true := by
  unfold positiveDistance at read
  split at read
  · rename_i positive
    cases read
    exact ⟨rfl, positive⟩
  · cases read

theorem positiveDistance_of {what : String} {d : Binary64}
    (positive : Binary64.zero.numericLt d = true) : positiveDistance what d = .ok d := by
  simp only [positiveDistance, positive, if_true]

theorem regionDistance_ok {key value : Literal} {pair : String × Binary64}
    (read : regionDistance key value = .ok pair) :
    key = .text pair.1 ∧ Binary64.zero.numericLt pair.2 = true := by
  cases key with
  | text region =>
    cases value with
    | number x =>
      obtain ⟨d, checked, same⟩ := bind_eq_ok.mp read
      cases same
      obtain ⟨rfl, positive⟩ := positiveDistance_ok checked
      exact ⟨rfl, positive⟩
    | none => cases read
    | bool b => cases read
    | text s => cases read
    | list items => cases read
    | dict entries => cases read
  | none => cases read
  | bool b => cases read
  | number x => cases read
  | list items => cases read
  | dict entries => cases read

/-- What is read as a distance is above zero throughout. -/
theorem positive_of_distanceOf {text : String} {d : MaximumDistance}
    (read : distanceOf text = .ok d) : Positive d := by
  obtain ⟨literal, -, read⟩ := bind_eq_ok.mp read
  cases literal with
  | number x =>
    obtain ⟨y, checked, same⟩ := bind_eq_ok.mp read
    cases same
    obtain ⟨rfl, positive⟩ := positiveDistance_ok checked
    exact positive
  | dict entries =>
    obtain ⟨pairs, each, same⟩ := bind_eq_ok.mp read
    cases same
    intro y member
    obtain ⟨pair, inside, rfl⟩ := List.mem_map.mp (SortedMap.mem_values_ofList member)
    obtain ⟨e, -, found⟩ := mem_mapM_ok each inside
    exact (regionDistance_ok found).2
  | none => cases read
  | bool b => cases read
  | text s => cases read
  | list items => cases read

theorem toList_byRegion (distances : SortedMap String Binary64) :
    (MaximumDistance.byRegion distances).text.toList = Literal.mappingText
      (fun e : String × Binary64 => e.1.toList) (fun e => e.2.text.toList) distances.toList :=
  Literal.toList_mapping _ _ _

/-- Distances above zero are read back if no region holds the quotation mark. -/
theorem distanceOf_text {d : MaximumDistance} (positive : Positive d)
    (plain : ∀ distances, d = .byRegion distances → ∀ key ∈ distances.keys, '"' ∉ key.toList) :
    distanceOf d.text = .ok d := by
  cases d with
  | uniform x =>
    have parsed : Literal.ofText x.text = .ok (.number x) :=
      Literal.ofText_of_spelled (show Literal.Spelled 1 (.number x) x.text.toList from
        numberText_text (Binary64.proper_of_numericLt positive).2) (Nat.le_add_left _ _)
    unfold distanceOf
    rw [MaximumDistance.text, parsed]
    simp only [Except.mapError, bind, Except.bind, positiveDistance_of positive]
    rfl
  | byRegion distances =>
    have value (e : String × Binary64) (member : e ∈ distances.toList) :
        Binary64.zero.numericLt e.2 = true := positive e.2 (List.mem_map_of_mem member)
    have parsed : Literal.ofText (MaximumDistance.byRegion distances).text =
        .ok (.dict (distances.toList.map fun e => (.text e.1, .number e.2))) :=
      Literal.ofText_mapping 0 (Nat.zero_le 1) (toList_byRegion distances)
        fun e member => ⟨plain distances rfl e.1 (List.mem_map_of_mem member),
          numberText_text (Binary64.proper_of_numericLt (value e member)).2⟩
    have pairs : (distances.toList.map fun e => (Literal.text e.1, Literal.number e.2)).mapM
        (fun e => regionDistance e.1 e.2) = .ok (distances.toList.map id) := by
      refine mapM_map_ok fun e member => ?_
      simp only [regionDistance, Literal.text?, Literal.number?, bind, Except.bind,
        positiveDistance_of (value e member)]
      rfl
    rw [List.map_id] at pairs
    unfold distanceOf
    rw [parsed]
    simp only [Except.mapError, bind, Except.bind, pairs, SortedMap.ofList_toList]
    rfl

/-! A region with the quotation mark in its name takes two apostrophes to be read, and no text has
more apostrophes than are in it: what is read from it names other regions. -/

/-- Apostrophes that a literal takes at least: its own, and two around a quotation mark. -/
def apostrophes (region : String) : Nat :=
  region.toList.count '\x27' + if '"' ∈ region.toList then 2 else 0

theorem apostrophes_le_count {depth : Nat} {region : String} {t : List Char}
    (spells : Literal.Spelled depth (.text region) t) : apostrophes region ≤ t.count '\x27' := by
  cases depth with
  | zero => exact spells.elim
  | succ depth =>
    unfold apostrophes
    rcases spells with ⟨none, rfl⟩ | ⟨none, rfl⟩
    · have own : region.toList.count '\x27' = 0 := List.count_eq_zero.mpr none
      simp only [List.count_cons, List.count_append, own]
      split <;> simp
    · simp [none]

theorem sum_apostrophes_le {depth : Nat} {entries : List (Literal × Literal)}
    {pairs : List (String × Binary64)} {u : List Char}
    (listed : Listed (Literal.Paired (Literal.Spelled depth)) entries u)
    (each : entries.mapM (fun e => regionDistance e.1 e.2) = .ok pairs) :
    (pairs.map fun e => apostrophes e.1).sum ≤ u.count '\x27' := by
  have first {e : Literal × Literal} {pair : String × Binary64} {t : List Char}
      (paired : Literal.Paired (Literal.Spelled depth) e t)
      (found : regionDistance e.1 e.2 = .ok pair) : apostrophes pair.1 ≤ t.count '\x27' := by
    obtain ⟨key, v, w, value, rfl, keySpelled, -⟩ := paired
    rw [(regionDistance_ok found).1] at keySpelled
    have enough := apostrophes_le_count keySpelled
    simp only [List.count_append]
    omega
  induction listed generalizing pairs with
  | one paired =>
    obtain ⟨pair, more, found, rest, rfl⟩ := mapM_cons_ok.mp each
    cases rest
    simpa using first paired found
  | more paired _ _ _ ih =>
    obtain ⟨pair, more, found, rest, rfl⟩ := mapM_cons_ok.mp each
    have here := first paired found
    have later := ih rest
    simp only [List.map_cons, List.sum_cons, List.count_append, List.count_cons]
    omega

/-- Regions that are read from a mapping take no more apostrophes than are in its text. -/
theorem dict_apostrophes_le {depth : Nat} {entries : List (Literal × Literal)}
    {pairs : List (String × Binary64)} {t : List Char}
    (spells : Literal.Spelled depth (.dict entries) t)
    (each : entries.mapM (fun e => regionDistance e.1 e.2) = .ok pairs) :
    (pairs.map fun e => apostrophes e.1).sum ≤ t.count '\x27' := by
  cases depth with
  | zero => exact spells.elim
  | succ depth =>
    obtain ⟨v, body, w, last, x, rfl, -, -, -, -, content⟩ := spells
    rcases content with ⟨rfl, -⟩ | listed
    · cases each
      exact Nat.zero_le _
    · have listedBound := sum_apostrophes_le listed each
      simp only [List.count_cons, List.count_append]
      omega

theorem count_byRegion (distances : SortedMap String Binary64) :
    (MaximumDistance.byRegion distances).text.toList.count '\x27' =
      (distances.keys.map fun key => key.toList.count '\x27').sum := by
  have number (x : Binary64) : x.text.toList.count '\x27' = 0 := by
    refine List.count_eq_zero.mpr fun member => ?_
    have plain := Binary64.mem_text member
    revert plain
    decide
  have entries (es : List (String × Binary64)) :
      ([',', ' '].intercalate (es.map (Literal.entryText (fun e => e.1.toList)
        (fun e => e.2.text.toList)))).count '\x27' =
        (es.map fun e => e.1.toList.count '\x27').sum := by
    induction es with
    | nil => rfl
    | cons e more ih =>
      have here : (Literal.entryText (fun e : String × Binary64 => e.1.toList)
          (fun e => e.2.text.toList) e).count '\x27' = e.1.toList.count '\x27' := by
        simp [Literal.entryText, number]
      cases more with
      | nil => simp [here]
      | cons e' more =>
        rw [List.map_cons, List.map_cons, List.intercalate_cons_cons, List.count_append,
          List.count_append, ← List.map_cons, ih, here]
        simp
  rw [toList_byRegion]
  simp only [Literal.mappingText, List.count_cons, List.count_append, entries, SortedMap.keys,
    List.map_map, Function.comp_def]
  simp

/-- Distances of which a region holds the quotation mark are not read back. -/
theorem distanceOf_text_quoted {distances : SortedMap String Binary64} {key : String}
    (member : key ∈ distances.keys) (quoted : '"' ∈ key.toList) {other : SortedMap String Binary64}
    (read : distanceOf (MaximumDistance.byRegion distances).text = .ok (.byRegion other)) :
    other.keys ≠ distances.keys := by
  intro same
  obtain ⟨literal, parsed, read⟩ := bind_eq_ok.mp read
  obtain ⟨depth, v, t, w, split, -, -, spells⟩ :=
    Literal.spelled_of_ofText (mapError_eq_ok.mp parsed)
  cases literal with
  | dict entries =>
    obtain ⟨pairs, each, made⟩ := bind_eq_ok.mp read
    cases made
    have bound := dict_apostrophes_le spells each
    have whole : t.count '\x27' ≤ (distances.keys.map fun key => key.toList.count '\x27').sum := by
      rw [← count_byRegion, split]
      simp only [List.count_append]
      omega
    have kept : distances.keys ⊆ pairs.map (·.1) := fun k inside =>
      SortedMap.mem_keys_ofList (same ▸ inside)
    obtain ⟨chosen, perm, sublist⟩ := distances.keys_nodup.subperm kept
    have fewer : (distances.keys.map apostrophes).sum ≤ (pairs.map fun e => apostrophes e.1).sum := by
      have mapped := (sublist.map apostrophes).sum_le_sum fun _ _ => Nat.zero_le _
      rw [(perm.map apostrophes).sum_eq, List.map_map] at mapped
      exact mapped
    have more : (distances.keys.map fun key => key.toList.count '\x27').sum <
        (distances.keys.map apostrophes).sum := by
      refine List.sum_lt_sum _ _ (fun k _ => Nat.le_add_right _ _) ⟨key, member, ?_⟩
      rw [apostrophes, if_pos quoted]
      omega
    omega
  | number x =>
    obtain ⟨y, -, made⟩ := bind_eq_ok.mp read
    cases made
  | none => cases read
  | bool b => cases read
  | text s => cases read
  | list items => cases read

end Distance

end Rule
end HazardJob
