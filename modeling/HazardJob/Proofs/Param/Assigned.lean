import HazardJob.Proofs.Param.Record

/-! Assigning a value to a parameter, seen through the entries of a record: the entry of that
parameter is the value as it is kept, and every other entry stays what and where it is. Assigning
the entries of a record one after the other makes that record. -/
namespace HazardJob
namespace JobParams

section Entries

variable {p r : JobParams} {q : Param} {v : ParamValue}

/-- The entries of other parameters are not touched. -/
theorem entries_set?_other (set : p.set? q v = some r) :
    r.entries.filter (·.1 ≠ q) = p.entries.filter (·.1 ≠ q) := by
  simp only [entries, List.filter_filterMap]
  apply List.filterMap_congr
  intro other _
  by_cases same : other = q
  · subst same
    cases r.get? other <;> cases p.get? other <;> simp [Option.filter]
  · rw [get?_set?_other set same]

/-- A parameter is listed once, so it has one entry at most. -/
theorem entries_self (r : JobParams) (q : Param) :
    r.entries.filter (·.1 = q) = ((r.get? q).map (q, ·)).toList := by
  have once : Param.all.filter (· == q) = [q] := by
    rw [List.filter_beq, List.count_eq_one_of_mem Param.all_nodup q.mem_all]
    rfl
  have restricted : r.entries.filter (·.1 = q) =
      (Param.all.filter (· == q)).filterMap fun other => (r.get? other).map (other, ·) := by
    simp only [entries, List.filter_filterMap, List.filterMap_filter]
    apply List.filterMap_congr
    intro other _
    by_cases same : other = q
    · cases r.get? other <;> simp [same]
    · cases r.get? other <;> simp [same]
  rw [restricted, once]
  cases given : r.get? q <;> simp [given]

theorem entries_set?_self (set : p.set? q v = some r) :
    r.entries.filter (·.1 = q) = ((q.kept v).map (q, ·)).toList := by
  rw [entries_self, get?_set?_self set]

/-- A name that is assigned to is that of a parameter. -/
theorem set?_of_assign {name : String} (assigned : p.assign name v = .ok r) :
    ∃ q : Param, q.name = name ∧ p.set? q v = some r := by
  unfold assign at assigned
  split at assigned
  · rename_i s found
    cases assigned
    obtain ⟨q, named, set⟩ := Option.bind_eq_some_iff.mp found
    have name := List.find?_some named
    exact ⟨q, beq_iff_eq.mp name, set⟩
  · cases assigned

end Entries

/-- Records and their entries stand for each other. Assigning the entries of a record to a blank
one makes that record; and whatever value a name accepts, assigning it leaves all entries but one as
they are, and that one is the value as the parameter keeps it. -/
theorem entries_lawful (p : JobParams) :
    Draft.assignAll (.blank p.calculationMode) p.entries = .ok p ∧
      ∀ name v r, p.assign name v = .ok r → ∃ q : Param, q.name = name ∧
        r.entries.filter (·.1 ≠ q) = p.entries.filter (·.1 ≠ q) ∧
        r.entries.filter (·.1 = q) = ((q.kept v).map (q, ·)).toList := by
  constructor
  · exact Draft.assignAll_entries p
  · intro name v r assigned
    obtain ⟨q, named, set⟩ := set?_of_assign assigned
    exact ⟨q, named, entries_set?_other set, entries_set?_self set⟩

/-- A record with a site parameter that is given. -/
def measured : JobParams := { blank .scenario with referenceVs30Type := .value .measured }

/-- Taking the value away again leaves an entry that says so. -/
theorem entries_measured_null :
    ∃ r, measured.assign "reference_vs30_type" .null = .ok r ∧
      r.entries.filter (·.1 ≠ .referenceVs30Type) =
        measured.entries.filter (·.1 ≠ .referenceVs30Type) ∧
      r.entries.filter (·.1 = .referenceVs30Type) = [(.referenceVs30Type, .null)] := by
  have assigned : measured.assign "reference_vs30_type" .null =
      .ok { measured with referenceVs30Type := .null } := rfl
  obtain ⟨q, named, others, self⟩ := (entries_lawful measured).2 _ _ _ assigned
  have same : q = .referenceVs30Type := Param.name_injective named
  subst same
  exact ⟨_, assigned, others, self⟩

end JobParams
end HazardJob
