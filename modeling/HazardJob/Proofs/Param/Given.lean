import HazardJob.Proofs.Param.Record

/-! What settings make of each parameter. A record that they give holds the value of the text that
stands for a parameter, or of what holds where none does, as far as the parameter keeps it. -/
namespace HazardJob.Draft

/-- The value that settings give a parameter, of which the first with its name counts, or what holds
where none has it. -/
def settledValue (settings : List (String × Option String)) (q : Param) :
    Except ParamError (Option ParamValue) :=
  match settings.lookup q.name with
  | some raw => (q.coerce raw).map some
  | none => q.absent

theorem valueOf_of_givenValues {settings : List (String × Option String)} {given : Values}
    (read : givenValues settings = .ok given) (q : Param) :
    valueOf given q = settledValue settings q := by
  induction settings generalizing given with
  | nil =>
    cases read
    rfl
  | cons setting more ih =>
    obtain ⟨name, raw⟩ := setting
    obtain ⟨first, here, read⟩ := bind_eq_ok.mp read
    obtain ⟨others, later, read⟩ := bind_eq_ok.mp read
    cases read
    have rest := ih later
    unfold settingValue at here
    split at here
    · rename_i unknown
      cases here
      have other : (q.name == name) = false := by
        refine beq_eq_false_iff_ne.mpr fun same => ?_
        rw [← same, q.ofName?_name] at unknown
        cases unknown
      rw [settledValue, List.lookup_cons, other]
      exact rest
    · rename_i found known
      obtain ⟨v, coerced, rfl⟩ := map_eq_ok.mp here
      obtain rfl : found.name = name := by simpa using List.find?_some known
      by_cases same : q = found
      · subst same
        simp [valueOf, settledValue, coerced, Except.map]
      · have other : (q.name == found.name) = false :=
          beq_eq_false_iff_ne.mpr fun names => same (Param.name_injective names)
        have apart : (q == found) = false := beq_eq_false_iff_ne.mpr same
        rw [settledValue, List.lookup_cons, other]
        show valueOf ((found, v) :: others) q = _
        rw [valueOf, List.lookup_cons, apart]
        exact rest

/-- Assigning values makes a record that keeps them, beside what stood there before. -/
theorem get?_of_assignAll {p r : JobParams} {value? : Param → Option ParamValue} {qs : List Param}
    (distinct : qs.Nodup) (assigned : assignAll p (valuesOf value? qs) = .ok r) (q : Param) :
    r.get? q = if q ∈ qs then ((value? q).map q.kept).getD (p.get? q) else p.get? q := by
  induction qs generalizing p with
  | nil =>
    cases assigned
    rfl
  | cons first more ih =>
    obtain ⟨new, distinct⟩ := List.nodup_cons.mp distinct
    rw [valuesOf_cons] at assigned
    cases given : value? first with
    | none =>
      rw [given] at assigned
      have rest := ih distinct assigned
      by_cases same : q = first
      · subst same
        simpa [new, given] using rest
      · simpa [same] using rest
    | some v =>
      rw [given] at assigned
      obtain ⟨s, set, assigned⟩ := assignAll_cons.mp assigned
      have rest := ih distinct assigned
      by_cases same : q = first
      · subst same
        simpa [new, given, JobParams.get?_set?_self set] using rest
      · simpa [same, JobParams.get?_set?_other set same] using rest

/-- A record that settings give holds what they settle for each parameter. -/
theorem get?_of_paramsOf {settings : List (String × Option String)} {p : JobParams}
    (made : paramsOf settings = .ok p) (q : Param) :
    ∃ v?, settledValue settings q = .ok v? ∧ p.get? q = v?.bind q.kept := by
  obtain ⟨given, value?, mode, read, each, assigned⟩ := paramsOf_ok made
  have settled := each q
  rw [valueOf_of_givenValues read] at settled
  refine ⟨value? q, settled, ?_⟩
  rw [get?_of_assignAll Param.all_nodup assigned, if_pos q.mem_all]
  cases stands : value? q with
  | some v => rfl
  | none =>
    have free := (valueOf_admits (givenValues_ok read) (each q)).absent stands
    exact get?_blank mode free

end HazardJob.Draft
