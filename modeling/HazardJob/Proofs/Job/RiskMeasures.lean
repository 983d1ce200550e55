import HazardJob.Proofs.Imt.Order
import HazardJob.Proofs.Job.Complete
import HazardJob.Proofs.Job.Stable

/-! Measures that risk models add. The measures in effect only grow, and what was there first stays;
the parameters follow them as far as they can, and say the same wherever all measures have levels or
none does. A uniform hazard spectrum needs a measure that it can be made of. -/
namespace HazardJob

/-- The measures that a uniform hazard spectrum is made of: peak ground acceleration, and spectral
acceleration at any period. -/
inductive Imt.InSpectrum : Imt → Prop where
  | pga : InSpectrum (.scalar .pga)
  | acceleration (period : Period) : InSpectrum (.spectral .sa period)

namespace ImtLevels

/-- Every measure has levels, or none has. -/
def Uniform (spec : ImtLevels) : Prop :=
  (∀ levels ∈ spec.values, levels ≠ []) ∨ ∀ levels ∈ spec.values, levels = []

/-- Every measure of the one stands in the other, with the same levels. -/
def Within (a b : ImtLevels) : Prop :=
  ∀ imt levels, a.get? imt = some levels → b.get? imt = some levels

theorem Within.extend {a b : ImtLevels} (within : a.Within b) (more : ImtLevels) :
    a.Within (b.extend more) := by
  intro imt levels given
  rw [SortedMap.get?_extend, within imt levels given]
  rfl

/-- Measures without levels are all that a list of them says. -/
theorem ofImts_imts {spec : ImtLevels} (bare : ∀ levels ∈ spec.values, levels = []) :
    ofImts spec.imts = spec := by
  have listed : spec.imts.map (·, []) = spec.toList := by
    show (spec.toList.map (·.1)).map (·, []) = spec.toList
    rw [List.map_map]
    conv_rhs => rw [← List.map_id spec.toList]
    apply List.map_congr_left
    intro e member
    exact Prod.ext rfl (bare e.2 (List.mem_map_of_mem member)).symm
  rw [ofImts, listed, SortedMap.ofList_toList]

end ImtLevels

namespace Job

/-- The parameters say of the measures in effect what they can: nothing else, and all of it where
it can be written there. -/
structure Aligned (job : Job) : Prop where
  within : (Draft.measuresOf job.params).Within job.measures
  same : job.measures.Uniform → Draft.measuresOf job.params = job.measures

theorem Aligned.of_eq {job : Job} (same : Draft.measuresOf job.params = job.measures) :
    job.Aligned where
  within := by
    intro imt levels given
    rwa [same] at given
  same _ := same

/-- Taking the measures into the parameters aligns a job whose parameters say nothing else. -/
theorem syncParams_aligned {job : Job} (within : (Draft.measuresOf job.params).Within job.measures) :
    job.syncParams.Aligned := by
  unfold syncParams
  split
  · exact .of_eq rfl
  rename_i unlevelled
  split
  · rename_i bare
    simp only [List.all_eq_true, List.isEmpty_iff] at bare
    exact .of_eq (ImtLevels.ofImts_imts bare)
  · rename_i mixed
    constructor
    · exact within
    · intro uniform
      exfalso
      rcases uniform with levels | bare
      · cases empty : job.measures.isEmpty with
        | true =>
          have nothing : job.measures.values = [] := by
            simpa [SortedMap.isEmpty, SortedMap.values] using empty
          simp [nothing] at mixed
        | false =>
          apply unlevelled
          simpa [ImtLevels.hasLevels, empty] using levels
      · apply mixed
        simpa using bare

section Spectrum

/-- The name of a measure tells what it is. -/
theorem isSpectral_iff {imt : Imt} : isSpectral imt = true ↔ imt.InSpectrum := by
  constructor
  · intro spectral
    simp only [isSpectral, Imt.isSpectralAcceleration, Bool.or_eq_true, beq_iff_eq] at spectral
    rcases spectral with acceleration | ground
    · cases imt with
      | scalar measure =>
        have read := measure.ofName?_name
        rw [show measure.name = "SA" from acceleration] at read
        cases read
      | spectral family period =>
        have read := family.ofName?_name
        rw [show family.name = "SA" from acceleration] at read
        cases read
        exact .acceleration period
      | inelastic period strength =>
        have apart : Imt.inelasticFamily ≠ "SA" := by decide
        exact absurd acceleration apart
    · cases Imt.name_injective (a := Imt.pga) ground.symm
      exact .pga
  · intro inside
    cases inside with
    | pga => decide
    | acceleration period => rfl

/-- One measure is counted exactly if there is exactly one, for no measure is listed twice. -/
theorem countP_isSpectral {spec : ImtLevels} :
    spec.imts.countP isSpectral = 1 ↔ ∃! imt, imt ∈ spec.imts ∧ imt.InSpectrum := by
  have distinct : (spec.imts.filter isSpectral).Nodup := spec.keys_nodup.filter _
  have member (imt : Imt) : imt ∈ spec.imts.filter isSpectral ↔ imt ∈ spec.imts ∧ imt.InSpectrum := by
    rw [List.mem_filter, isSpectral_iff]
  rw [List.countP_eq_length_filter, List.length_eq_one_iff]
  constructor
  · rintro ⟨imt, single⟩
    rw [single] at member
    refine ⟨imt, (member imt).mp List.mem_cons_self, fun other found => ?_⟩
    exact List.mem_singleton.mp ((member other).mpr found)
  · rintro ⟨imt, found, only⟩
    refine ⟨imt, List.perm_singleton.mp ?_⟩
    apply (List.perm_ext_iff_of_nodup distinct (List.nodup_singleton imt)).mpr
    intro other
    rw [member, List.mem_singleton]
    constructor
    · exact only other
    · rintro rfl
      exact found

/-- A spectrum is refused if it would have no points; one point is worth a warning. -/
theorem checkSpectrum_spec (job : Job) :
    (∀ e, job.checkSpectrum.1 = .error e ↔ e = .noSpectrum ∧
      job.params.uniformHazardSpectra = true ∧ ∀ imt ∈ job.measures.imts, ¬imt.InSpectrum) ∧
    job.checkSpectrum.2 = { job with diagnostics := job.checkSpectrum.2.diagnostics } ∧
    ((job.params.uniformHazardSpectra = true ∧ ∃! imt, imt ∈ job.measures.imts ∧ imt.InSpectrum) ∧
        job.checkSpectrum.2.diagnostics = job.diagnostics ++ [.singlePointSpectrum] ∨
      ¬(job.params.uniformHazardSpectra = true ∧
          ∃! imt, imt ∈ job.measures.imts ∧ imt.InSpectrum) ∧
        job.checkSpectrum.2.diagnostics = job.diagnostics) := by
  have none_iff : job.measures.imts.countP isSpectral = 0 ↔
      ∀ imt ∈ job.measures.imts, ¬imt.InSpectrum := by
    simp only [List.countP_eq_zero, isSpectral_iff]
  rw [← none_iff, ← countP_isSpectral]
  unfold checkSpectrum
  cases job.params.uniformHazardSpectra with
  | false => simp
  | true =>
    generalize job.measures.imts.countP isSpectral = count
    match count with
    | 0 => simp [eq_comm]
    | 1 => simp [record]
    | count + 2 => simp

end Spectrum

section Operations

/-- Of the parameters, only those that name measures are rewritten. -/
theorem syncParams_eq (job : Job) : ∃ imtLevels imtList,
    job.syncParams = { job with params := { job.params with imtLevels, imtList } } := by
  unfold syncParams
  split
  · exact ⟨_, _, rfl⟩
  · split
    · exact ⟨_, _, rfl⟩
    · exact ⟨job.params.imtLevels, job.params.imtList, rfl⟩

theorem measures_setRiskImts (job : Job) (risk : ImtLevels) :
    (job.setRiskImts risk).2.measures = job.measures.extend risk := by
  obtain ⟨levels, listed, synced⟩ := (job.addMeasures risk).syncParams_eq
  rw [setRiskImts, (checkSpectrum_spec _).2.1, synced]
  rfl

theorem Aligned.setRiskImts {job : Job} (aligned : job.Aligned) (risk : ImtLevels) :
    (job.setRiskImts risk).2.Aligned := by
  have synced : (job.addMeasures risk).syncParams.Aligned :=
    syncParams_aligned (aligned.within.extend risk)
  rw [Job.setRiskImts, (checkSpectrum_spec _).2.1]
  exact ⟨synced.within, synced.same⟩

theorem Aligned.of_settles {a b : Job} (aligned : a.Aligned) (settles : a.Settles b) :
    b.Aligned := by
  have measures : a.measures = b.measures := congrArg (·.measures) settles.core
  constructor
  · rw [settles.measuresOf, ← measures]
    exact aligned.within
  · rw [settles.measuresOf, ← measures]
    exact aligned.same

theorem aligned_built {d : Draft} {files : FileTree} {job : Job} (built : d.build files = .ok job) :
    job.Aligned := .of_eq (Draft.measures_built built).symm

theorem Reached.aligned {job j : Job} (reached : job.Reached j) (settled : job.PoesSettled)
    (aligned : job.Aligned) : j.Aligned := by
  induction reached with
  | start => exact aligned
  | validate files before ih =>
    exact ih.of_settles (Workspace.validate_settles (w := ⟨files, _⟩) (before.settled settled))
  | setRegions regions _ ih => exact ⟨ih.within, ih.same⟩
  | setRiskImts risk _ ih => exact ih.setRiskImts risk

end Operations

/-- What adding the measures of a risk model comes to. Those in effect stay as they are; a spectrum
that would have no points is refused, and one that would have a single point is recorded. -/
structure Augments (risk : ImtLevels) (before after : Job) (result : Except JobError Unit) :
    Prop where
  measures : ∀ imt, after.measures.get? imt = (before.measures.get? imt).or (risk.get? imt)
  refused : ∀ e, result = .error e ↔ e = .noSpectrum ∧
    before.params.uniformHazardSpectra = true ∧ ∀ imt ∈ after.measures.imts, ¬imt.InSpectrum
  recorded : (before.params.uniformHazardSpectra = true ∧
        ∃! imt, imt ∈ after.measures.imts ∧ imt.InSpectrum) ∧
      after.diagnostics = before.diagnostics ++
        [{ severity := .warning, code := .singlePointSpectrum
           parameter := some "uniform_hazard_spectra"
           message :=
            "There is a single IMT, the uniform_hazard_spectra plot will contain a single point" }] ∨
    ¬(before.params.uniformHazardSpectra = true ∧
        ∃! imt, imt ∈ after.measures.imts ∧ imt.InSpectrum) ∧
      after.diagnostics = before.diagnostics

theorem setRiskImts_augments (job : Job) (risk : ImtLevels) :
    job.Augments risk (job.setRiskImts risk).2 (job.setRiskImts risk).1 := by
  obtain ⟨levels, listed, synced⟩ := (job.addMeasures risk).syncParams_eq
  obtain ⟨refused, -, recorded⟩ := checkSpectrum_spec (job.addMeasures risk).syncParams
  constructor
  · intro imt
    rw [measures_setRiskImts, SortedMap.get?_extend]
  · rw [measures_setRiskImts]
    rw [synced] at refused
    rwa [setRiskImts, synced]
  · rw [measures_setRiskImts]
    rw [synced, Diagnostic.singlePointSpectrum_eq] at recorded
    rwa [setRiskImts, synced]

/-- Whatever was made of a job since it was built, its parameters say of the measures in effect what
they can, and say all of it where every measure has levels or none has. The measures of a risk model
are added to those in effect, and those of two risk models one after the other like those of the
first, extended by the second. A spectrum that is asked for is refused if it has no point, and warned
of if it has a single one. -/
theorem measures_reached {d : Draft} {files : FileTree} {job j : Job}
    (built : d.build files = .ok job) (reached : job.Reached j) :
    (Draft.measuresOf j.params).Within j.measures ∧
      (j.measures.Uniform → Draft.measuresOf j.params = j.measures) ∧
      (∀ risk, j.Augments risk (j.setRiskImts risk).2 (j.setRiskImts risk).1) ∧
      ∀ risk more, ((j.setRiskImts risk).2.setRiskImts more).2.measures =
        (j.setRiskImts (risk.extend more)).2.measures := by
  have aligned := reached.aligned (Draft.build_settled built) (aligned_built built)
  refine ⟨aligned.within, aligned.same, j.setRiskImts_augments, ?_⟩
  intro risk more
  simp only [measures_setRiskImts, SortedMap.extend_assoc]

/-- A scenario with spectra and a measure that none can be made of. -/
def spectra : Draft :=
  Draft.scenario.setAll [("uniform_hazard_spectra", some "true"), ("poes", some "0.1"),
    ("intensity_measure_types", some "PGV")]

/-- A risk model for peak ground acceleration. -/
def groundRisk : ImtLevels := SortedMap.ofList [(.pga, [.ofDecimal false 1 (-1)])]

theorem measures_spectra : ∃ job, spectra.build ⟨[], []⟩ = .ok job ∧
    let j := (Workspace.mk ⟨[], []⟩ job).validate.2.job
    ¬(j.setRiskImts groundRisk).2.measures.Uniform ∧
      (j.setRiskImts groundRisk).2.warnings = j.warnings ++
        [{ severity := .warning, code := .singlePointSpectrum
           parameter := some "uniform_hazard_spectra"
           message :=
            "There is a single IMT, the uniform_hazard_spectra plot will contain a single point" }] ∧
      (∃! imt, imt ∈ (j.setRiskImts groundRisk).2.measures.imts ∧ imt.InSpectrum) ∧
      (Draft.measuresOf (j.setRiskImts groundRisk).2.params).Within
        (j.setRiskImts groundRisk).2.measures := by
  have computed : ((spectra.build ⟨[], []⟩).toOption.any fun job =>
      let j := (Workspace.mk ⟨[], []⟩ job).validate.2.job
      let left := (j.setRiskImts groundRisk).2
      left.measures.values.any (·.isEmpty) && left.measures.values.any (!·.isEmpty) &&
        decide (left.diagnostics ≠ j.diagnostics)) = true := by decide +kernel
  obtain ⟨job, built, found⟩ := any_toOption_iff.mp computed
  simp only [Bool.and_eq_true, List.any_eq_true, List.isEmpty_iff, Bool.not_eq_true',
    List.isEmpty_eq_false_iff, decide_eq_true_eq] at found
  obtain ⟨⟨⟨none, bare, empty⟩, some, levelled, levels⟩, recorded⟩ := found
  have validated : job.Reached (Workspace.mk ⟨[], []⟩ job).validate.2.job := .validate _ .start
  obtain ⟨-, -, augments, -⟩ := measures_reached built validated
  obtain ⟨within, -⟩ := measures_reached built (validated.setRiskImts groundRisk)
  refine ⟨job, built, ?_, ?_⟩
  · rintro (all | nothing)
    · exact all none bare empty
    · exact levels (nothing some levelled)
  · rcases (augments groundRisk).recorded with ⟨⟨-, one⟩, warned⟩ | ⟨-, silent⟩
    · refine ⟨?_, one, within⟩
      rw [warnings, warned, List.filter_append]
      rfl
    · exact absurd silent recorded

end Job
end HazardJob
