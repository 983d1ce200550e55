import HazardJob.Proofs.Files.Directory
import HazardJob.Proofs.Job.Independence

/-! Validation decides a predicate of the job and the files around it, for every job as it is
built. Each condition below is what one check asks for. -/
namespace HazardJob

/-- A directory is there, or can be created. -/
def FileTree.Provides (files : FileTree) (directory : Path) : Prop :=
  files.isDirectory directory = true ∨
    files.pathExists directory = false ∧ (files.createWithParents directory).1 = .ok ()

/-- Distances cover regions, where any are known: a distance by region is for one of them, and
each of them has one, be it the default. -/
def MaximumDistance.Covers (d : MaximumDistance) (regions : RegionSet) : Prop :=
  ∀ distances, d = .byRegion distances → regions.isEmpty = false →
    (∀ key ∈ distances.keys, key ≠ defaultRegion → regions.contains key = true) ∧
      (distances.contains defaultRegion = true ∨
        ∀ region ∈ regions.members, distances.contains region = true)

namespace Job

/-- The analysis needs levels: hazard curves are asked for, and come from no risk model. -/
def LevelsNeeded (job : Job) : Prop :=
  job.mode = .classical ∨ job.mode = .disaggregation ∨
    ((job.mode = .classicalRisk ∨ job.mode = .classicalDamage ∨ job.mode = .classicalBcr) ∧
      job.inputs.hasRiskModel = false) ∨
    (job.mode.isEventBased = true ∧ job.params.hazardCurvesFromGmfs = true)

/-- The levels that the analysis needs are given. -/
def HasLevels (job : Job) : Prop := job.LevelsNeeded → job.params.imtLevels.isSome = true

/-- The maximum distance, if there is one, covers the tectonic regions. -/
def CoversRegions (job : Job) : Prop :=
  ∀ distance, job.params.maximumDistance = some distance → distance.Covers job.regions

/-- Every selected model accepts every measure in effect, as far as it is known. -/
def GsimsAccept (job : Job) : Prop :=
  ∀ gsim ∈ job.gsims, ∀ s, job.registry.get? gsim = some s →
    ∀ imt ∈ job.measures.imts, s.accepts imt = true

/-- The site parameters that a model reads are given where a parameter of the job stands for them. That
for the side of the volcanic arc has a value always, and all others come from elsewhere. -/
def GivesSites (job : Job) (s : GsimSignature) : Prop :=
  ("vs30" ∈ s.sites → ∃ value, job.params.referenceVs30Value = .value value) ∧
    ("vs30measured" ∈ s.sites → ∃ kind, job.params.referenceVs30Type = .value kind) ∧
    ("z1pt0" ∈ s.sites → ∃ depth, job.params.referenceDepthTo1pt0 = .value depth) ∧
    ("z2pt5" ∈ s.sites → ∃ depth, job.params.referenceDepthTo2pt5 = .value depth)

/-- The correlation model, if there is one, accepts every measure in effect. -/
def CorrelationAccepts (job : Job) : Prop :=
  ∀ model, job.params.correlationModel = some model →
    ∀ imt ∈ job.measures.imts, model.accepts imt = true

/-- What the checks ask of a job and the files around it, as far as no operation on a job can upset
it: the operations replace the regions and add measures. -/
structure Lasting (files : FileTree) (job : Job) : Prop where
  exportDir : files.Provides job.params.exportDir
  truncationLevel : job.mode = .disaggregation → job.params.truncationLevel.isSome = true
  gridSpacing : job.params.region.isSome = true → job.params.regionGridSpacing.isSome = true
  poes : job.params.poes = [] →
    job.params.hazardMaps = false ∧ job.params.uniformHazardSpectra = false
  siteModel : job.hasInput Role.siteModel = false →
    job.params.referenceVs30Type ≠ .null ∧ job.params.referenceVs30Value ≠ .null ∧
      job.params.referenceDepthTo1pt0 ≠ .null ∧ job.params.referenceDepthTo2pt5 ≠ .null
  maximumDistance : job.hasInput Role.sourceModelLogicTree = true →
    job.params.maximumDistance.isSome = true
  measures : job.inputs.hasRiskModel = false → job.params.hazardCalculationId = none →
    job.measures.isEmpty = false
  gsimExclusivity : job.params.gsim = none ∨ job.hasInput Role.gsimLogicTree = false
  gsimsKnown : ∀ gsim ∈ job.gsims, (job.registry.get? gsim).isSome = true
  gsimSites : job.hasInput Role.siteModel = false → ∀ gsim ∈ job.gsims,
    ∀ s, job.registry.get? gsim = some s → job.GivesSites s
  scenarioSites : job.mode.isScenario = true → job.hasInput Role.gmfs = true →
    job.hasInput Role.siteModel = true ∨ job.hasInput Role.sites = true
  disaggregationTarget : job.mode = .disaggregation →
    job.params.poesDisagg ≠ [] ∨ job.params.imlDisagg.isEmpty = false
  disaggregationPoes : job.mode = .disaggregation → job.params.poesDisagg ≠ [] →
    (job.params.poesDisagg == job.params.poes) = true
  oneGeometry : job.params.sites = [] ∨ job.params.region = none
  someGeometry : job.params.hazardCalculationId = none →
    job.params.sites ≠ [] ∨ job.params.region.isSome = true ∨
      ∃ role ∈ siteRoles, job.hasInput role = true
  imlDisagg : ∀ imt ∈ job.params.imlDisagg.keys, job.measures.contains imt = true
  numberOfFields : job.mode.isScenario = true → job.hasInput Role.gmfs = false →
    job.params.hazardCalculationId = none → job.params.numberOfGroundMotionFields.isSome = true

/-- What every check asks of a job and the files around it. -/
structure Consistent (files : FileTree) (job : Job) : Prop extends Lasting files job where
  coversRegions : job.CoversRegions
  hasLevels : job.HasLevels
  gsimsAccept : job.GsimsAccept
  correlationAccepts : job.CorrelationAccepts

theorem needsLevels_iff (job : Job) : job.needsLevels = true ↔ job.LevelsNeeded := by
  unfold needsLevels LevelsNeeded
  cases job.mode <;> simp [CalculationMode.isEventBased]

end Job

theorem MaximumDistance.gap?_eq_none_iff (d : MaximumDistance) (regions : RegionSet) :
    d.gap? regions = none ↔ d.Covers regions := by
  cases d with
  | uniform distance => simp [gap?, Covers]
  | byRegion distances =>
    cases known : regions.isEmpty with
    | true => simp [gap?, Covers, known]
    | false =>
      simp only [gap?, Covers, known, byRegion.injEq, forall_eq', forall_const, Bool.false_eq_true,
        if_false]
      split
      · rename_i key found
        obtain ⟨member, foreign⟩ := And.intro (List.mem_of_find?_eq_some found)
          (List.find?_some found)
        simp only [Bool.and_eq_true, bne_iff_ne, Bool.not_eq_true'] at foreign
        simp only [reduceCtorEq, false_iff, not_and]
        intro own
        simp [own key member foreign.1] at foreign
      · rename_i found
        have own : ∀ key ∈ distances.keys, key ≠ defaultRegion → regions.contains key = true := by
          simpa using found
        cases distances.contains defaultRegion <;> simp_all

theorem FileTree.provides_iff (files : FileTree) (directory : Path) :
    (files.provideExportDir directory).1 = none ↔ files.Provides directory := by
  unfold provideExportDir Provides
  split
  · rename_i there
    simp [there]
  · rename_i absent
    have notThere : files.isDirectory directory = false :=
      Bool.eq_false_iff.mpr fun there => absent (pathExists_of_isDirectory there)
    split
    · rename_i created; simp [absent, created]
    · rename_i cause left failed; simp [notThere, failed]

namespace Check

variable (files : FileTree) (job : Job)

theorem truncationLevel_iff : (truncationLevel.run ⟨files, job⟩).1 = none ↔
    (job.mode = .disaggregation → job.params.truncationLevel.isSome = true) := by
  simp only [run, Job.truncationLevelViolation?]
  cases job.params.truncationLevel <;> cases job.mode <;>
    simp [CalculationMode.needsTruncationLevel]

theorem regionGridSpacing_iff : (regionGridSpacing.run ⟨files, job⟩).1 = none ↔
    (job.params.region.isSome = true → job.params.regionGridSpacing.isSome = true) := by
  simp only [run, Job.gridSpacingViolation?]
  cases job.params.region <;> cases job.params.regionGridSpacing <;> simp

theorem poes_iff : (poes.run ⟨files, job⟩).1 = none ↔
    (job.params.poes = [] →
      job.params.hazardMaps = false ∧ job.params.uniformHazardSpectra = false) := by
  simp only [run, Job.poesViolation?]
  cases job.params.poes <;> cases job.params.hazardMaps <;>
    cases job.params.uniformHazardSpectra <;> simp

theorem siteModelParameters_iff : (siteModelParameters.run ⟨files, job⟩).1 = none ↔
    (job.hasInput Role.siteModel = false →
      job.params.referenceVs30Type ≠ .null ∧ job.params.referenceVs30Value ≠ .null ∧
        job.params.referenceDepthTo1pt0 ≠ .null ∧ job.params.referenceDepthTo2pt5 ≠ .null) := by
  have isNull {α : Type} (r : Reference α) : r.isNull = false ↔ r ≠ .null := by
    cases r <;> simp [Reference.isNull]
  simp only [run, Job.siteModelViolation?, Job.nullSiteParameter?]
  cases job.hasInput Role.siteModel <;> simp [isNull]

theorem maximumDistance_iff : (maximumDistance.run ⟨files, job⟩).1 = none ↔
    (job.hasInput Role.sourceModelLogicTree = true → job.params.maximumDistance.isSome = true) ∧
      job.CoversRegions := by
  simp only [run, Job.maximumDistanceViolation?, Job.distanceGap?, Job.CoversRegions,
    ← MaximumDistance.gap?_eq_none_iff]
  cases job.params.maximumDistance <;> cases job.hasInput Role.sourceModelLogicTree <;> simp

theorem intensityMeasureTypes_iff : (intensityMeasureTypes.run ⟨files, job⟩).1 = none ↔
    job.HasLevels ∧ (job.inputs.hasRiskModel = false → job.params.hazardCalculationId = none →
      job.measures.isEmpty = false) := by
  have levels : job.levelsViolation? = none ↔ job.HasLevels := by
    unfold Job.levelsViolation? Job.HasLevels
    rw [← job.needsLevels_iff]
    cases job.needsLevels <;> cases job.params.imtLevels <;> simp
  have imts : job.imtsViolation? = none ↔ (job.inputs.hasRiskModel = false →
      job.params.hazardCalculationId = none → job.measures.isEmpty = false) := by
    unfold Job.imtsViolation? Job.takesImtsFromElsewhere
    cases job.inputs.hasRiskModel <;> cases job.params.hazardCalculationId <;>
      cases job.measures.isEmpty <;> simp
  rw [← levels, ← imts]
  simp only [run]
  split <;> rename_i found <;> simp [found]

theorem gsimExclusivity_iff : (gsimExclusivity.run ⟨files, job⟩).1 = none ↔
    (job.params.gsim = none ∨ job.hasInput Role.gsimLogicTree = false) := by
  simp only [run, Job.gsimExclusivityViolation?, Job.hasInput, SortedMap.contains]
  cases job.params.gsim <;> cases job.inputs.get? Role.gsimLogicTree <;> simp

theorem gsimImts_iff : (gsimImts.run ⟨files, job⟩).1 = none ↔
    (∀ gsim ∈ job.gsims, (job.registry.get? gsim).isSome = true) ∧ job.GsimsAccept := by
  have one (gsim : String) : job.gsimFault? gsim = none ↔
      (job.registry.get? gsim).isSome = true ∧ ∀ s, job.registry.get? gsim = some s →
        ∀ imt ∈ job.measures.imts, s.accepts imt = true := by
    unfold Job.gsimFault?
    cases job.registry.get? gsim <;> simp
  simp only [run, Job.gsimImtsViolation?, List.findSome?_eq_none_iff, one, Job.GsimsAccept]
  exact ⟨fun h => ⟨fun gsim member => (h gsim member).1, fun gsim member => (h gsim member).2⟩,
    fun h gsim member => ⟨h.1 gsim member, h.2 gsim member⟩⟩

/-- No parameter is missing that a site parameter is looked up in. -/
theorem ungivenParameter?_eq_none_iff (s : GsimSignature) :
    job.ungivenParameter? s = none ↔ ∀ site ∈ s.sites, ∀ param given,
      job.siteParameter? site = some (param, given) → given = true := by
  simp only [Job.ungivenParameter?, List.findSome?_eq_none_iff]
  refine forall₂_congr fun site _ => ?_
  split
  · rename_i param found; simp [found]
  · rename_i other
    simp only [true_iff]
    intro param given found
    cases given with
    | true => rfl
    | false => exact absurd found (other param)

theorem givesSites_iff (s : GsimSignature) : job.ungivenParameter? s = none ↔ job.GivesSites s := by
  have isValue {α : Type} (r : Reference α) : r.isValue = true ↔ ∃ v, r = .value v := by
    cases r <;> simp [Reference.isValue]
  rw [ungivenParameter?_eq_none_iff]
  constructor
  · intro all
    refine ⟨?_, ?_, ?_, ?_⟩ <;> exact fun member => (isValue _).mp (all _ member _ _ rfl)
  · rintro ⟨vs30, measured, shallow, deep⟩ site member param given stands
    unfold Job.siteParameter? at stands
    split at stands
    · cases stands
      exact (isValue _).mpr (vs30 member)
    · cases stands
      exact (isValue _).mpr (measured member)
    · cases stands
      exact (isValue _).mpr (shallow member)
    · cases stands
      exact (isValue _).mpr (deep member)
    · cases stands
      rfl
    · cases stands

theorem gsimSiteParameters_iff : (gsimSiteParameters.run ⟨files, job⟩).1 = none ↔
    (job.hasInput Role.siteModel = false → ∀ gsim ∈ job.gsims,
      ∀ s, job.registry.get? gsim = some s → job.GivesSites s) := by
  simp only [run, Job.gsimSitesViolation?]
  cases job.hasInput Role.siteModel with
  | true => simp
  | false => simp [List.findSome?_eq_none_iff, givesSites_iff]

theorem correlationModel_iff :
    (correlationModel.run ⟨files, job⟩).1 = none ↔ job.CorrelationAccepts := by
  simp only [run, Job.correlationViolation?, Job.CorrelationAccepts]
  cases job.params.correlationModel <;> simp

theorem scenarioSiteModel_iff : (scenarioSiteModel.run ⟨files, job⟩).1 = none ↔
    (job.mode.isScenario = true → job.hasInput Role.gmfs = true →
      job.hasInput Role.siteModel = true ∨ job.hasInput Role.sites = true) := by
  simp only [run, Job.scenarioViolation?]
  cases job.mode.isScenario <;> cases job.hasInput Role.gmfs <;>
    cases job.hasInput Role.siteModel <;> cases job.hasInput Role.sites <;> simp

/-- The check passes over missing probabilities of exceedance; a settled job has them. -/
theorem disaggregation_iff (settled : job.PoesSettled) :
    (disaggregation.run ⟨files, job⟩).1 = none ↔
      (job.mode = .disaggregation →
        job.params.poesDisagg ≠ [] ∨ job.params.imlDisagg.isEmpty = false) ∧
      (job.mode = .disaggregation → job.params.poesDisagg ≠ [] →
        (job.params.poesDisagg == job.params.poes) = true) := by
  simp only [run, Job.disaggregationViolation?]
  by_cases mode : job.mode = .disaggregation
  · by_cases targets : job.params.poesDisagg = []
    · cases job.params.imlDisagg.isEmpty <;> simp [mode, targets]
    · have poes := settled mode targets
      cases job.params.poesDisagg == job.params.poes <;> simp [mode, targets, poes]
  · simp [mode]

theorem siteGeometry_iff : (siteGeometry.run ⟨files, job⟩).1 = none ↔
    (job.params.sites = [] ∨ job.params.region = none) ∧
      (job.params.hazardCalculationId = none →
        job.params.sites ≠ [] ∨ job.params.region.isSome = true ∨
          ∃ role ∈ Job.siteRoles, job.hasInput role = true) := by
  have roles : Job.siteRoles.any job.hasInput = true ↔
      ∃ role ∈ Job.siteRoles, job.hasInput role = true := List.any_eq_true
  rw [← roles]
  simp only [run, Job.siteGeometryViolation?]
  cases job.params.sites <;> cases job.params.region <;> cases job.params.hazardCalculationId <;>
    cases Job.siteRoles.any job.hasInput <;> simp

theorem imlDisagg_iff : (imlDisagg.run ⟨files, job⟩).1 = none ↔
    ∀ imt ∈ job.params.imlDisagg.keys, job.measures.contains imt = true := by
  simp [run, Job.imlDisaggViolation?]

theorem numberOfGroundMotionFields_iff :
    (numberOfGroundMotionFields.run ⟨files, job⟩).1 = none ↔
      (job.mode.isScenario = true → job.hasInput Role.gmfs = false →
        job.params.hazardCalculationId = none →
          job.params.numberOfGroundMotionFields.isSome = true) := by
  simp only [run, Job.numberOfFieldsViolation?]
  cases job.mode.isScenario <;> cases job.hasInput Role.gmfs <;>
    cases job.params.hazardCalculationId <;> cases job.params.numberOfGroundMotionFields <;> simp

end Check

/-- The checks agree with the conditions that they stand for. -/
theorem Job.consistent_iff {files : FileTree} {job : Job} (settled : job.PoesSettled) :
    (∀ c : Check, (c.run ⟨files, job⟩).1 = none) ↔ job.Consistent files := by
  constructor
  · intro passed
    obtain ⟨covered, covers⟩ := (Check.maximumDistance_iff files job).mp (passed _)
    obtain ⟨levels, measures⟩ := (Check.intensityMeasureTypes_iff files job).mp (passed _)
    obtain ⟨known, accept⟩ := (Check.gsimImts_iff files job).mp (passed _)
    obtain ⟨target, equalPoes⟩ := (Check.disaggregation_iff files job settled).mp (passed _)
    obtain ⟨oneGeometry, someGeometry⟩ := (Check.siteGeometry_iff files job).mp (passed _)
    exact {
      exportDir := (files.provides_iff _).mp (passed .exportDir)
      truncationLevel := (Check.truncationLevel_iff files job).mp (passed _)
      gridSpacing := (Check.regionGridSpacing_iff files job).mp (passed _)
      poes := (Check.poes_iff files job).mp (passed _)
      siteModel := (Check.siteModelParameters_iff files job).mp (passed _)
      maximumDistance := covered
      coversRegions := covers
      hasLevels := levels
      measures := measures
      gsimExclusivity := (Check.gsimExclusivity_iff files job).mp (passed _)
      gsimsKnown := known
      gsimsAccept := accept
      gsimSites := (Check.gsimSiteParameters_iff files job).mp (passed _)
      correlationAccepts := (Check.correlationModel_iff files job).mp (passed _)
      scenarioSites := (Check.scenarioSiteModel_iff files job).mp (passed _)
      disaggregationTarget := target
      disaggregationPoes := equalPoes
      oneGeometry := oneGeometry
      someGeometry := someGeometry
      imlDisagg := (Check.imlDisagg_iff files job).mp (passed _)
      numberOfFields := (Check.numberOfGroundMotionFields_iff files job).mp (passed _) }
  · intro consistent c
    cases c with
    | exportDir => exact (files.provides_iff _).mpr consistent.exportDir
    | truncationLevel => exact (Check.truncationLevel_iff files job).mpr consistent.truncationLevel
    | regionGridSpacing => exact (Check.regionGridSpacing_iff files job).mpr consistent.gridSpacing
    | poes => exact (Check.poes_iff files job).mpr consistent.poes
    | siteModelParameters =>
      exact (Check.siteModelParameters_iff files job).mpr consistent.siteModel
    | maximumDistance =>
      exact (Check.maximumDistance_iff files job).mpr
        ⟨consistent.maximumDistance, consistent.coversRegions⟩
    | intensityMeasureTypes =>
      exact (Check.intensityMeasureTypes_iff files job).mpr
        ⟨consistent.hasLevels, consistent.measures⟩
    | gsimExclusivity =>
      exact (Check.gsimExclusivity_iff files job).mpr consistent.gsimExclusivity
    | gsimImts =>
      exact (Check.gsimImts_iff files job).mpr ⟨consistent.gsimsKnown, consistent.gsimsAccept⟩
    | gsimSiteParameters =>
      exact (Check.gsimSiteParameters_iff files job).mpr consistent.gsimSites
    | correlationModel =>
      exact (Check.correlationModel_iff files job).mpr consistent.correlationAccepts
    | scenarioSiteModel => exact (Check.scenarioSiteModel_iff files job).mpr consistent.scenarioSites
    | disaggregation =>
      exact (Check.disaggregation_iff files job settled).mpr
        ⟨consistent.disaggregationTarget, consistent.disaggregationPoes⟩
    | siteGeometry =>
      exact (Check.siteGeometry_iff files job).mpr
        ⟨consistent.oneGeometry, consistent.someGeometry⟩
    | imlDisagg => exact (Check.imlDisagg_iff files job).mpr consistent.imlDisagg
    | numberOfGroundMotionFields =>
      exact (Check.numberOfGroundMotionFields_iff files job).mpr consistent.numberOfFields
    | derivedFields => rfl

theorem Workspace.validate_ok_iff_consistent {w : Workspace} (settled : w.job.PoesSettled) :
    w.validate.1 = .ok () ↔ w.job.Consistent w.files :=
  (validate_ok_iff settled).trans (Job.consistent_iff settled)

namespace Draft

/-- What a draft is built into: its parameters, its logic tree, and the early checks on them. -/
theorem build_ok {d : Draft} {files : FileTree} {job : Job} (built : d.build files = .ok job) :
    ∃ params tree?, paramsOf d.settings.toList = .ok params ∧
      logicTree? files d.inputs = .ok tree? ∧
      (d.assemble params tree?).scenarioViolation? = none ∧
      (d.assemble params tree?).disaggregationViolation? = none ∧
      job = (d.assemble params tree?).derivePoes := by
  unfold build at built
  obtain ⟨params, given, built⟩ := bind_eq_ok.mp built
  obtain ⟨tree?, tree, built⟩ := bind_eq_ok.mp built
  refine ⟨params, tree?, given, tree, ?_⟩
  simp only [Check.early, Workspace.runChecks, Check.run] at built
  generalize d.assemble params tree? = start at built ⊢
  cases scenario : start.scenarioViolation? with
  | some violation => simp [scenario, bind, Except.bind] at built
  | none =>
    cases target : start.disaggregationViolation? with
    | some violation => simp [scenario, target, bind, Except.bind] at built
    | none =>
      simp only [scenario, target, bind, Except.bind, pure, Except.pure, Except.ok.injEq] at built
      exact ⟨rfl, rfl, built.symm⟩

theorem build_settled {d : Draft} {files : FileTree} {job : Job}
    (built : d.build files = .ok job) : job.PoesSettled := by
  obtain ⟨params, tree?, -, -, -, -, rfl⟩ := build_ok built
  exact Job.derivePoes_settled _

/-- A job as it is built passes validation, whatever the files are by then, exactly if it is
consistent with them. -/
theorem validate_built_iff {d : Draft} {files : FileTree} {job : Job}
    (built : d.build files = .ok job) (later : FileTree) :
    (Workspace.mk later job).validate.1 = .ok () ↔ job.Consistent later :=
  Workspace.validate_ok_iff_consistent (build_settled built)

/-- A scenario with one site, one measure and one model. -/
def scenario : Draft :=
  empty.setAll [("calculation_mode", some "scenario"), ("gsim", some "BooreAtkinson2008"),
    ("intensity_measure_types", some "PGA"), ("number_of_ground_motion_fields", some "1"),
    ("reference_vs30_type", some "measured"), ("reference_vs30_value", some "760"),
    ("sites", some "0 0")]

theorem scenario_consistent :
    ∃ job, scenario.build ⟨[], []⟩ = .ok job ∧ job.Consistent ⟨[], []⟩ := by
  have passes : (scenario.buildValidated ⟨[], []⟩).1.isOk = true := by decide +kernel
  unfold buildValidated at passes
  split at passes
  · cases passes
  · rename_i job built
    refine ⟨job, built, (validate_built_iff built ⟨[], []⟩).mp (isOk_iff.mp ?_)⟩
    cases result : (Workspace.mk ⟨[], []⟩ job).validate.1 with
    | ok => rfl
    | error e => simp [result, Except.map, Except.isOk, Except.toBool] at passes

end Draft
end HazardJob
