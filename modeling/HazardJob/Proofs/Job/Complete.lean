import HazardJob.Proofs.Job.Stable
import HazardJob.Proofs.Param.Portable

/-! Jobs that are complete: what validation derives is there, every value is one that a text gives,
and the rest follows from the parameters and the inputs. A job that was built and has passed
validation is complete, and a draft with its values is built into a job that no check tells from
it. -/
namespace HazardJob

namespace InputSet

theorem get?_sources (inputs : InputSet) (role : String) (other : role ≠ Role.jobFile) :
    inputs.sources.get? role = inputs.get? role := by
  show ((inputs.toList.filter fun e => e.1 != Role.jobFile).find? _).map _ = _
  rw [List.find?_filter]
  unfold SortedMap.get? SortedMap.lookup
  congr 2
  funext e
  by_cases same : role = e.1
  · simp [← same, other]
  · simp [same]

theorem sources_sources (inputs : InputSet) : inputs.sources.sources = inputs.sources :=
  SortedMap.ext (by simp [sources, SortedMap.filter])

theorem hasRiskModel_sources (inputs : InputSet) :
    inputs.sources.hasRiskModel = inputs.hasRiskModel := by
  have kept : (fun e : String × InputSource => e.1 != Role.jobFile && isRiskRole e.1) =
      fun e => isRiskRole e.1 := by
    funext e
    by_cases same : e.1 = Role.jobFile
    · rw [same]
      rfl
    · simp [same]
  show ((inputs.toList.filter fun e => e.1 != Role.jobFile).map (·.1)).any isRiskRole = _
  rw [List.any_map, List.any_filter]
  simp only [Function.comp_def, kept]
  simp [hasRiskModel, SortedMap.keys, Function.comp_def]

theorem sameSources_self (inputs : InputSet) : inputs.sameSources inputs = true :=
  beq_self_of_forall inputs.sources.toList fun e _ => by
    show (e.1 == e.1 && e.2 == e.2) = true
    rw [beq_self_eq_true, InputSource.beq_self]
    rfl

end InputSet

namespace Job

/-- The job without the job file that it comes from, its findings and its mark. -/
def essence (job : Job) : Job :=
  { job with inputs := job.inputs.sources, diagnostics := [], validated := false }

theorem hasInput_essence (job : Job) (role : String) (other : role ≠ Role.jobFile) :
    job.essence.hasInput role = job.hasInput role := by
  unfold hasInput SortedMap.contains
  rw [show job.essence.inputs = job.inputs.sources from rfl, InputSet.get?_sources _ role other]

/-- No check looks at the job file. -/
theorem finding_essence (c : Check) (files : FileTree) (job : Job) :
    (c.run ⟨files, job.essence⟩).1 = (c.run ⟨files, job⟩).1 := by
  have siteModel := job.hasInput_essence Role.siteModel (by decide)
  have sites := job.hasInput_essence Role.sites (by decide)
  have gmfs := job.hasInput_essence Role.gmfs (by decide)
  have exposure := job.hasInput_essence Role.exposure (by decide)
  have sourceModel := job.hasInput_essence Role.sourceModelLogicTree (by decide)
  have tree := job.inputs.get?_sources Role.gsimLogicTree (by decide)
  have risk : job.essence.inputs.hasRiskModel = job.inputs.hasRiskModel :=
    job.inputs.hasRiskModel_sources
  cases c with
  | siteModelParameters =>
    simp only [Check.run, siteModelViolation?, siteModel]
    rfl
  | maximumDistance =>
    simp only [Check.run, maximumDistanceViolation?, sourceModel]
    rfl
  | intensityMeasureTypes =>
    have levels : job.essence.levelsViolation? = job.levelsViolation? := by
      unfold levelsViolation? needsLevels
      rw [risk]
      rfl
    have imts : job.essence.imtsViolation? = job.imtsViolation? := by
      unfold imtsViolation? takesImtsFromElsewhere
      rw [risk]
      rfl
    simp only [Check.run, levels, imts]
    split <;> rfl
  | gsimExclusivity =>
    simp only [Check.run, gsimExclusivityViolation?, essence, tree]
  | gsimSiteParameters =>
    simp only [Check.run, gsimSitesViolation?, siteModel]
    rfl
  | scenarioSiteModel =>
    simp only [Check.run, scenarioViolation?, gmfs, siteModel, sites]
    rfl
  | siteGeometry =>
    have roles : siteRoles.any job.essence.hasInput = siteRoles.any job.hasInput := by
      simp only [siteRoles, List.any_cons, List.any_nil, sites, siteModel, exposure, gmfs]
    simp only [Check.run, siteGeometryViolation?, roles]
    rfl
  | numberOfGroundMotionFields =>
    simp only [Check.run, numberOfFieldsViolation?, gmfs]
    rfl
  | _ => rfl

/-- The regions of a tree, and none without one. -/
def treeRegions (tree? : Option LogicTree) : RegionSet := (tree?.map (·.regions)).getD ∅

/-- The models of a tree, or the one that a parameter names. -/
def treeGsims (params : JobParams) (tree? : Option LogicTree) : List String :=
  (tree?.map (·.gsimNames)).getD params.gsim.toList

/-- What holds of a job that was built with `files` and has passed validation: it is what a draft
with its values would be built into, and there is nothing left to derive. -/
structure Complete (files : FileTree) (job : Job) : Prop where
  sourced : job.params.Sourced
  settled : job.PoesSettled
  oneImtSource : job.params.imtLevels.isSome = true → job.params.imtList = []
  meshSpacing : job.params.complexFaultMeshSpacing.isSome = true
  measures : job.measures = Draft.measuresOf job.params
  gsims : ∃ tree?, Draft.logicTree? files job.inputs = .ok tree? ∧
    job.gsims = treeGsims job.params tree?

section Derived

theorem sourced_dropImtList {job : Job} (sourced : job.params.Sourced) :
    job.dropImtList.params.Sourced := by
  unfold dropImtList
  split
  · intro q
    cases q
    case imtList => exact ⟨nofun, fun _ => rfl⟩
    all_goals exact sourced _
  · exact sourced

theorem sourced_derivePoes {job : Job} (sourced : job.params.Sourced) :
    job.derivePoes.params.Sourced := by
  unfold derivePoes
  dsimp only
  split
  · intro q
    cases q
    case poes => exact (sourced .poesDisagg).of_rule rfl
    all_goals exact sourced _
  · exact sourced

theorem sourced_deriveMeshSpacing {job : Job} (sourced : job.params.Sourced) :
    job.deriveMeshSpacing.params.Sourced := by
  unfold deriveMeshSpacing
  dsimp only
  split
  · intro q
    cases q
    case complexFaultMeshSpacing => exact (sourced .ruptureMeshSpacing).of_rule rfl
    all_goals exact sourced _
  · exact sourced

theorem imts_deriveMeshSpacing (job : Job) :
    job.deriveMeshSpacing.params.imtLevels = job.params.imtLevels ∧
      job.deriveMeshSpacing.params.imtList = job.params.imtList := by
  unfold deriveMeshSpacing
  dsimp only
  split <;> exact ⟨rfl, rfl⟩

/-- Deriving probabilities of exceedance changes them and the findings only. -/
theorem derivePoes_eq (job : Job) : ∃ poes diagnostics,
    job.derivePoes = { job with params := { job.params with poes }, diagnostics } := by
  unfold derivePoes
  dsimp only
  split
  · exact ⟨_, _, rfl⟩
  · exact ⟨job.params.poes, job.diagnostics, rfl⟩

end Derived

end Job

namespace Draft

/-- What a job is built with is what texts give. -/
theorem sourced_built {d : Draft} {files : FileTree} {job : Job} (built : d.build files = .ok job) :
    job.params.Sourced := by
  obtain ⟨params, tree?, given, -, -, -, rfl⟩ := build_ok built
  exact Job.sourced_derivePoes (paramsOf_sourced given)

/-- The measures that a job is built with are those that its parameters give. -/
theorem measures_built {d : Draft} {files : FileTree} {job : Job} (built : d.build files = .ok job) :
    job.measures = measuresOf job.params := by
  obtain ⟨params, tree?, -, -, -, -, rfl⟩ := build_ok built
  obtain ⟨poes, diagnostics, same⟩ := (d.assemble params tree?).derivePoes_eq
  rw [same]
  rfl

/-- The models that a job is built with are those of the tree among its inputs, or the one that a
parameter names. -/
theorem gsims_built {d : Draft} {files : FileTree} {job : Job} (built : d.build files = .ok job) :
    ∃ tree?, logicTree? files job.inputs = .ok tree? ∧
      job.gsims = Job.treeGsims job.params tree? := by
  obtain ⟨params, tree?, -, tree, -, -, rfl⟩ := build_ok built
  obtain ⟨poes, diagnostics, same⟩ := (d.assemble params tree?).derivePoes_eq
  rw [same]
  refine ⟨tree?, tree, ?_⟩
  cases tree? <;> rfl

/-- A job that was built and has passed validation is complete. -/
theorem complete_of_validate {d : Draft} {files before : FileTree} {job : Job} {w : Workspace}
    (built : d.build files = .ok job)
    (passed : (Workspace.mk before job).validate = (.ok (), w)) : w.job.Complete files := by
  have settled := build_settled built
  have settles : job.Settles w.job := by
    have kept := Workspace.validate_settles (w := ⟨before, job⟩) settled
    rwa [passed] at kept
  have core := settles.core.symm
  have left := Workspace.job_of_validate passed
  have derived : (Workspace.mk before job).job.dropImtList.derivePoes = job.dropImtList :=
    Job.derivePoes_of_settled (settled.of_core (Job.core_dropImtList job).symm)
  rw [derived] at left
  constructor
  · rw [left]
    exact Job.sourced_deriveMeshSpacing (Job.sourced_dropImtList (sourced_built built))
  · exact settled.of_core core.symm
  · obtain ⟨levels, list⟩ := Job.imts_deriveMeshSpacing job.dropImtList
    rw [left]
    show (Job.deriveMeshSpacing _).params.imtLevels.isSome = true → _
    rw [levels, list]
    exact Job.oneImtSource_dropImtList _
  · rw [left]
    exact Job.meshSpacing_deriveMeshSpacing _
  · calc
      w.job.measures = job.measures := congrArg (·.measures) core
      _ = measuresOf job.params := measures_built built
      _ = measuresOf w.job.params := settles.measuresOf.symm
  · obtain ⟨tree?, tree, gsims⟩ := gsims_built built
    have inputs : w.job.inputs = job.inputs := congrArg (·.inputs) core
    have selected : w.job.gsims = job.gsims := congrArg (·.gsims) core
    have gsim : w.job.params.gsim = job.params.gsim := congrArg (·.params.gsim) core
    rw [inputs, selected]
    refine ⟨tree?, tree, ?_⟩
    rw [Job.treeGsims, gsim]
    exact gsims

/-- A draft that passes the early checks with nothing left to derive is built as it is assembled. -/
theorem build_of {d : Draft} {files : FileTree} {params : JobParams} {tree? : Option LogicTree}
    (given : paramsOf d.settings.toList = .ok params) (tree : logicTree? files d.inputs = .ok tree?)
    (settled : (d.assemble params tree?).PoesSettled)
    (passes : ∀ c : Check, c ≠ .exportDir → (c.run ⟨files, d.assemble params tree?⟩).1 = none) :
    d.build files = .ok (d.assemble params tree?) := by
  have scenario : (d.assemble params tree?).scenarioViolation? = none :=
    passes .scenarioSiteModel nofun
  have target : (d.assemble params tree?).disaggregationViolation? = none :=
    passes .disaggregation nofun
  refine bind_eq_ok.mpr ⟨params, given, bind_eq_ok.mpr ⟨tree?, tree, ?_⟩⟩
  simp only [Check.early, Workspace.runChecks, Check.run, scenario, target,
    Job.derivePoes_of_settled settled]
  rfl

end Draft
end HazardJob
