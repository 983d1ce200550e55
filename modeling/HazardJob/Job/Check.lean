import HazardJob.Job.Basic
import HazardJob.Job.Violation

/-! The checks that a job has to pass. They run one after the other on a job and the files around
it, because some leave a trace for those after them: the export directory is created, a list of
intensity measures is dropped in favour of levels, and values are derived from others. What a check
leaves stays there even if it, or a later one, finds a violation. -/
namespace HazardJob

inductive Check where
  | exportDir | truncationLevel | regionGridSpacing | poes | siteModelParameters
  | maximumDistance | intensityMeasureTypes | gsimExclusivity | gsimImts | gsimSiteParameters
  | correlationModel | scenarioSiteModel | disaggregation | siteGeometry | imlDisagg
  | numberOfGroundMotionFields | derivedFields
deriving DecidableEq

/-- A job and the files around it. -/
structure Workspace where
  files : FileTree
  job : Job

namespace Job

/-- A site parameter that is explicitly without a value, where no site model gives one. -/
def nullSiteParameter? (job : Job) : Option Param :=
  let p := job.params
  [(Param.referenceVs30Type, p.referenceVs30Type.isNull),
    (.referenceVs30Value, p.referenceVs30Value.isNull),
    (.referenceDepthTo1pt0, p.referenceDepthTo1pt0.isNull),
    (.referenceDepthTo2pt5, p.referenceDepthTo2pt5.isNull)].find? (·.2) |>.map (·.1)

/-- The parameter that stands for a site parameter of a model, and whether it is given. Other site
parameters come from elsewhere. -/
def siteParameter? (job : Job) : String → Option (Param × Bool)
  | "vs30" => some (.referenceVs30Value, job.params.referenceVs30Value.isValue)
  | "vs30measured" => some (.referenceVs30Type, job.params.referenceVs30Type.isValue)
  | "z1pt0" => some (.referenceDepthTo1pt0, job.params.referenceDepthTo1pt0.isValue)
  | "z2pt5" => some (.referenceDepthTo2pt5, job.params.referenceDepthTo2pt5.isValue)
  | "backarc" => some (.referenceBackarc, true)
  | _ => none

/-- The parameter that is not given although a model needs it. -/
def ungivenParameter? (job : Job) (s : GsimSignature) : Option Param :=
  s.sites.findSome? fun site =>
    match job.siteParameter? site with
    | some (param, false) => some param
    | _ => none

/-- The analysis needs levels for its intensity measures. -/
def needsLevels (job : Job) : Bool :=
  match job.mode with
  | .classical | .disaggregation => true
  | .classicalRisk | .classicalDamage | .classicalBcr => !job.inputs.hasRiskModel
  | mode => mode.isEventBased && job.params.hazardCurvesFromGmfs

/-- A job may go without intensity measures if they come from elsewhere. -/
def takesImtsFromElsewhere (job : Job) : Bool :=
  job.inputs.hasRiskModel || job.params.hazardCalculationId.isSome

/-- Drops the list of intensity measures if levels are given as well. -/
def dropImtList (job : Job) : Job :=
  if job.params.imtLevels.isSome && !job.params.imtList.isEmpty then
    { job with params := { job.params with imtList := [] } }.record
      (.ignoredParameter Param.imtList.name (Param.imtLevels.name ++ " is set"))
  else job

/-- A disaggregation takes its probabilities of exceedance from the ones it disaggregates. -/
def derivePoes (job : Job) : Job :=
  let p := job.params
  if job.mode == .disaggregation && !p.poesDisagg.isEmpty && p.poes.isEmpty then
    { job with params := { p with poes := p.poesDisagg } }.record
      (.derivedParameter Param.poes.name
        (Param.poesDisagg.name ++ "=" ++ Binary64.pointedList p.poesDisagg))
  else job

/-- The mesh of complex faults is as fine as that of simple ones. -/
def deriveMeshSpacing (job : Job) : Job :=
  let p := job.params
  if p.complexFaultMeshSpacing.isNone then
    { job with params := { p with complexFaultMeshSpacing := some p.ruptureMeshSpacing } }.record
      (.derivedParameter Param.complexFaultMeshSpacing.name
        (Param.ruptureMeshSpacing.name ++ "=" ++ p.ruptureMeshSpacing.text))
  else job

def truncationLevelViolation? (job : Job) : Option Violation :=
  if job.params.truncationLevel.isNone && job.mode.needsTruncationLevel then
    some (.noTruncationLevel job.mode)
  else none

def gridSpacingViolation? (job : Job) : Option Violation :=
  if job.params.region.isSome && job.params.regionGridSpacing.isNone then some .noGridSpacing
  else none

def poesViolation? (job : Job) : Option Violation :=
  if !job.params.poes.isEmpty then none
  else if job.params.hazardMaps then some (.noPoes .hazardMaps)
  else if job.params.uniformHazardSpectra then some (.noPoes .uniformHazardSpectra)
  else none

def siteModelViolation? (job : Job) : Option Violation :=
  if job.hasInput Role.siteModel then none else job.nullSiteParameter?.map .nullSiteParameter

def maximumDistanceViolation? (job : Job) : Option Violation :=
  if job.params.maximumDistance.isNone && job.hasInput Role.sourceModelLogicTree then
    some .noMaximumDistance
  else job.distanceGap?.map .distanceGap

def levelsViolation? (job : Job) : Option Violation :=
  if job.needsLevels && job.params.imtLevels.isNone then some (.noLevels job.mode) else none

def imtsViolation? (job : Job) : Option Violation :=
  if job.measures.isEmpty && !job.takesImtsFromElsewhere then some .noImts else none

def gsimExclusivityViolation? (job : Job) : Option Violation :=
  match job.params.gsim, job.inputs.get? Role.gsimLogicTree with
  | some _, some source => some (.gsimBesideTree source.describe)
  | _, _ => none

/-- What is wrong with a selected model: it is unknown, or refuses a measure. -/
def gsimFault? (job : Job) (gsim : String) : Option Violation :=
  match job.registry.get? gsim with
  | none => some (.unknownGsim gsim)
  | some s => (job.measures.imts.find? (!s.accepts ·)).map (.gsimRefusesImt gsim)

def gsimImtsViolation? (job : Job) : Option Violation := job.gsims.findSome? job.gsimFault?

def gsimSitesViolation? (job : Job) : Option Violation :=
  if job.hasInput Role.siteModel then none
  else job.gsims.findSome? fun gsim =>
    (job.registry.get? gsim).bind fun s =>
      (job.ungivenParameter? s).map fun param => .noSiteParameter param gsim

def correlationViolation? (job : Job) : Option Violation :=
  job.params.correlationModel.bind fun model =>
    (job.measures.imts.find? (!model.accepts ·)).map (.correlationRefusesImt model)

def scenarioViolation? (job : Job) : Option Violation :=
  if job.mode.isScenario && job.hasInput Role.gmfs && !job.hasInput Role.siteModel &&
      !job.hasInput Role.sites then
    some .noSiteModel
  else none

def disaggregationViolation? (job : Job) : Option Violation :=
  let p := job.params
  if job.mode != .disaggregation then none
  else if p.poesDisagg.isEmpty then
    if p.imlDisagg.isEmpty then some .noDisaggregationTarget else none
  else if p.poes.isEmpty || p.poesDisagg == p.poes then none
  else some (.unequalPoes p.poesDisagg p.poes)

/-- Inputs that say where the sites of a job are. -/
def siteRoles : List String := [Role.sites, Role.siteModel, Role.exposure, Role.gmfs]

def siteGeometryViolation? (job : Job) : Option Violation :=
  let p := job.params
  if !p.sites.isEmpty && p.region.isSome then some .sitesAndRegion
  else if p.hazardCalculationId.isSome then none
  else if p.sites.isEmpty && p.region.isNone && !siteRoles.any job.hasInput then some .noSites
  else none

def imlDisaggViolation? (job : Job) : Option Violation :=
  (job.params.imlDisagg.keys.find? (!job.measures.contains ·)).map
    (.foreignImlDisagg · job.measures.imts)

def numberOfFieldsViolation? (job : Job) : Option Violation :=
  let p := job.params
  if job.mode.isScenario && !job.hasInput Role.gmfs && p.hazardCalculationId.isNone &&
      p.numberOfGroundMotionFields.isNone then
    some (.noNumberOfFields job.mode)
  else none

end Job

/-- Makes sure that a directory is there. -/
def FileTree.provideExportDir (files : FileTree) (directory : Path) :
    Option Violation × FileTree :=
  if files.pathExists directory then
    (if files.isDirectory directory then none else some (.exportDirIsFile directory), files)
  else match files.createWithParents directory with
    | (.ok (), files) => (none, files)
    | (.error cause, files) => (some (.exportDirNotCreated directory cause), files)

namespace Check

/-- Every check, in the order in which they run. -/
def all : List Check :=
  [exportDir, truncationLevel, regionGridSpacing, poes, siteModelParameters, maximumDistance,
    intensityMeasureTypes, gsimExclusivity, gsimImts, gsimSiteParameters, correlationModel,
    scenarioSiteModel, disaggregation, siteGeometry, imlDisagg, numberOfGroundMotionFields,
    derivedFields]

/-- The checks that a job passes already when it is built. -/
def early : List Check := [scenarioSiteModel, disaggregation]

def name : Check → String
  | exportDir => "export_dir"
  | truncationLevel => "truncation_level"
  | regionGridSpacing => "region_grid_spacing"
  | poes => "poes"
  | siteModelParameters => "site_model_parameters"
  | maximumDistance => "maximum_distance"
  | intensityMeasureTypes => "intensity_measure_types"
  | gsimExclusivity => "gsim_exclusivity"
  | gsimImts => "gsim_imts"
  | gsimSiteParameters => "gsim_site_parameters"
  | correlationModel => "correlation_model"
  | scenarioSiteModel => "scenario_site_model"
  | disaggregation => "disaggregation"
  | siteGeometry => "site_geometry"
  | imlDisagg => "iml_disagg"
  | numberOfGroundMotionFields => "number_of_ground_motion_fields"
  | derivedFields => "derived_fields"

/-- Violations of the check are about an input file and not about a value. -/
def concernsFile : Check → Bool
  | gsimExclusivity | scenarioSiteModel | disaggregation => true
  | _ => false

/-- What a check finds, and what it leaves. -/
def run (c : Check) (w : Workspace) : Option Violation × Workspace :=
  let job := w.job
  match c with
  | exportDir =>
    let (violation?, files) := w.files.provideExportDir job.params.exportDir
    (violation?, { w with files })
  | truncationLevel => (job.truncationLevelViolation?, w)
  | regionGridSpacing => (job.gridSpacingViolation?, w)
  | poes => (job.poesViolation?, w)
  | siteModelParameters => (job.siteModelViolation?, w)
  | maximumDistance => (job.maximumDistanceViolation?, w)
  | intensityMeasureTypes =>
    match job.levelsViolation? with
    | some violation => (some violation, w)
    | none => (job.imtsViolation?, { w with job := job.dropImtList })
  | gsimExclusivity => (job.gsimExclusivityViolation?, w)
  | gsimImts => (job.gsimImtsViolation?, w)
  | gsimSiteParameters => (job.gsimSitesViolation?, w)
  | correlationModel => (job.correlationViolation?, w)
  | scenarioSiteModel => (job.scenarioViolation?, w)
  | disaggregation => (job.disaggregationViolation?, { w with job := job.derivePoes })
  | siteGeometry => (job.siteGeometryViolation?, w)
  | imlDisagg => (job.imlDisaggViolation?, w)
  | numberOfGroundMotionFields => (job.numberOfFieldsViolation?, w)
  | derivedFields => (none, { w with job := job.deriveMeshSpacing })

end Check
end HazardJob
