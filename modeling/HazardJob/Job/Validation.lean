import HazardJob.Job.Error

/-! Validating a job, and making it fit for a risk model. Validation runs every check and ends at
the first violation. A risk model adds intensity measures to those in effect. -/
namespace HazardJob

namespace Workspace

/-- Runs checks in turn up to the first violation. -/
def runChecks (w : Workspace) : List Check → Except JobError Unit × Workspace
  | [] => (.ok (), w)
  | check :: more =>
    match check.run w with
    | (none, w) => w.runChecks more
    | (some violation, w) => (.error (.violation check violation), w)

/-- Marks a job as validated. -/
def markValidated (w : Workspace) : Workspace := { w with job := { w.job with validated := true } }

/-- Runs every check; a job that passes them all is marked. -/
def validate (w : Workspace) : Except JobError Unit × Workspace :=
  match w.runChecks Check.all with
  | (.ok (), w) => (.ok (), w.markValidated)
  | failed => failed

end Workspace

namespace Job

/-- Takes over the intensity measures in effect into the parameters. Measures of which some have
levels and some have none cannot be written there; the parameters then stay as they are. -/
def syncParams (job : Job) : Job :=
  if job.measures.hasLevels then
    { job with params := { job.params with imtLevels := some job.measures, imtList := [] } }
  else if job.measures.values.all (·.isEmpty) then
    { job with params := { job.params with imtLevels := none, imtList := job.measures.imts } }
  else job

/-- A measure that a uniform hazard spectrum can be made of. -/
def isSpectral (imt : Imt) : Bool := imt.isSpectralAcceleration || imt.name == Imt.pga.name

/-- Requires a spectrum that is asked for to have points, with a warning if it has only one. -/
def checkSpectrum (job : Job) : Except JobError Unit × Job :=
  if !job.params.uniformHazardSpectra then (.ok (), job)
  else match job.measures.imts.countP isSpectral with
    | 0 => (.error .noSpectrum, job)
    | 1 => (.ok (), job.record .singlePointSpectrum)
    | _ => (.ok (), job)

/-- Adds the measures of a risk model that are not in effect yet. -/
def addMeasures (job : Job) (risk : ImtLevels) : Job :=
  { job with measures := risk.toList.foldl (fun m e => m.insertNew e.1 e.2) job.measures }

/-- Makes a job fit for the intensity measures of a risk model. -/
def setRiskImts (job : Job) (risk : ImtLevels) : Except JobError Unit × Job :=
  (job.addMeasures risk).syncParams.checkSpectrum

end Job
end HazardJob
