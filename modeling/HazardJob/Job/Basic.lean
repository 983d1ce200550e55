import HazardJob.Diagnostic
import HazardJob.Document.Basic
import HazardJob.Gsim.Basic
import HazardJob.Input
import HazardJob.Param.Record

/-! A job: its parameters and inputs, the tectonic regions and ground motion models that it is made
for, and the intensity measures in effect. The latter start as those of the parameters and may
grow when a risk model asks for more. A job can be written as a job file. -/
namespace HazardJob

structure Job where
  params : JobParams
  inputs : InputSet
  regions : RegionSet
  /-- The selected ground motion models. -/
  gsims : List String
  /-- The intensity measures in effect. -/
  measures : ImtLevels
  registry : GsimRegistry
  diagnostics : List Diagnostic
  validated : Bool

namespace Job

def mode (job : Job) : CalculationMode := job.params.calculationMode

def hasInput (job : Job) (role : String) : Bool := job.inputs.contains role

/-- Adds a finding. -/
def record (job : Job) (d : Diagnostic) : Job :=
  { job with diagnostics := job.diagnostics ++ [d] }

def warnings (job : Job) : List Diagnostic := job.diagnostics.filter (·.isWarning)

/-- Replaces the tectonic regions. -/
def setRegions (job : Job) (regions : RegionSet) : Job := { job with regions }

/-- What keeps the maximum distance from covering the tectonic regions. -/
def distanceGap? (job : Job) : Option MaximumDistance.Gap :=
  job.params.maximumDistance.bind (·.gap? job.regions)

/-- Two jobs are equal if they ask for the same: findings, validation and the name of the job file
do not count, nor does the registry. -/
instance : BEq Job where
  beq a b := a.params == b.params && a.inputs.sameSources b.inputs &&
    decide (a.regions = b.regions) && a.gsims == b.gsims && a.measures == b.measures

/-- The entries of a job file that stand for parameters. -/
def paramEntries (job : Job) : List (String × String) :=
  job.params.entries.map fun e => (e.1.name, e.2.raw)

/-- The entry of a job file that stands for an input. The job file itself has none, and neither
has inline content, which there is no file for. -/
def inputEntry? (role : String) (source : InputSource) : Option (String × String) :=
  match source with
  | .inline _ => none
  | _ => if role == Role.jobFile then none else some (inputKey role, source.describe)

/-- The entries of a job file that stand for inputs. -/
def inputEntries (job : Job) : List (String × String) :=
  job.inputs.toList.filterMap fun e => inputEntry? e.1 e.2

/-- The job as a job file. -/
def write (job : Job) : String := Document.write (job.paramEntries ++ job.inputEntries)

end Job
end HazardJob
