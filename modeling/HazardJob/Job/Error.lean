import HazardJob.Gsim.LogicTree
import HazardJob.Input
import HazardJob.Job.Check
import HazardJob.Param.Coerce
import HazardJob.Param.Record

/-! Why a job cannot be built, or is not valid. -/
namespace HazardJob

/-- Why an input gives no logic tree. -/
inductive TreeFault where
  | input (error : InputError)
  | tree (error : LogicTreeError)

def TreeFault.message : TreeFault → String
  | input error => error.message
  | tree error => error.message

inductive JobError where
  | param (error : ParamError)
  | assign (error : AssignError)
  | logicTree (place : String) (fault : TreeFault)
  | violation (check : Check) (violation : Violation)
  /-- Uniform hazard spectra are asked for, and no intensity measure can be in one. -/
  | noSpectrum

namespace JobError

def message : JobError → String
  | param error => error.message
  | assign error => error.message
  | logicTree place fault => place ++ ": " ++ fault.message
  | violation _ found => found.message
  | noSpectrum =>
    "The `uniform_hazard_spectra` can be True only if the IMT set contains SA(...) or PGA"

/-- The error is about an input file and not about a value. -/
def concernsFile : JobError → Bool
  | logicTree _ _ => true
  | violation check _ => check.concernsFile
  | _ => false

end JobError
end HazardJob
