import HazardJob.Param.Basic

/-! The value of a parameter: what its rule reads from the text that a job gives for it, or what
holds where a job gives nothing. -/
namespace HazardJob

/-- Why a parameter has no value. -/
inductive ParamError where
  | refused (param : Param) (raw : String) (fault : Fault)
  | missing (param : Param)

def ParamError.message : ParamError → String
  | refused param raw fault =>
    fault.message ++ ": could not convert to " ++ param.rule.name ++ ": " ++ param.name ++ "=" ++
      raw
  | missing param => "Missing " ++ param.name ++ " in the job configuration"

namespace Param

/-- The value that a job gives for a parameter; no text at all stands for no value. -/
def coerce (p : Param) (raw : Option String) : Except ParamError ParamValue :=
  (p.rule.coerce raw).mapError (.refused p (raw.getD ""))

/-- The value of a parameter that a job does not mention, if it has one then. -/
def absent (p : Param) : Except ParamError (Option ParamValue) :=
  match p.fallback with
  | .required => .error (.missing p)
  | .unspecified => .ok none
  | .raw text => (p.coerce (some text)).map some

end Param
end HazardJob
