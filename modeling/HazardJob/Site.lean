import HazardJob.Binary64.Text

/-! Sites and the parameters that describe the ground below them where no site model does. -/
namespace HazardJob

/-- A place given by longitude and latitude. -/
structure Point where
  lon : Binary64
  lat : Binary64
deriving BEq

def Point.text (p : Point) : String := p.lon.text ++ " " ++ p.lat.text

/-- How the reference shear-wave velocity was obtained. -/
inductive Vs30Type where
  | measured | inferred
deriving DecidableEq

namespace Vs30Type

def all : List Vs30Type := [measured, inferred]

def name : Vs30Type → String
  | measured => "measured"
  | inferred => "inferred"

def ofName? (name : String) : Option Vs30Type := all.find? (·.name == name)

end Vs30Type

/-- A site parameter of the whole job: not given, explicitly without a value, or a value. -/
inductive Reference (α : Type) where
  | unspecified
  | null
  | value (value : α)
deriving BEq

namespace Reference

def isNull : Reference α → Bool
  | null => true
  | _ => false

def isValue : Reference α → Bool
  | value _ => true
  | _ => false

def value? : Reference α → Option α
  | value v => some v
  | _ => none

end Reference
end HazardJob
