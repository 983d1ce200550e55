import HazardJob.Imt.Basic

/-! Spatial correlation of ground motion fields. -/
namespace HazardJob

inductive CorrelationModel where
  | jb2009 | hm2018
deriving DecidableEq

namespace CorrelationModel

def all : List CorrelationModel := [jb2009, hm2018]

def name : CorrelationModel → String
  | jb2009 => "JB2009"
  | hm2018 => "HM2018"

def ofName? (name : String) : Option CorrelationModel := all.find? (·.name == name)

/-- Families of intensity measures that a model is defined for. -/
def families : CorrelationModel → List String
  | jb2009 | hm2018 => ["PGA", "SA"]

def accepts (model : CorrelationModel) (imt : Imt) : Bool := model.families.contains imt.family

end CorrelationModel
end HazardJob
