import HazardJob.Imt.Basic
import HazardJob.SortedMap
import HazardJob.Text.Quoted

/-! Ground motion models. What a model declares is its signature: the tectonic region it is made
for, the families of intensity measures it knows, and the parameters of site, rupture and distance
it needs. A model that can also predict ground motion checks these against its context first. -/
namespace HazardJob

/-- The component of motion that a model predicts. -/
inductive Component where
  | geometricMean | averageHorizontal | greaterOfTwoHorizontal | rotD50 | rotD100
  | horizontal | vertical
deriving DecidableEq

namespace Component

def all : List Component :=
  [geometricMean, averageHorizontal, greaterOfTwoHorizontal, rotD50, rotD100, horizontal, vertical]

/-- The short name of a component. -/
def name : Component → String
  | geometricMean => "GeometricMean"
  | averageHorizontal => "AverageHorizontal"
  | greaterOfTwoHorizontal => "GreaterOfTwoHorizontal"
  | rotD50 => "RotD50"
  | rotD100 => "RotD100"
  | horizontal => "Horizontal"
  | vertical => "Vertical"

/-- The usual description of a component. -/
def description : Component → String
  | geometricMean => "Average Horizontal (GMRotI50)"
  | averageHorizontal => "Average horizontal"
  | greaterOfTwoHorizontal => "Greater of two horizontal"
  | rotD50 => "Average Horizontal (RotD50)"
  | rotD100 => "Horizontal Maximum Direction (RotD100)"
  | horizontal => "Horizontal"
  | vertical => "Vertical"

def ofName? (name : String) : Option Component := all.find? (·.name == name)

end Component

/-- What a model declares. -/
structure GsimSignature where
  name : String
  region : String
  families : List String
  component : Component
  sites : List String
  rupture : List String
  distances : List String
deriving DecidableEq

/-- The family of a measure is one that the model knows. -/
def GsimSignature.accepts (s : GsimSignature) (imt : Imt) : Bool := s.families.contains imt.family

/-- Parameters of one rupture and of the sites around it. -/
structure GmfContext where
  sites : SortedMap String (List Binary64)
  rupture : SortedMap String Binary64
  distances : SortedMap String (List Binary64)

namespace GmfContext

/-- The number of sites, read off the first distance or else the first site parameter. -/
def siteCount (c : GmfContext) : Nat :=
  ((c.distances.values ++ c.sites.values).head?.map List.length).getD 0

/-- Parameters that a model needs and the context does not give. -/
def missing (c : GmfContext) (s : GsimSignature) : List String :=
  s.sites.filter (!c.sites.contains ·) ++ s.rupture.filter (!c.rupture.contains ·) ++
    s.distances.filter (!c.distances.contains ·)

end GmfContext

/-- Predicted ground motion: for every measure and every site the mean of its logarithm, and the
total, between-event and within-event deviations. -/
structure GmfPrediction where
  mean : List (List Binary64)
  sig : List (List Binary64)
  tau : List (List Binary64)
  phi : List (List Binary64)

/-- The prediction of nothing but zeros. -/
def GmfPrediction.zeros (imtCount siteCount : Nat) : GmfPrediction :=
  let rows := List.replicate imtCount (List.replicate siteCount Binary64.zero)
  ⟨rows, rows, rows, rows⟩

/-- Why a model makes no prediction. -/
inductive GsimError where
  | missingContext (gsim : String) (missing : List String)
  | unsupportedImt (gsim : String) (imt : Imt)
deriving DecidableEq

def GsimError.message : GsimError → String
  | missingContext gsim missing => gsim ++ " requires " ++ Text.quotedList missing
  | unsupportedImt gsim imt =>
    "The IMT " ++ imt.name ++ " is not accepted by the GSIM [" ++ gsim ++ "]"

/-- A context and measures that a model can be computed with. -/
def GsimSignature.checkInputs (s : GsimSignature) (c : GmfContext) (imts : List Imt) :
    Except GsimError Unit :=
  let missing := c.missing s
  if !missing.isEmpty then .error (.missingContext s.name missing)
  else match imts.find? (!s.accepts ·) with
    | some imt => .error (.unsupportedImt s.name imt)
    | none => .ok ()

/-- A model that can predict ground motion. -/
structure GroundMotionModel where
  signature : GsimSignature
  compute : GmfContext → List Imt → Except GsimError GmfPrediction

/-- The model with a signature that checks its inputs and predicts zeros. -/
def GroundMotionModel.still (s : GsimSignature) : GroundMotionModel where
  signature := s
  compute c imts := do
    s.checkInputs c imts
    return .zeros imts.length c.siteCount

/-- Models by name. Every name has a signature, some a computing model as well. -/
structure GsimRegistry where
  signatures : SortedMap String GsimSignature
  models : SortedMap String GroundMotionModel

namespace GsimRegistry

def empty : GsimRegistry := ⟨∅, ∅⟩

/-- Adds a signature. -/
def declare (r : GsimRegistry) (s : GsimSignature) : GsimRegistry :=
  { r with signatures := r.signatures.insert s.name s }

/-- Adds a computing model, and its signature with it. -/
def register (r : GsimRegistry) (m : GroundMotionModel) : GsimRegistry :=
  ⟨r.signatures.insert m.signature.name m.signature, r.models.insert m.signature.name m⟩

def get? (r : GsimRegistry) (name : String) : Option GsimSignature := r.signatures.get? name

def model? (r : GsimRegistry) (name : String) : Option GroundMotionModel := r.models.get? name

def contains (r : GsimRegistry) (name : String) : Bool := r.signatures.contains name

def names (r : GsimRegistry) : List String := r.signatures.keys

def size (r : GsimRegistry) : Nat := r.signatures.size

/-- A short account of a registry: how many signatures it has, and which models compute. -/
def summary (r : GsimRegistry) : String :=
  "GsimRegistry \x7b signatures: " ++ toString r.size ++ ", models: " ++
    Text.quotedList r.models.keys ++ " \x7d"

end GsimRegistry
end HazardJob
