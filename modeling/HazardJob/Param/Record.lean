import HazardJob.Param.Basic

/-! The parameters of a job as one record, with a field of its own type for each. Values are put in
and taken out by parameter: what a field accepts is decided here, and what it gives back is the
value that it would accept. -/
namespace HazardJob

structure JobParams where
  calculationMode : CalculationMode
  description : String
  hazardCalculationId : Option String
  randomSeed : UInt64
  sesSeed : UInt64
  masterSeed : UInt64
  exportDir : Path
  exports : List String
  maximumDistance : Option MaximumDistance
  investigationTime : Option Binary64
  numberOfLogicTreeSamples : UInt64
  ruptureMeshSpacing : Binary64
  complexFaultMeshSpacing : Option Binary64
  widthOfMfdBin : Option Binary64
  areaSourceDiscretization : Option Binary64
  sites : List Point
  region : Option (List Point)
  regionGridSpacing : Option Binary64
  referenceVs30Type : Reference Vs30Type
  referenceVs30Value : Reference Binary64
  referenceDepthTo1pt0 : Reference Binary64
  referenceDepthTo2pt5 : Reference Binary64
  referenceBackarc : Bool
  imtLevels : Option ImtLevels
  imtList : List Imt
  minimumIntensity : SortedMap Imt Binary64
  gsim : Option String
  truncationLevel : Option Binary64
  correlationModel : Option CorrelationModel
  groundMotionFields : Bool
  numberOfGroundMotionFields : Option UInt64
  sesPerLogicTreePath : UInt64
  hazardCurvesFromGmfs : Bool
  hazardMaps : Bool
  uniformHazardSpectra : Bool
  mean : Bool
  quantiles : List Binary64
  poes : List Binary64
  poesDisagg : List Binary64
  imlDisagg : SortedMap Imt Binary64
  magBinWidth : Option Binary64
  distanceBinWidth : Option Binary64
  coordinateBinWidth : Option Binary64
  numEpsilonBins : UInt64
  disaggOutputs : List String
deriving BEq

/-- Why a value is not stored. -/
inductive AssignError where
  | refusesNull (name : String)
  | unexpected (kind : String) (name : String)
deriving DecidableEq

def AssignError.message : AssignError → String
  | refusesNull name => "The parameter '" ++ name ++ "' cannot be None"
  | unexpected kind name => "Unexpected " ++ kind ++ " value for the parameter '" ++ name ++ "'"

/-- The error of a value that nothing called `name` accepts. -/
def AssignError.of (name : String) : ParamValue → AssignError
  | .null => refusesNull name
  | other => unexpected other.kind name

namespace JobParams

/-- Every field at its plainest, before defaults are applied. -/
def blank (mode : CalculationMode) : JobParams where
  calculationMode := mode
  description := ""
  hazardCalculationId := none
  randomSeed := 0
  sesSeed := 0
  masterSeed := 0
  exportDir := ⟨""⟩
  exports := []
  maximumDistance := none
  investigationTime := none
  numberOfLogicTreeSamples := 0
  ruptureMeshSpacing := .zero
  complexFaultMeshSpacing := none
  widthOfMfdBin := none
  areaSourceDiscretization := none
  sites := []
  region := none
  regionGridSpacing := none
  referenceVs30Type := .unspecified
  referenceVs30Value := .unspecified
  referenceDepthTo1pt0 := .unspecified
  referenceDepthTo2pt5 := .unspecified
  referenceBackarc := false
  imtLevels := none
  imtList := []
  minimumIntensity := ∅
  gsim := none
  truncationLevel := none
  correlationModel := none
  groundMotionFields := false
  numberOfGroundMotionFields := none
  sesPerLogicTreePath := 0
  hazardCurvesFromGmfs := false
  hazardMaps := false
  uniformHazardSpectra := false
  mean := false
  quantiles := []
  poes := []
  poesDisagg := []
  imlDisagg := ∅
  magBinWidth := none
  distanceBinWidth := none
  coordinateBinWidth := none
  numEpsilonBins := 0
  disaggOutputs := []

/-- A number or no value. -/
def optionalFloat? : ParamValue → Option (Option Binary64)
  | .float x => some (some x)
  | .null => some none
  | _ => none

/-- A text or no value. -/
def optionalText? : ParamValue → Option (Option String)
  | .text s => some (some s)
  | .null => some none
  | _ => none

/-- A number, or explicitly no value. -/
def referenceFloat? : ParamValue → Option (Reference Binary64)
  | .float x => some (.value x)
  | .null => some .null
  | _ => none

/-- The record with a parameter set to a value, if the field accepts it. -/
def set? (p : JobParams) : Param → ParamValue → Option JobParams
  | .calculationMode, .mode v => some { p with calculationMode := v }
  | .description, .text v => some { p with description := v }
  | .description, .null => some { p with description := "" }
  | .hazardCalculationId, v => (optionalText? v).map fun v => { p with hazardCalculationId := v }
  | .randomSeed, .int v => some { p with randomSeed := v }
  | .sesSeed, .int v => some { p with sesSeed := v }
  | .masterSeed, .int v => some { p with masterSeed := v }
  | .exportDir, .path v => some { p with exportDir := v }
  | .exports, .texts v => some { p with exports := v }
  | .maximumDistance, .distance v => some { p with maximumDistance := some v }
  | .maximumDistance, .null => some { p with maximumDistance := none }
  | .investigationTime, v => (optionalFloat? v).map fun v => { p with investigationTime := v }
  | .numberOfLogicTreeSamples, .int v => some { p with numberOfLogicTreeSamples := v }
  | .ruptureMeshSpacing, .float v => some { p with ruptureMeshSpacing := v }
  | .complexFaultMeshSpacing, v =>
    (optionalFloat? v).map fun v => { p with complexFaultMeshSpacing := v }
  | .widthOfMfdBin, v => (optionalFloat? v).map fun v => { p with widthOfMfdBin := v }
  | .areaSourceDiscretization, v =>
    (optionalFloat? v).map fun v => { p with areaSourceDiscretization := v }
  | .sites, .points v => some { p with sites := v }
  | .region, .points v => some { p with region := some v }
  | .region, .null => some { p with region := none }
  | .regionGridSpacing, v => (optionalFloat? v).map fun v => { p with regionGridSpacing := v }
  | .referenceVs30Type, .vs30Type v => some { p with referenceVs30Type := .value v }
  | .referenceVs30Type, .null => some { p with referenceVs30Type := .null }
  | .referenceVs30Value, v => (referenceFloat? v).map fun v => { p with referenceVs30Value := v }
  | .referenceDepthTo1pt0, v =>
    (referenceFloat? v).map fun v => { p with referenceDepthTo1pt0 := v }
  | .referenceDepthTo2pt5, v =>
    (referenceFloat? v).map fun v => { p with referenceDepthTo2pt5 := v }
  | .referenceBackarc, .bool v => some { p with referenceBackarc := v }
  | .imtLevels, .imtLevels v => some { p with imtLevels := some v }
  | .imtLevels, .null => some { p with imtLevels := none }
  | .imtList, .imts v => some { p with imtList := v }
  | .imtList, .null => some { p with imtList := [] }
  | .minimumIntensity, .imtFloats v => some { p with minimumIntensity := v }
  | .gsim, .text v => some { p with gsim := some v }
  | .gsim, .null => some { p with gsim := none }
  | .truncationLevel, v => (optionalFloat? v).map fun v => { p with truncationLevel := v }
  | .correlationModel, .correlation v => some { p with correlationModel := some v }
  | .correlationModel, .null => some { p with correlationModel := none }
  | .groundMotionFields, .bool v => some { p with groundMotionFields := v }
  | .numberOfGroundMotionFields, .int v => some { p with numberOfGroundMotionFields := some v }
  | .numberOfGroundMotionFields, .null => some { p with numberOfGroundMotionFields := none }
  | .sesPerLogicTreePath, .int v => some { p with sesPerLogicTreePath := v }
  | .hazardCurvesFromGmfs, .bool v => some { p with hazardCurvesFromGmfs := v }
  | .hazardMaps, .bool v => some { p with hazardMaps := v }
  | .uniformHazardSpectra, .bool v => some { p with uniformHazardSpectra := v }
  | .mean, .bool v => some { p with mean := v }
  | .quantiles, .floats v => some { p with quantiles := v }
  | .poes, .floats v => some { p with poes := v }
  | .poesDisagg, .floats v => some { p with poesDisagg := v }
  | .imlDisagg, .imtFloats v => some { p with imlDisagg := v }
  | .magBinWidth, v => (optionalFloat? v).map fun v => { p with magBinWidth := v }
  | .distanceBinWidth, v => (optionalFloat? v).map fun v => { p with distanceBinWidth := v }
  | .coordinateBinWidth, v => (optionalFloat? v).map fun v => { p with coordinateBinWidth := v }
  | .numEpsilonBins, .int v => some { p with numEpsilonBins := v }
  | .disaggOutputs, .texts v => some { p with disaggOutputs := v }
  | _, _ => none

/-- Sets the parameter called `name`. -/
def assign (p : JobParams) (name : String) (value : ParamValue) : Except AssignError JobParams :=
  match (Param.ofName? name).bind (p.set? · value) with
  | some assigned => .ok assigned
  | none => .error (.of name value)

/-- A reference parameter as a value, if it is given. -/
def referenceValue (wrap : α → ParamValue) : Reference α → Option ParamValue
  | .unspecified => none
  | .null => some .null
  | .value v => some (wrap v)

/-- The value of a parameter, if it has one. -/
def get? (p : JobParams) : Param → Option ParamValue
  | .calculationMode => some (.mode p.calculationMode)
  | .description => some (.text p.description)
  | .hazardCalculationId => p.hazardCalculationId.map .text
  | .randomSeed => some (.int p.randomSeed)
  | .sesSeed => some (.int p.sesSeed)
  | .masterSeed => some (.int p.masterSeed)
  | .exportDir => some (.path p.exportDir)
  | .exports => some (.texts p.exports)
  | .maximumDistance => p.maximumDistance.map .distance
  | .investigationTime => p.investigationTime.map .float
  | .numberOfLogicTreeSamples => some (.int p.numberOfLogicTreeSamples)
  | .ruptureMeshSpacing => some (.float p.ruptureMeshSpacing)
  | .complexFaultMeshSpacing => p.complexFaultMeshSpacing.map .float
  | .widthOfMfdBin => p.widthOfMfdBin.map .float
  | .areaSourceDiscretization => p.areaSourceDiscretization.map .float
  | .sites => some (.points p.sites)
  | .region => p.region.map .points
  | .regionGridSpacing => p.regionGridSpacing.map .float
  | .referenceVs30Type => referenceValue .vs30Type p.referenceVs30Type
  | .referenceVs30Value => referenceValue .float p.referenceVs30Value
  | .referenceDepthTo1pt0 => referenceValue .float p.referenceDepthTo1pt0
  | .referenceDepthTo2pt5 => referenceValue .float p.referenceDepthTo2pt5
  | .referenceBackarc => some (.bool p.referenceBackarc)
  | .imtLevels => p.imtLevels.map .imtLevels
  | .imtList => if p.imtList.isEmpty then none else some (.imts p.imtList)
  | .minimumIntensity => some (.imtFloats p.minimumIntensity)
  | .gsim => p.gsim.map .text
  | .truncationLevel => p.truncationLevel.map .float
  | .correlationModel => p.correlationModel.map .correlation
  | .groundMotionFields => some (.bool p.groundMotionFields)
  | .numberOfGroundMotionFields => p.numberOfGroundMotionFields.map .int
  | .sesPerLogicTreePath => some (.int p.sesPerLogicTreePath)
  | .hazardCurvesFromGmfs => some (.bool p.hazardCurvesFromGmfs)
  | .hazardMaps => some (.bool p.hazardMaps)
  | .uniformHazardSpectra => some (.bool p.uniformHazardSpectra)
  | .mean => some (.bool p.mean)
  | .quantiles => some (.floats p.quantiles)
  | .poes => some (.floats p.poes)
  | .poesDisagg => some (.floats p.poesDisagg)
  | .imlDisagg => some (.imtFloats p.imlDisagg)
  | .magBinWidth => p.magBinWidth.map .float
  | .distanceBinWidth => p.distanceBinWidth.map .float
  | .coordinateBinWidth => p.coordinateBinWidth.map .float
  | .numEpsilonBins => some (.int p.numEpsilonBins)
  | .disaggOutputs => some (.texts p.disaggOutputs)

/-- Every parameter that has a value, in order. -/
def entries (p : JobParams) : List (Param × ParamValue) :=
  Param.all.filterMap fun param => (p.get? param).map (param, ·)

end JobParams
end HazardJob
