import HazardJob.Param.Rule

/-! The parameters of a job: their names, the rules that read them, and what holds where a job does
not give them. -/
namespace HazardJob

inductive Param where
  | calculationMode | description | hazardCalculationId | randomSeed | sesSeed | masterSeed
  | exportDir | exports
  | maximumDistance | investigationTime | numberOfLogicTreeSamples | ruptureMeshSpacing
  | complexFaultMeshSpacing | widthOfMfdBin | areaSourceDiscretization
  | sites | region | regionGridSpacing | referenceVs30Type | referenceVs30Value
  | referenceDepthTo1pt0 | referenceDepthTo2pt5 | referenceBackarc
  | imtLevels | imtList | minimumIntensity
  | gsim | truncationLevel | correlationModel | groundMotionFields | numberOfGroundMotionFields
  | sesPerLogicTreePath | hazardCurvesFromGmfs
  | hazardMaps | uniformHazardSpectra | mean | quantiles | poes
  | poesDisagg | imlDisagg | magBinWidth | distanceBinWidth | coordinateBinWidth
  | numEpsilonBins | disaggOutputs
deriving DecidableEq

/-- What holds where a job does not give a parameter. -/
inductive Fallback where
  /-- The job is refused. -/
  | required
  /-- The parameter stays unset. -/
  | unspecified
  /-- As if this text had been given. -/
  | raw (text : String)
deriving DecidableEq

namespace Param

/-- Every parameter, in the order in which they are assigned and written. -/
def all : List Param :=
  [calculationMode, description, hazardCalculationId, randomSeed, sesSeed, masterSeed,
    exportDir, exports,
    maximumDistance, investigationTime, numberOfLogicTreeSamples, ruptureMeshSpacing,
    complexFaultMeshSpacing, widthOfMfdBin, areaSourceDiscretization,
    sites, region, regionGridSpacing, referenceVs30Type, referenceVs30Value,
    referenceDepthTo1pt0, referenceDepthTo2pt5, referenceBackarc,
    imtLevels, imtList, minimumIntensity,
    gsim, truncationLevel, correlationModel, groundMotionFields, numberOfGroundMotionFields,
    sesPerLogicTreePath, hazardCurvesFromGmfs,
    hazardMaps, uniformHazardSpectra, mean, quantiles, poes,
    poesDisagg, imlDisagg, magBinWidth, distanceBinWidth, coordinateBinWidth,
    numEpsilonBins, disaggOutputs]

def name : Param → String
  | calculationMode => "calculation_mode"
  | description => "description"
  | hazardCalculationId => "hazard_calculation_id"
  | randomSeed => "random_seed"
  | sesSeed => "ses_seed"
  | masterSeed => "master_seed"
  | exportDir => "export_dir"
  | exports => "exports"
  | maximumDistance => "maximum_distance"
  | investigationTime => "investigation_time"
  | numberOfLogicTreeSamples => "number_of_logic_tree_samples"
  | ruptureMeshSpacing => "rupture_mesh_spacing"
  | complexFaultMeshSpacing => "complex_fault_mesh_spacing"
  | widthOfMfdBin => "width_of_mfd_bin"
  | areaSourceDiscretization => "area_source_discretization"
  | sites => "sites"
  | region => "region"
  | regionGridSpacing => "region_grid_spacing"
  | referenceVs30Type => "reference_vs30_type"
  | referenceVs30Value => "reference_vs30_value"
  | referenceDepthTo1pt0 => "reference_depth_to_1pt0km_per_sec"
  | referenceDepthTo2pt5 => "reference_depth_to_2pt5km_per_sec"
  | referenceBackarc => "reference_backarc"
  | imtLevels => "intensity_measure_types_and_levels"
  | imtList => "intensity_measure_types"
  | minimumIntensity => "minimum_intensity"
  | gsim => "gsim"
  | truncationLevel => "truncation_level"
  | correlationModel => "ground_motion_correlation_model"
  | groundMotionFields => "ground_motion_fields"
  | numberOfGroundMotionFields => "number_of_ground_motion_fields"
  | sesPerLogicTreePath => "ses_per_logic_tree_path"
  | hazardCurvesFromGmfs => "hazard_curves_from_gmfs"
  | hazardMaps => "hazard_maps"
  | uniformHazardSpectra => "uniform_hazard_spectra"
  | mean => "mean"
  | quantiles => "quantiles"
  | poes => "poes"
  | poesDisagg => "poes_disagg"
  | imlDisagg => "iml_disagg"
  | magBinWidth => "mag_bin_width"
  | distanceBinWidth => "distance_bin_width"
  | coordinateBinWidth => "coordinate_bin_width"
  | numEpsilonBins => "num_epsilon_bins"
  | disaggOutputs => "disagg_outputs"

def ofName? (name : String) : Option Param := all.find? (·.name == name)

/-- Outputs of a disaggregation. -/
def disaggregationOutputs : List String :=
  ["Mag", "Dist", "Mag_Dist", "Mag_Dist_Eps", "Lon_Lat", "Mag_Lon_Lat", "Lon_Lat_TRT", "TRT",
    "Mag_Dist_TRT", "Mag_Dist_TRT_Eps"]

/-- The rule that reads a parameter. -/
def rule : Param → Rule
  | calculationMode => .calculationMode
  | description | hazardCalculationId => .utf8
  | randomSeed | sesSeed | masterSeed | numberOfLogicTreeSamples => .nonNegativeInt
  | exportDir => .path
  | exports => .nameList
  | maximumDistance => .maximumDistance
  | investigationTime | ruptureMeshSpacing | complexFaultMeshSpacing => .positiveFloat
  | widthOfMfdBin | areaSourceDiscretization | regionGridSpacing => .positiveFloat
  | sites => .coordinates
  | region => .polygon
  | referenceVs30Type => .vs30Type
  | referenceVs30Value | referenceDepthTo1pt0 | referenceDepthTo2pt5 => .positiveFloat
  | referenceBackarc => .boolean
  | imtLevels => .imtLevels
  | imtList => .imtList
  | minimumIntensity | imlDisagg => .imtFloats
  | gsim => .gsim
  | truncationLevel => .nonNegativeFloat
  | correlationModel => .correlationModel
  | groundMotionFields | hazardCurvesFromGmfs => .boolean
  | numberOfGroundMotionFields | sesPerLogicTreePath | numEpsilonBins => .positiveInt
  | hazardMaps | uniformHazardSpectra | mean => .boolean
  | quantiles | poes | poesDisagg => .probabilities
  | magBinWidth | distanceBinWidth | coordinateBinWidth => .positiveFloat
  | disaggOutputs => .choices disaggregationOutputs

/-- What holds where a job does not give a parameter. -/
def fallback : Param → Fallback
  | calculationMode => .required
  | description | exports | sites | quantiles | poes | poesDisagg | disaggOutputs => .raw ""
  | randomSeed | sesSeed => .raw "42"
  | masterSeed => .raw "123456789"
  | exportDir => .raw "."
  | numberOfLogicTreeSamples => .raw "0"
  | ruptureMeshSpacing => .raw "5.0"
  | referenceVs30Type => .raw "inferred"
  | referenceBackarc | hazardCurvesFromGmfs | hazardMaps | uniformHazardSpectra => .raw "false"
  | minimumIntensity | imlDisagg => .raw "\x7b\x7d"
  | groundMotionFields | mean => .raw "true"
  | sesPerLogicTreePath | numEpsilonBins => .raw "1"
  | hazardCalculationId | maximumDistance | investigationTime => .unspecified
  | complexFaultMeshSpacing | widthOfMfdBin | areaSourceDiscretization => .unspecified
  | region | regionGridSpacing | referenceVs30Value => .unspecified
  | referenceDepthTo1pt0 | referenceDepthTo2pt5 => .unspecified
  | imtLevels | imtList | gsim | truncationLevel | correlationModel => .unspecified
  | numberOfGroundMotionFields => .unspecified
  | magBinWidth | distanceBinWidth | coordinateBinWidth => .unspecified

/-- Choices that a parameter is restricted to. -/
def choices? (p : Param) : Option (List String) :=
  match p.rule with
  | .choices allowed => some allowed
  | _ => none

end Param
end HazardJob
