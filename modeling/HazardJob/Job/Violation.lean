import HazardJob.CorrelationModel
import HazardJob.Files.Tree
import HazardJob.MaximumDistance
import HazardJob.Mode
import HazardJob.Param.Basic

/-! What can be wrong with a job as a whole. -/
namespace HazardJob

inductive Violation where
  | exportDirIsFile (directory : Path)
  | exportDirNotCreated (directory : Path) (cause : FileError)
  | noTruncationLevel (mode : CalculationMode)
  | noGridSpacing
  /-- An output needs probabilities of exceedance. -/
  | noPoes (output : Param)
  | nullSiteParameter (param : Param)
  | noMaximumDistance
  | distanceGap (gap : MaximumDistance.Gap)
  | noLevels (mode : CalculationMode)
  | noImts
  /-- A model is selected besides a logic tree of models. -/
  | gsimBesideTree (place : String)
  | unknownGsim (gsim : String)
  | gsimRefusesImt (gsim : String) (imt : Imt)
  | noSiteParameter (param : Param) (gsim : String)
  | correlationRefusesImt (model : CorrelationModel) (imt : Imt)
  | noSiteModel
  | noDisaggregationTarget
  | unequalPoes (poesDisagg poes : List Binary64)
  | sitesAndRegion
  | noSites
  | foreignImlDisagg (imt : Imt) (imts : List Imt)
  | noNumberOfFields (mode : CalculationMode)

namespace Violation

/-- When a job needs levels, in words. -/
def levelsReason (mode : CalculationMode) : String :=
  if mode.isEventBased then "when hazard_curves_from_gmfs is true"
  else "for calculation_mode=" ++ mode.name

def message : Violation → String
  | exportDirIsFile directory =>
    "The `export_dir` parameter must refer to a directory, but " ++ directory.text ++ " is a file"
  | exportDirNotCreated directory cause =>
    "The `export_dir` parameter must refer to a directory, but " ++ directory.text ++
      " cannot be created: " ++ cause.message
  | noTruncationLevel mode => "truncation_level cannot be None for calculation_mode=" ++ mode.name
  | noGridSpacing => "You must set `region_grid_spacing` when `region` is set"
  | noPoes output => "`poes` must be set when `" ++ output.name ++ "` is true"
  | nullSiteParameter param =>
    "The parameter '" ++ param.name ++ "' cannot be None when there is no site_model"
  | noMaximumDistance => "Missing maximum_distance in the job configuration"
  | distanceGap gap => gap.message
  | noLevels mode =>
    "You must provide the `intensity_measure_types_and_levels` " ++ levelsReason mode
  | noImts =>
    "No IMTs specified: set `intensity_measure_types` or `intensity_measure_types_and_levels`"
  | gsimBesideTree place =>
    "There is a gsim_logic_tree file (" ++ place ++
      "), so there must be no `gsim` key in the job configuration"
  | unknownGsim gsim => "Unknown GSIM: " ++ gsim
  | gsimRefusesImt gsim imt =>
    "The IMT " ++ imt.name ++ " is not accepted by the GSIM [" ++ gsim ++ "]"
  | noSiteParameter param gsim =>
    "Please set a value for '" ++ param.name ++ "', this is required by the GSIM [" ++ gsim ++ "]"
  | correlationRefusesImt model imt =>
    "Correlation model " ++ model.name ++ " does not accept IMT=" ++ imt.name
  | noSiteModel => "You forgot to specify a site_model"
  | noDisaggregationTarget => "poes_disagg or iml_disagg must be set"
  | unequalPoes poesDisagg poes =>
    "poes_disagg != poes: " ++ Binary64.pointedList poesDisagg ++ "!=" ++ Binary64.pointedList poes
  | sitesAndRegion => "You cannot set both `sites` and `region`"
  | noSites =>
    "Missing sites: set `sites` or `region`, or provide a sites, site_model or exposure file"
  | foreignImlDisagg imt imts =>
    "The IMT " ++ imt.name ++ " in iml_disagg is not in the IMT set " ++
      Text.quotedList (imts.map (·.name))
  | noNumberOfFields mode =>
    "Missing number_of_ground_motion_fields for calculation_mode=" ++ mode.name

end Violation
end HazardJob
