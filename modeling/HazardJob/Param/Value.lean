import HazardJob.CorrelationModel
import HazardJob.Files.Path
import HazardJob.ImtLevels
import HazardJob.MaximumDistance
import HazardJob.Mode
import HazardJob.Site

/-! Values of parameters. Every value has a text that a job file may give for it. -/
namespace HazardJob

inductive ParamValue where
  | null
  | bool (value : Bool)
  | int (value : UInt64)
  | float (value : Binary64)
  | text (value : String)
  | floats (values : List Binary64)
  | texts (values : List String)
  | imtLevels (spec : ImtLevels)
  | imts (imts : List Imt)
  | imtFloats (values : SortedMap Imt Binary64)
  | distance (distance : MaximumDistance)
  | points (points : List Point)
  | mode (mode : CalculationMode)
  | vs30Type (kind : Vs30Type)
  | correlation (model : CorrelationModel)
  | path (path : Path)
deriving BEq

namespace ParamValue

/-- Name of the kind of value, for messages. -/
def kind : ParamValue → String
  | null => "None"
  | bool _ => "bool"
  | int _ => "int"
  | float _ => "float"
  | text _ => "text"
  | floats _ => "float list"
  | texts _ => "name list"
  | imtLevels _ => "IMT levels"
  | imts _ => "IMT list"
  | imtFloats _ => "IMT mapping"
  | distance _ => "maximum distance"
  | points _ => "coordinates"
  | mode _ => "calculation mode"
  | vs30Type _ => "vs30 type"
  | correlation _ => "correlation model"
  | path _ => "path"

def boolText (value : Bool) : String := if value then "true" else "false"

/-- A mapping from measures to numbers. -/
def imtFloatsText (values : SortedMap Imt Binary64) : String :=
  let entries := values.toList.map fun e => "\"" ++ e.1.name ++ "\": " ++ e.2.text
  "\x7b" ++ Text.join ", " entries ++ "\x7d"

/-- The value as a job file gives it. -/
def raw : ParamValue → String
  | null => "None"
  | bool value => boolText value
  | int value => toString value.toNat
  | float value => value.text
  | text value => value
  | floats values => Text.join " " (values.map (·.text))
  | texts values => Text.join " " values
  | imtLevels spec => spec.text
  | imts v => Text.join ", " (v.map (·.name))
  | imtFloats values => imtFloatsText values
  | distance v => v.text
  | points v => Text.join ", " (v.map (·.text))
  | mode v => v.name
  | vs30Type v => v.name
  | correlation model => model.name
  | path v => v.text

end ParamValue
end HazardJob
