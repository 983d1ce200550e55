import HazardJob.Gsim.Builtin
import HazardJob.Job.Validation

/-! A job before it is built: raw texts by parameter name, inputs, and what else is known of it.
Building reads every text by the rule of its parameter, fills in what is not given, reads the logic
tree of ground motion models and runs the early checks. Names that are no parameters are reported
and dropped. -/
namespace HazardJob

structure Draft where
  /-- Raw texts by parameter name; a name may stand explicitly without a value. -/
  settings : SortedMap String (Option String)
  inputs : InputSet
  regions : RegionSet
  registry : GsimRegistry
  diagnostics : List Diagnostic

namespace Draft

def empty : Draft := ⟨∅, ∅, ∅, .builtin, []⟩

instance : Inhabited Draft := ⟨empty⟩

/-- Gives a text for a name, or explicitly none. -/
def set (d : Draft) (name : String) (raw : Option String) : Draft :=
  { d with settings := d.settings.insert name raw }

/-- Gives texts for names in turn. -/
def setAll (d : Draft) (settings : List (String × Option String)) : Draft :=
  { d with settings := d.settings.insertAll settings }

/-- Adds inputs; each takes the place of one in the same role. -/
def addInputs (d : Draft) (inputs : InputSet) : Draft := { d with inputs := d.inputs.merge inputs }

/-- Adds tectonic regions of the source model. -/
def addRegions (d : Draft) (regions : List String) : Draft :=
  { d with regions := SortedSet.addAll d.regions regions }

/-- Uses another registry of ground motion models. -/
def withRegistry (d : Draft) (registry : GsimRegistry) : Draft := { d with registry }

/-- Adds findings from before the draft. -/
def report (d : Draft) (found : List Diagnostic) : Draft :=
  { d with diagnostics := d.diagnostics ++ found }

/-- Values by parameter. -/
abbrev Values := List (Param × ParamValue)

/-- The value of a setting; a name that is no parameter has none. -/
def settingValue (name : String) (raw : Option String) :
    Except ParamError (Option (Param × ParamValue)) :=
  match Param.ofName? name with
  | none => .ok none
  | some p => (p.coerce raw).map fun v => some (p, v)

/-- The values of the settings of a job, in the order of their names. -/
def givenValues : List (String × Option String) → Except ParamError Values
  | [] => .ok []
  | (name, raw) :: more => do
    let given ← settingValue name raw
    let rest ← givenValues more
    return given.toList ++ rest

/-- The names among the settings that are no parameters. -/
def unknownNames (settings : List (String × Option String)) : List String :=
  (settings.map (·.1)).filter fun name => (Param.ofName? name).isNone

/-- The value of a parameter, given or not, if it has one. -/
def valueOf (given : Values) (p : Param) : Except ParamError (Option ParamValue) :=
  match given.lookup p with
  | some v => .ok (some v)
  | none => p.absent

/-- The values of parameters in turn; those that stay unset have none. -/
def allValues (given : Values) : List Param → Except ParamError Values
  | [] => .ok []
  | p :: more => do
    let v? ← valueOf given p
    let rest ← allValues given more
    return (v?.map fun v => (p, v)).toList ++ rest

/-- The analysis that values ask for. -/
def modeOf (values : Values) : Except AssignError CalculationMode :=
  match values.lookup .calculationMode with
  | some (.mode mode) => .ok mode
  | _ => .error (.refusesNull Param.calculationMode.name)

/-- Assigns values in turn. -/
def assignAll (params : JobParams) : Values → Except AssignError JobParams
  | [] => .ok params
  | (p, v) :: more => do assignAll (← params.assign p.name v) more

/-- The parameters of a job with these settings. -/
def paramsOf (settings : List (String × Option String)) : Except JobError JobParams := do
  let given ← (givenValues settings).mapError .param
  let values ← (allValues given Param.all).mapError .param
  let mode ← (modeOf values).mapError .assign
  (assignAll (.blank mode) values).mapError .assign

/-- The logic tree that an input gives. -/
def readTree (files : FileTree) (source : InputSource) : Except TreeFault LogicTree := do
  (LogicTree.ofText (← (source.read files).mapError .input)).mapError .tree

/-- The logic tree among the inputs. -/
def logicTree? (files : FileTree) (inputs : InputSet) : Except JobError (Option LogicTree) :=
  match inputs.get? Role.gsimLogicTree with
  | none => .ok none
  | some source => ((readTree files source).mapError (.logicTree source.describe)).map some

/-- The intensity measures that parameters put in effect; levels come before a plain list. -/
def measuresOf (params : JobParams) : ImtLevels :=
  params.imtLevels.getD (ImtLevels.ofImts params.imtList)

/-- The job before the early checks. -/
def assemble (d : Draft) (params : JobParams) (tree? : Option LogicTree) : Job where
  params := params
  inputs := d.inputs
  regions := match tree? with
    | some tree => SortedSet.addAll d.regions tree.regions.members
    | none => d.regions
  gsims := match tree? with
    | some tree => tree.gsimNames
    | none => params.gsim.toList
  measures := measuresOf params
  registry := d.registry
  diagnostics := d.diagnostics ++
    (unknownNames d.settings.toList).map Diagnostic.unknownParameter
  validated := false

/-- Builds the job. -/
def build (d : Draft) (files : FileTree) : Except JobError Job := do
  let params ← paramsOf d.settings.toList
  let tree? ← logicTree? files d.inputs
  let (result, w) := (Workspace.mk files (d.assemble params tree?)).runChecks Check.early
  result
  return w.job

/-- Builds the job and validates it. -/
def buildValidated (d : Draft) (files : FileTree) : Except JobError Job × FileTree :=
  match d.build files with
  | .error e => (.error e, files)
  | .ok job =>
    let (result, w) := (Workspace.mk files job).validate
    (result.map fun () => w.job, w.files)

end Draft
end HazardJob
