import HazardJob.Files.Tree
import HazardJob.SortedMap

/-! Inputs of a job: the roles that files play, and where their content comes from. Which roles are
present decides which rules a job has to obey. -/
namespace HazardJob

namespace Role

/-- The job file itself, which is no input of the calculation. -/
def jobFile : String := "job_ini"
def siteModel : String := "site_model"
def sites : String := "sites"
def gsimLogicTree : String := "gsim_logic_tree"
def sourceModelLogicTree : String := "source_model_logic_tree"
def exposure : String := "exposure"
def gmfs : String := "gmfs"

end Role

/-- Where the content of an input comes from. -/
inductive InputSource where
  | path (path : Path)
  | paths (paths : List Path)
  | inline (content : String)
deriving BEq

/-- Why an input cannot be read. -/
inductive InputError where
  | unreadable (path : Path) (cause : FileError)
  | notASingleFile (count : Nat)

def InputError.message : InputError → String
  | unreadable path cause => path.text ++ ": " ++ cause.message
  | notASingleFile count => "expected a single file, got " ++ toString count ++ " files"

namespace InputSource

/-- The place of an input, for messages and job files. -/
def describe : InputSource → String
  | path p => p.text
  | paths ps => Text.join " " (ps.map (·.text))
  | inline _ => "<inline>"

/-- The content of an input that is inline or a single file. -/
def read (files : FileTree) : InputSource → Except InputError String
  | inline content => .ok content
  | path p | paths [p] => (files.read p).mapError (.unreadable p)
  | paths ps => .error (.notASingleFile ps.length)

end InputSource

/-- Sources by role. -/
abbrev InputSet := SortedMap String InputSource

namespace InputSet

/-- The endings of roles that belong to a risk model. -/
def riskEndings : List String := ["_vulnerability", "_fragility", "_consequence"]

def isRiskRole (role : String) : Bool :=
  riskEndings.any fun ending => (Text.dropEnding? ending.toList role.toList).isSome

/-- Some input belongs to a risk model. -/
def hasRiskModel (inputs : InputSet) : Bool := inputs.keys.any isRiskRole

/-- The inputs without the job file. -/
def sources (inputs : InputSet) : InputSet := inputs.filter fun role _ => role != Role.jobFile

/-- Equality that does not look at the job file. -/
def sameSources (a b : InputSet) : Bool := a.sources == b.sources

/-- Every role of `more`, on top of those of `inputs`. -/
def merge (inputs more : InputSet) : InputSet := inputs.insertAll more.toList

end InputSet

/-- What the key of an input file ends in. -/
def fileEnding : String := "_file"

/-- The key of a file with sites. -/
def sitesKey : String := "sites_csv"

/-- The role of the file that a key of a job file names; other keys are parameters. -/
def inputRole? (key : String) : Option String :=
  if key == sitesKey then some Role.sites
  else match Text.dropEnding? fileEnding.toList key.toList with
    | some [] | none => none
    | some role => some (String.ofList role)

/-- The key under which a job file names the file of a role. -/
def inputKey (role : String) : String :=
  if role == Role.sites then sitesKey else role ++ fileEnding

end HazardJob
