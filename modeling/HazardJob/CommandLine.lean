import HazardJob.Report

/-! The command that checks a job file. It loads and validates the job, adds the intensity measures
of a risk model if there are any, and prints a summary, the report in JSON or the job as a job
file. -/
namespace HazardJob.CommandLine

/-- What the command is asked to do. -/
structure Options where
  jobFile : Path
  toIni : Bool
  json : Bool
  riskImts : List Imt

inductive Request where
  | help
  | check (options : Options)

/-- Arguments that have been read. -/
structure Progress where
  jobFile : Option Path
  toIni : Bool
  json : Bool
  riskImts : List Imt

namespace Progress

def start : Progress := ⟨none, false, false, []⟩

/-- The name of the job file; there is exactly one, and it is not empty. -/
def addJobFile? (p : Progress) (arg : String) : Option Progress :=
  if p.jobFile.isSome || arg.isEmpty then none else some { p with jobFile := some ⟨arg⟩ }

def addRiskImt? (p : Progress) (value : String) : Option Progress :=
  (Imt.ofText value).toOption.map fun imt => { p with riskImts := p.riskImts ++ [imt] }

/-- An option without a value; it may stand once. -/
def addFlag? (p : Progress) (arg : String) : Option Progress :=
  if arg == "--to-ini" && !p.toIni then some { p with toIni := true }
  else if arg == "--json" && !p.json then some { p with json := true }
  else none

/-- What the arguments ask for when there are no more. -/
def finish? (p : Progress) : Option Request :=
  p.jobFile.map fun file => .check ⟨file, p.toIni, p.json, p.riskImts⟩

end Progress

/-- An option with a value after it, or after an equals sign. -/
def riskImtOption : List Char := "--risk-imt".toList

/-- The value that an argument gives after an equals sign. -/
def attachedValue? (arg : List Char) : Option String :=
  if (riskImtOption ++ ['=']).isPrefixOf arg then
    some (String.ofList (arg.drop (riskImtOption.length + 1)))
  else none

/-- An argument that is no value: it starts with a hyphen and goes on. -/
def isOption (arg : List Char) : Bool :=
  match arg with
  | '-' :: _ :: _ => true
  | _ => false

/-- A demand for help: the long form, or the short one in front of other short options. -/
def isHelp (arg : List Char) : Bool := arg == "--help".toList || "-h".toList.isPrefixOf arg

/-- Reads arguments none of which is an option. -/
def readPlain (p : Progress) : List String → Option Request
  | [] => p.finish?
  | arg :: more => (p.addJobFile? arg).bind fun p => readPlain p more

/-- Reads arguments in turn. There is no request in arguments that the command does not know or
that lack something. -/
def readArguments (p : Progress) : List String → Option Request
  | [] => p.finish?
  | arg :: more =>
    let s := arg.toList
    if s == ['-', '-'] then readPlain p more
    else if isHelp s then some .help
    else if s == riskImtOption then
      match more with
      | value :: more =>
        if isOption value.toList then none
        else (p.addRiskImt? value).bind fun p => readArguments p more
      | [] => none
    else if let some value := attachedValue? s then
      (p.addRiskImt? value).bind fun p => readArguments p more
    else if isOption s then (p.addFlag? arg).bind fun p => readArguments p more
    else (p.addJobFile? arg).bind fun p => readArguments p more

/-- What arguments ask for. -/
def request? (args : List String) : Option Request := readArguments .start args

/-- What the command leaves: its exit code and what it prints. -/
structure Result where
  exitCode : UInt32
  output : String
  errors : String

/-- How the command is used. -/
def usage : String := "Usage: oq_check [OPTIONS] <JOB_INI>\n"

def help : String :=
  "Validate a job.ini and print the normalized configuration\n\n" ++ usage ++ "\nArguments:\n" ++
  "  <JOB_INI>  Path to the job file\n\nOptions:\n" ++
  "      --to-ini               Print the normalized job file\n" ++
  "      --json                 Output the report as JSON\n" ++
  "      --risk-imt <RISK_IMT>  " ++
  "IMTs implied by the risk model (can be specified multiple times)\n" ++
  "  -h, --help                 Print help\n"

/-- The error of a job whose intensity measures do not suit those of the risk model. -/
def riskChain (error : JobError) : List String :=
  ["Risk IMTs are not compatible with the job", error.message]

/-- Adds the intensity measures of a risk model, if there are any. -/
def addRiskImts (job : Job) (imts : List Imt) : Except JobError Unit × Job :=
  if imts.isEmpty then (.ok (), job) else job.setRiskImts (ImtLevels.ofImts imts)

/-- What is printed about a valid job. -/
def describe (o : Options) (job : Job) : String :=
  if o.json then (job.toJson o.jobFile).pretty ++ "\n"
  else if o.toIni then job.write
  else job.summary o.jobFile

/-- Checks a job file. -/
def check (files : FileTree) (o : Options) : Result × FileTree :=
  match (JobFile.mk o.jobFile).loadValidated files with
  | (.error e, files) => (⟨1, "", Report.ofChain e.chain⟩, files)
  | (.ok job, files) =>
    match addRiskImts job o.riskImts with
    | (.error e, _) => (⟨1, "", Report.ofChain (riskChain e)⟩, files)
    | (.ok (), job) => (⟨0, describe o job, ""⟩, files)

/-- Runs the command on a tree of files. -/
def run (files : FileTree) (args : List String) : Result × FileTree :=
  match request? args with
  | none => (⟨2, "", usage⟩, files)
  | some .help => (⟨0, help, ""⟩, files)
  | some (.check o) => check files o

end HazardJob.CommandLine
