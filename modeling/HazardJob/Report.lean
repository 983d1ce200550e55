import HazardJob.Job.File
import HazardJob.Json.Codec

/-! Reports on a job: in JSON, in a few words, and on what went wrong. -/
namespace HazardJob

/-- The report on a job in JSON, with the fields in alphabetical order. -/
def Job.toJson (job : Job) (file : Path) : Json :=
  .object [("calculation_mode", job.mode.toJson),
    ("diagnostics", .array (job.diagnostics.map (·.toJson))),
    ("gsims", .texts job.gsims),
    ("imts", .texts job.measures.names),
    ("inputs", job.inputs.toJson),
    ("job_ini", .text file.text),
    ("tectonic_region_types", .texts job.regions.members)]

/-- The report on a valid job in words: a line about it, and a line for each warning. -/
def Job.summary (job : Job) (file : Path) : String :=
  let warnings := job.warnings
  file.text ++ ": valid " ++ job.mode.name ++ " job, " ++ toString warnings.length ++
    " warning(s)\n" ++
    String.join (warnings.map fun d => "  warning: " ++ d.message ++ "\n")

namespace Report

/-- Puts blanks in front of every line but the first. -/
def indentLines (count : Nat) (s : String) : String :=
  String.ofList (s.toList.flatMap fun c =>
    if c == '\n' then c :: List.replicate count ' ' else [c])

/-- A number right-aligned in five places. -/
def numberText (n : Nat) : String :=
  let digits := toString n
  String.ofList (List.replicate (5 - digits.length) ' ') ++ digits

/-- A cause among others. -/
def numberedCause (number : Nat) (cause : String) : String :=
  "\n" ++ numberText number ++ ": " ++ indentLines 7 cause

/-- The causes of an error; several of them are numbered. -/
def causes : List String → String
  | [] => ""
  | [cause] => "\n\nCaused by:\n    " ++ indentLines 4 cause
  | all => "\n\nCaused by:" ++ String.join (all.mapIdx numberedCause)

/-- The report on an error given from the outside in. -/
def ofChain : List String → String
  | [] => ""
  | outermost :: inner => "Error: " ++ outermost ++ causes inner ++ "\n"

end Report
end HazardJob
