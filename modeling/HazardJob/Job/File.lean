import HazardJob.Document.Reader
import HazardJob.Job.Draft

/-! Job files. Keys of a job file name input files or parameters. Input files, and the directory for
exports, are taken relative to the directory of the job file and made absolute, so that the job
means the same wherever it is written to. -/
namespace HazardJob

/-- Why a text gives no draft of a job. -/
inductive DraftError where
  | document (error : Document.Error)
  | noFile (key : String)

/-- The error, from the outside in. -/
def DraftError.chain : DraftError → List String
  | document error => [error.message]
  | noFile key => ["Invalid path for " ++ key, "no file given"]

/-- A path as a job file in the directory `base` means it. -/
def Path.resolve (cwd base : Path) (text : String) : Path := Path.absolute cwd (base.join ⟨text⟩)

/-- The source that a job file in the directory `base` means; it needs at least one path. -/
def InputSource.ofText? (cwd base : Path) (raw : String) : Option InputSource :=
  match (Text.words raw.toList).map fun word => Path.resolve cwd base (String.ofList word) with
  | [] => none
  | [p] => some (.path p)
  | ps => some (.paths ps)

namespace Draft

/-- The text that a key of a job file gives for a parameter. -/
def settingText (cwd base : Path) (key raw : String) : String :=
  if key == Param.exportDir.name && !raw.isEmpty && raw != ParamValue.null.raw then
    (Path.resolve cwd base raw).text
  else raw

/-- Takes in an entry of a job file. -/
def addEntry (cwd base : Path) (d : Draft) (key raw : String) : Except DraftError Draft :=
  match inputRole? key with
  | none => .ok (d.set key (some (settingText cwd base key raw)))
  | some role =>
    match InputSource.ofText? cwd base raw with
    | none => .error (.noFile key)
    | some source => .ok { d with inputs := d.inputs.insert role source }

/-- Takes in entries of a job file in turn. -/
def addEntries (cwd base : Path) (d : Draft) : List (String × String) → Except DraftError Draft
  | [] => .ok d
  | (key, raw) :: more => do addEntries cwd base (← addEntry cwd base d key raw) more

/-- The draft that a job file in the directory `base` describes. -/
def ofText (cwd base : Path) (text : String) : Except DraftError Draft := do
  let document ← (Document.ofText text).mapError .document
  let (values, found) := document.flatten
  return (← addEntries cwd base empty values.toList).report found

end Draft

/-- A job file by its name. -/
structure JobFile where
  path : Path

/-- Why a job file gives no job. -/
inductive JobFileError where
  | unreadable (path : Path) (cause : FileError)
  | unparsable (path : Path) (error : DraftError)
  | invalid (path : Path) (error : JobError)

namespace JobFileError

/-- The error, from the outside in. -/
def chain : JobFileError → List String
  | unreadable path cause => ["Failed to read " ++ path.text, cause.message]
  | unparsable path error => ("Failed to parse " ++ path.text) :: error.chain
  | invalid path error => ["Invalid job file " ++ path.text, error.message]

/-- What is wrong with the job, if the file gives one. -/
def jobError? : JobFileError → Option JobError
  | invalid _ error => some error
  | _ => none

end JobFileError

namespace JobFile

/-- The directory that paths in the job file are relative to. -/
def directory (f : JobFile) : Path :=
  match f.path.parent? with
  | some parent => if parent.text.isEmpty then ⟨"."⟩ else parent
  | none => ⟨"."⟩

/-- The file as an input of its job. -/
def asInput (f : JobFile) : InputSet := SortedMap.ofList [(Role.jobFile, .path f.path)]

/-- Reads the draft of a job. -/
def read (f : JobFile) (files : FileTree) : Except JobFileError Draft := do
  let text ← (files.read f.path).mapError (.unreadable f.path)
  let draft ← (Draft.ofText files.workingPath f.directory text).mapError (.unparsable f.path)
  return draft.addInputs f.asInput

/-- Reads and builds a job. -/
def load (f : JobFile) (files : FileTree) : Except JobFileError Job := do
  ((← f.read files).build files).mapError (.invalid f.path)

/-- Reads, builds and validates a job. -/
def loadValidated (f : JobFile) (files : FileTree) : Except JobFileError Job × FileTree :=
  match f.read files with
  | .error e => (.error e, files)
  | .ok draft =>
    let (result, files) := draft.buildValidated files
    (result.mapError (.invalid f.path), files)

end JobFile
end HazardJob
