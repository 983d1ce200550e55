import HazardJob.CommandLine

/-! The command on the files of the system. Only a few paths matter to a run: the job file, the
logic tree that it names and the directory for exports. What stands on the way to them is looked
up before the run, and a directory that the run adds is created after it. -/
namespace HazardJob.CommandLine

/-- The locations on the way to a path, the last one included. -/
def waysTo (cwd : Location) (p : Path) : List Location :=
  let spot := (if p.isAbsolute then [] else cwd) ++ (FileTree.hops p).map String.ofList
  (List.range (spot.length + 1)).drop 1 |>.map (spot.take ·)

/-- The paths that the draft of a job may lead to. -/
def pathsOf (d : Draft) : List Path :=
  let tree := match d.inputs.get? Role.gsimLogicTree with
    | some (.path p) | some (.paths [p]) => [p]
    | _ => []
  let export? := (d.settings.get? Param.exportDir.name).join
  tree ++ export?.toList.map Path.mk

/-- What stands at a location of the system. -/
def lookUp (spot : Location) : IO (Option FileNode) := do
  try
    let content ← IO.FS.readFile (FileTree.pathOf spot).text
    return some (.file content)
  catch
    | .inappropriateType _ 21 _ => return some .directory
    | _ => return none

/-- Adds what the system has on the way to paths. -/
def lookUpAll (files : FileTree) (paths : List Path) : IO FileTree := do
  let mut files := files
  for spot in paths.flatMap (waysTo files.workingDirectory) do
    if let some node ← lookUp spot then files := files.put spot node
  return files

/-- The files of the system that a run of the command may need. -/
def filesFor (args : List String) : IO FileTree := do
  let cwd := ((← IO.currentDir).toString.toList |> Text.fields (· == '/')).map String.ofList
  let files := FileTree.put ⟨cwd, []⟩ cwd .directory
  let some (.check o) := request? args | return files
  let files ← lookUpAll files [o.jobFile]
  match (JobFile.mk o.jobFile).read files with
  | .ok draft => lookUpAll files (pathsOf draft)
  | .error _ => return files

/-- Creates the directories of a tree that another lacks. -/
def createNew (old new : FileTree) : IO Unit := do
  for (spot, node) in new.nodes do
    if node == .directory && (old.node? spot).isNone then
      IO.FS.createDirAll (FileTree.pathOf spot).text

end HazardJob.CommandLine

open HazardJob.CommandLine in
def main (args : List String) : IO UInt32 := do
  let files ← filesFor args
  let (result, after) := run files args
  createNew files after
  IO.print result.output
  IO.eprint result.errors
  return result.exitCode
