import HazardJob.Files.Path

/-! A tree of files and directories as a value. Paths are followed part by part from the root or
from the working directory; each part needs a directory to be looked up in. Reading, testing and
creating directories answer with the causes that a system would name. -/
namespace HazardJob

/-- Why a file or directory cannot be used. -/
inductive FileError where
  | notFound | alreadyExists | notADirectory | isADirectory | nameTooLong | nulByte
deriving DecidableEq

def FileError.message : FileError → String
  | notFound => "No such file or directory (os error 2)"
  | alreadyExists => "File exists (os error 17)"
  | notADirectory => "Not a directory (os error 20)"
  | isADirectory => "Is a directory (os error 21)"
  | nameTooLong => "File name too long (os error 36)"
  | nulByte => "file name contained an unexpected NUL byte"

inductive FileNode where
  | file (content : String)
  | directory
deriving DecidableEq

/-- Where something stands: the names on the way from the root. -/
abbrev Location := List String

/-- What stands where; the root is always a directory. -/
structure FileTree where
  workingDirectory : Location
  nodes : List (Location × FileNode)
deriving DecidableEq

namespace FileTree

def node? (t : FileTree) (spot : Location) : Option FileNode :=
  if spot.isEmpty then some .directory else t.nodes.lookup spot

/-- A location as an absolute path. -/
def pathOf (spot : Location) : Path := ⟨"/" ++ Text.join "/" spot⟩

/-- The working directory as a path. -/
def workingPath (t : FileTree) : Path := pathOf t.workingDirectory

/-- Puts a node in place, with the directories on its way. -/
def put (t : FileTree) (spot : Location) (node : FileNode) : FileTree :=
  let ways := (List.range spot.length).map (spot.take ·)
  let missing := ways.filter fun way => (t.node? way).isNone
  let kept := t.nodes.filter fun e => e.1 != spot
  { t with nodes := kept ++ missing.map (·, .directory) ++
      if spot.isEmpty then [] else [(spot, node)] }

/-- The parts of a path that are followed one after the other. -/
def hops (p : Path) : List (List Char) := Text.fields (· == '/') p.text.toList

/-- What is wrong with the text of a path, wherever it leads. -/
def textFault? (p : Path) : Option FileError :=
  if p.text.toList.contains '\x00' then some .nulByte
  else if p.text.isEmpty then some .notFound
  else if p.text.utf8ByteSize ≥ 4096 then some .nameTooLong
  else none

/-- Follows a part from a location. -/
def follow (t : FileTree) (spot : Location) (part : List Char) : Except FileError Location :=
  match t.node? spot with
  | some .directory =>
    if part == ['.'] then .ok spot
    else if part == ['.', '.'] then .ok spot.dropLast
    else if Text.byteCount part > 255 then .error .nameTooLong
    else
      let next := spot ++ [String.ofList part]
      if (t.node? next).isSome then .ok next else .error .notFound
  | some (.file _) => .error .notADirectory
  | none => .error .notFound

/-- Where the following of a path starts. -/
def start (t : FileTree) (p : Path) : Location := if p.isAbsolute then [] else t.workingDirectory

/-- What a path leads to. A closing slash needs a directory. -/
def resolve (t : FileTree) (p : Path) : Except FileError FileNode := do
  if let some fault := textFault? p then throw fault
  let spot ← (hops p).foldlM t.follow (t.start p)
  match t.node? spot with
  | some (.file content) => if p.endsInSlash then throw .notADirectory else return .file content
  | some .directory => return .directory
  | none => throw .notFound

def pathExists (t : FileTree) (p : Path) : Bool := (t.resolve p).toBool

def isDirectory (t : FileTree) (p : Path) : Bool :=
  match t.resolve p with
  | .ok .directory => true
  | _ => false

/-- The content of a file. -/
def read (t : FileTree) (p : Path) : Except FileError String := do
  match ← t.resolve p with
  | .file content => return content
  | .directory => throw .isADirectory

/-- Creates one directory, in one that is there. -/
def createDirectory (t : FileTree) (p : Path) : Except FileError FileTree := do
  if let some fault := textFault? p then throw fault
  match (hops p).reverse with
  | [] => throw .alreadyExists
  | last :: before =>
    let parent ← before.reverse.foldlM t.follow (t.start p)
    match t.node? parent with
    | some .directory =>
      if last == ['.'] || last == ['.', '.'] then throw .alreadyExists
      if Text.byteCount last > 255 then throw .nameTooLong
      let spot := parent ++ [String.ofList last]
      if (t.node? spot).isSome then throw .alreadyExists
      return t.put spot .directory
    | some (.file _) => throw .notADirectory
    | none => throw .notFound

/-- Creates a directory if it is not there. -/
def ensureDirectory (t : FileTree) (p : Path) : Except FileError Unit × FileTree :=
  match t.createDirectory p with
  | .ok t => (.ok (), t)
  | .error e => if t.isDirectory p then (.ok (), t) else (.error e, t)

/-- Creates a directory and those that lead to it; what was created before a failure stays. Every
step up shortens the path, so that the bound is not met before the shortest. -/
def createWithParents (t : FileTree) (p : Path) : Except FileError Unit × FileTree :=
  go p.text.length t p
where
  go : Nat → FileTree → Path → Except FileError Unit × FileTree
    | 0, t, _ => (.ok (), t)
    | bound + 1, t, p =>
      if p.steps.isEmpty then (.ok (), t)
      else match t.createDirectory p with
        | .ok t => (.ok (), t)
        | .error .notFound =>
          match p.parent? with
          | none => (.error .notFound, t)
          | some parent =>
            match go bound t parent with
            | (.ok (), t) => t.ensureDirectory p
            | failed => failed
        | .error e => if t.isDirectory p then (.ok (), t) else (.error e, t)

/-- Everything below a location, by its path from there; directories end in a slash. -/
def listing (t : FileTree) (spot : Location) : List String :=
  let below := t.nodes.filter fun e => spot.isPrefixOf e.1 && e.1.length > spot.length
  let text := fun (e : Location × FileNode) =>
    Text.join "/" (e.1.drop spot.length) ++ (match e.2 with | .directory => "/" | .file _ => "")
  (below.map text).mergeSort fun a b => (compare a b).isLE

end FileTree
end HazardJob
