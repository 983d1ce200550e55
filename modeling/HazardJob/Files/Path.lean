import HazardJob.Text.Basic

/-! File names. A path keeps the text it was written with, and two paths are the same when they
name the same components: repeated slashes, inner and closing `.` and a closing slash do not
count, but `..` does. -/
namespace HazardJob

/-- A path as it was written. Paths are Unicode text: a path of the operating system that is not, and that
is displayed with replacement characters, is outside of the model. -/
structure Path where
  text : String
deriving DecidableEq

/-- A step of a path. -/
inductive PathStep where
  | root
  | here
  | up
  | name (name : String)
deriving DecidableEq

namespace Path

instance : Inhabited Path := ⟨⟨""⟩⟩

/-- The parts of a path between slashes. -/
def parts (s : List Char) : List (List Char) := Text.pieces (· == '/') s

/-- The step that a part stands for; an empty part and a `.` stand for none. -/
def stepOf? (part : List Char) : Option PathStep :=
  match part with
  | [] | ['.'] => none
  | ['.', '.'] => some .up
  | _ => some (.name (String.ofList part))

def isAbsolute (p : Path) : Bool := p.text.toList.head? == some '/'

def endsInSlash (p : Path) : Bool := p.text.toList.getLast? == some '/'

/-- The steps of a path. A relative path may start with a `.` of its own. -/
def steps (p : Path) : List PathStep :=
  match p.text.toList with
  | '/' :: rest => .root :: (parts rest).filterMap stepOf?
  | s =>
    match parts s with
    | ['.'] :: more => .here :: more.filterMap stepOf?
    | all => all.filterMap stepOf?

/-- Two paths are equal when their steps are. -/
instance : BEq Path := ⟨fun p q => decide (p.steps = q.steps)⟩

/-- `q` taken relative to `p`; an absolute `q` stands for itself. -/
def join (p q : Path) : Path :=
  if q.isAbsolute then q
  else if p.text.isEmpty || p.endsInSlash then ⟨p.text ++ q.text⟩
  else ⟨p.text ++ "/" ++ q.text⟩

/-- The text of a step. -/
def stepText : PathStep → String
  | .root => "/"
  | .here => "."
  | .up => ".."
  | .name name => name

/-- Appends steps to a path. -/
def extend (p : Path) (steps : List PathStep) : Path :=
  steps.foldl (fun p step => p.join ⟨stepText step⟩) p

/-- The steps without a `.` at the start. -/
def stepsFromHere (p : Path) : List PathStep :=
  match p.steps with
  | .here :: more => more
  | all => all

/-- Exactly two slashes at the start. -/
def startsInTwoSlashes (p : Path) : Bool :=
  match p.text.toList with
  | '/' :: '/' :: '/' :: _ => false
  | '/' :: '/' :: _ => true
  | _ => false

/-- The absolute form of a path, where relative ones start at `cwd`: without empty parts and `.`,
but with its `..`, its closing slash and a start of exactly two slashes. -/
def absolute (cwd p : Path) : Path :=
  let start : Path :=
    if !p.isAbsolute then cwd.extend p.stepsFromHere
    else if p.startsInTwoSlashes then (Path.mk "//").extend (p.steps.drop 1)
    else (Path.mk "").extend p.steps
  if p.endsInSlash then start.join ⟨""⟩ else start

/-- A part that is no step; a `.` at the start of a relative path is one. -/
def isIdle (relative first : Bool) (part : List Char) : Bool :=
  part.isEmpty || (part == ['.'] && !(relative && first))

/-- Drops idle parts from the end; the list is in reverse. -/
def dropIdle (relative : Bool) : List (List Char) → List (List Char)
  | [] => []
  | part :: before =>
    if isIdle relative before.isEmpty part then dropIdle relative before else part :: before

/-- A path without its last step, unless that is the root or there is none. -/
def parent? (p : Path) : Option Path :=
  let relative := !p.isAbsolute
  let body := if relative then p.text.toList else p.text.toList.drop 1
  match dropIdle relative (parts body).reverse with
  | [] => none
  | _ :: before =>
    let kept := (dropIdle relative before).reverse
    some ⟨(if relative then "" else "/") ++ Text.join "/" (kept.map String.ofList)⟩

end Path
end HazardJob
