import HazardJob.Imt.Reader
import HazardJob.Literal.Reader
import HazardJob.SortedMap

/-! Intensity measures and the levels at which hazard curves are computed for them. A measure may
stand without levels; where it has some they ascend, unless they were put there unchecked. -/
namespace HazardJob

/-- Intensity measures in their order, each with its levels. -/
abbrev ImtLevels := SortedMap Imt (List Binary64)

/-- Why a text or a list of levels is refused. -/
inductive LevelsFault where
  | literal (report : String)
  | notADict (typeName : String)
  | keyNotText (typeName : String)
  | badImt (error : ImtError)
  | nonNumeric (imt : Imt)
  | notAList (imt : Imt) (typeName : String)
  | noLevels (imt : Imt)
  | duplicatedLevels (imt : Imt) (levels : List Binary64)
  | unsorted (imt : Imt) (levels : List Binary64)
  | outOfRange (imt : Imt) (levels : List Binary64)
  | duplicatedImt (imt : Imt)

def LevelsFault.message : LevelsFault → String
  | literal report => report
  | notADict typeName => "expected a dict, got a " ++ typeName
  | keyNotText typeName => "IMT keys must be strings, got a " ++ typeName
  | badImt error => error.message
  | nonNumeric imt => "non-numeric level for " ++ imt.name
  | notAList imt typeName =>
    "the levels for " ++ imt.name ++ " must be a list, got a " ++ typeName
  | noLevels imt => "No levels for " ++ imt.name
  | duplicatedLevels imt levels =>
    "Found duplicated levels for " ++ imt.name ++ ": " ++ Binary64.pointedList levels
  | unsorted imt levels =>
    "The levels for " ++ imt.name ++ " are not sorted: " ++ Binary64.pointedList levels
  | outOfRange imt levels =>
    "The levels for " ++ imt.name ++ " must be non-negative numbers: " ++
      Binary64.pointedList levels
  | duplicatedImt imt => "Duplicated IMT " ++ imt.name

namespace ImtLevels

/-- Some two neighbours of a list are related by `r`. -/
def anyNeighbours (r : Binary64 → Binary64 → Bool) : List Binary64 → Bool
  | x :: y :: more => r x y || anyNeighbours r (y :: more)
  | _ => false

/-- What is wrong with the levels of a measure. -/
def fault? (imt : Imt) (levels : List Binary64) : Option LevelsFault :=
  if levels.isEmpty then some (.noLevels imt)
  else if anyNeighbours (· == ·) levels then some (.duplicatedLevels imt levels)
  else if anyNeighbours (fun x y => y.numericLt x) levels then some (.unsorted imt levels)
  else if levels.any fun x => !x.isFinite || x.numericLt .zero then some (.outOfRange imt levels)
  else none

/-- Adds pairs to `spec`; each needs proper levels and a measure of its own. -/
def addLevels (spec : ImtLevels) : List (Imt × List Binary64) → Except LevelsFault ImtLevels
  | [] => .ok spec
  | (imt, levels) :: more =>
    match fault? imt levels with
    | some fault => .error fault
    | none =>
      if spec.contains imt then .error (.duplicatedImt imt)
      else addLevels (spec.insert imt levels) more

/-- The levels of pairs, each with proper levels and a measure of its own. -/
def ofPairs (pairs : List (Imt × List Binary64)) : Except LevelsFault ImtLevels :=
  addLevels SortedMap.empty pairs

/-- Measures without levels. -/
def ofImts (imts : List Imt) : ImtLevels := SortedMap.ofList (imts.map (·, []))

/-- The numbers of a list of literals. -/
def numbers (imt : Imt) (items : List Literal) : Except LevelsFault (List Binary64) :=
  items.mapM fun item =>
    match item.number? with
    | some x => .ok x
    | none => .error (.nonNumeric imt)

/-- The measure and the levels of an entry of a mapping. -/
def pairOf (key value : Literal) : Except LevelsFault (Imt × List Binary64) := do
  let some name := key.text? | throw (.keyNotText key.typeName)
  let imt ← (Imt.ofText name).mapError .badImt
  match value with
  | .list items => return (imt, ← numbers imt items)
  | other => throw (.notAList imt other.typeName)

/-- The levels that a text gives as a mapping from names to lists. -/
def ofText (text : String) : Except LevelsFault ImtLevels := do
  match ← (Literal.ofText text).mapError .literal with
  | .dict entries => ofPairs (← entries.mapM fun e => pairOf e.1 e.2)
  | other => throw (.notADict other.typeName)

/-- The measures, in order. -/
def imts (spec : ImtLevels) : List Imt := spec.keys

def names (spec : ImtLevels) : List String := spec.imts.map (·.name)

/-- There is a measure, and each has levels. -/
def hasLevels (spec : ImtLevels) : Bool :=
  !spec.isEmpty && spec.values.all (!·.isEmpty)

/-- The text of one measure with its levels. -/
def entryText (imt : Imt) (levels : List Binary64) : String :=
  "\"" ++ imt.name ++ "\": [" ++ Text.join ", " (levels.map (·.text)) ++ "]"

/-- The text that is read back as these levels. -/
def text (spec : ImtLevels) : String :=
  "\x7b" ++ Text.join ", " (spec.toList.map fun e => entryText e.1 e.2) ++ "\x7d"

end ImtLevels
end HazardJob
