import HazardJob.Markup.Attribute
import HazardJob.SortedMap

/-! Logic trees of ground motion models. A tree is a sequence of branch sets, each for one tectonic
region and with the models that compete for it. Weights and other uncertainties are passed over. -/
namespace HazardJob

/-- A tectonic region and the models that compete for it. -/
structure BranchSet where
  region : String
  gsims : List String
deriving DecidableEq

structure LogicTree where
  branchSets : List BranchSet
deriving DecidableEq

/-- Why a text is no logic tree. -/
inductive LogicTreeError where
  | markup (error : Markup.Error)
  | nested
  | noRegion
  | outside
  | emptyModel
  | noModel (region : String)
  | unterminated
  | noBranchSet
deriving DecidableEq

def LogicTreeError.message : LogicTreeError → String
  | markup error => "xml parse: " ++ error.message
  | nested => "nested logicTreeBranchSet"
  | noRegion => "logicTreeBranchSet without applyToTectonicRegionType"
  | outside => "uncertaintyModel outside of a logicTreeBranchSet"
  | emptyModel => "empty uncertaintyModel"
  | noModel region => "the branch set for " ++ region ++ " has no uncertaintyModel"
  | unterminated => "unterminated logicTreeBranchSet"
  | noBranchSet => "no logicTreeBranchSet found"

/-- The error lies in the markup and not in what it says. -/
def LogicTreeError.isMarkup : LogicTreeError → Bool
  | markup _ => true
  | _ => false

namespace LogicTree

open Markup

def branchSetName : List Char := "logicTreeBranchSet".toList
def modelName : List Char := "uncertaintyModel".toList
def regionAttribute : String := "applyToTectonicRegionType"

/-- The region that the tag of a branch set names. -/
def regionOf (tag : List Char) : Except LogicTreeError String := do
  match ← (attributeOf? regionAttribute tag).mapError fun e => .markup (.badAttribute e) with
  | none => throw .noRegion
  | some raw =>
    let value ← (resolve raw).mapError fun e => .markup (.badReference e)
    return String.ofList (Text.trim value)

/-- The name of a model, which may stand in brackets with options after it. -/
def gsimName (text : List Char) : Except LogicTreeError String :=
  let name := match Text.trim text with
    | '[' :: rest => Text.trim (rest.takeWhile (· != ']'))
    | all => all
  if name.isEmpty then .error .emptyModel else .ok (String.ofList name)

/-- What has been read: complete branch sets, the open one, and whether a model is open. -/
structure Progress where
  complete : List BranchSet
  current : Option BranchSet
  inModel : Bool
deriving DecidableEq

def Progress.start : Progress := ⟨[], none, false⟩

/-- Takes in an event. -/
def Progress.add (p : Progress) : Event → Except LogicTreeError Progress
  | .opening tag =>
    let name := localName (tagName tag)
    if name == branchSetName then
      if p.current.isSome then .error .nested
      else do return { p with current := some ⟨← regionOf tag, []⟩ }
    else if name == modelName then .ok { p with inModel := true }
    else .ok p
  | .text raw =>
    if p.inModel then do
      let text ← (resolve raw).mapError fun e => .markup (.badReference e)
      match p.current with
      | none => throw .outside
      | some set =>
        return { p with current := some { set with gsims := set.gsims ++ [← gsimName text] } }
    else .ok p
  | .closing name =>
    if localName name == branchSetName then
      match p.current with
      | none => .ok p
      | some set =>
        if set.gsims.isEmpty then .error (.noModel set.region)
        else .ok { p with complete := p.complete ++ [set], current := none }
    else if localName name == modelName then .ok { p with inModel := false }
    else .ok p
  | _ => .ok p

/-- The tree that has been read when a document ends. -/
def Progress.finish (p : Progress) : Except LogicTreeError LogicTree :=
  if p.current.isSome then .error .unterminated
  else if p.complete.isEmpty then .error .noBranchSet
  else .ok ⟨p.complete⟩

/-- A text as a logic tree. An error in the markup counts only after the events before it. -/
def ofText (text : String) : Except LogicTreeError LogicTree := do
  let (events, error?) := events (Text.trim text.toList)
  let p ← events.foldlM Progress.add Progress.start
  match error? with
  | some e => throw (.markup e)
  | none => p.finish

/-- The regions of a tree. -/
def regions (t : LogicTree) : SortedSet String := SortedSet.ofList (t.branchSets.map (·.region))

/-- The models of a tree, each at its first place. -/
def gsimNames (t : LogicTree) : List String := (t.branchSets.flatMap (·.gsims)).eraseDups

end LogicTree
end HazardJob
