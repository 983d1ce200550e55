import HazardJob.Proofs.Gsim.Attribution
import HazardJob.Proofs.Job.Complete

/-! The models of a job with a logic tree among its inputs: what the tree says, each model once. -/
namespace HazardJob

/-- A job with a logic tree has its models, and its regions among others. -/
theorem Draft.models_of_build {d : Draft} {files : FileTree} {job : Job} {source : InputSource}
    (given : d.inputs.get? Role.gsimLogicTree = some source) (built : d.build files = .ok job) :
    ∃ text tree, source.read files = .ok text ∧ LogicTree.ofText text = .ok tree ∧
      job.gsims = tree.gsimNames ∧ ∀ region ∈ tree.regions.members, region ∈ job.regions.members := by
  obtain ⟨params, tree?, -, found, -, -, rfl⟩ := Draft.build_ok built
  obtain ⟨poes, diagnostics, same⟩ := (d.assemble params tree?).derivePoes_eq
  rw [Draft.logicTree?, given] at found
  obtain ⟨tree, read, rfl⟩ := map_eq_ok.mp found
  obtain ⟨text, content, parsed⟩ := bind_eq_ok.mp (mapError_eq_ok.mp read)
  refine ⟨text, tree, mapError_eq_ok.mp content, mapError_eq_ok.mp parsed, by rw [same]; rfl, ?_⟩
  intro region member
  rw [same]
  exact SortedSet.mem_members_addAll.mpr (.inr member)

namespace LogicTree

open Markup

variable {text : String} {tree : LogicTree}

/-- A text that is read as a tree has branch sets with models that have names; the tree lists every model once;
and a job that is built with it has these models and the regions of the branch sets. The models of a branch set
are those that stand in it, exactly if no text in a branch set is read for a model around the set. -/
theorem models_attributed (read : ofText text = .ok tree) :
    WellFormed tree ∧ Summarized tree ∧
      (∀ (d : Draft) (files : FileTree) (job : Job) (source : InputSource),
        d.inputs.get? Role.gsimLogicTree = some source → source.read files = .ok text →
        d.build files = .ok job →
          job.gsims = tree.gsimNames ∧ job.gsims ≠ [] ∧ job.gsims.Nodup ∧
            ∀ region ∈ tree.regions.members, region ∈ job.regions.members) ∧
      (Attributed tree (document text) ↔ ∀ s ∈ markedSets false (document text), Harmless s) := by
  have formed := wellFormed read
  refine ⟨formed, summarized tree, ?_, attributed_iff read⟩
  intro d files job source given content built
  obtain ⟨text', tree', content', read', gsims, regions⟩ := Draft.models_of_build given built
  cases content.symm.trans content'
  cases read.symm.trans read'
  rw [gsims]
  exact ⟨rfl, formed.gsimNames_ne_nil, (summarized tree).distinct, regions⟩

/-- Two branch sets, whose models stand in them. -/
def twoRegionsText : String := "<nrml><logicTreeBranchSet applyToTectonicRegionType='Volcanic'>
  <uncertaintyModel>ToroEtAl2002</uncertaintyModel></logicTreeBranchSet>
  <logicTreeBranchSet applyToTectonicRegionType='Induced'>
  <uncertaintyModel>[Xu2019Deep] a = 1</uncertaintyModel></logicTreeBranchSet></nrml>"

def twoRegions : LogicTree := ⟨[⟨"Volcanic", ["ToroEtAl2002"]⟩, ⟨"Induced", ["Xu2019Deep"]⟩]⟩

/-- A scenario with this logic tree among its inputs. -/
def twoRegionsDraft : Draft :=
  Draft.scenario.addInputs (SortedMap.ofList [(Role.gsimLogicTree, .inline twoRegionsText)])

set_option maxRecDepth 8000 in
theorem models_attributed_two_regions : ofText twoRegionsText = .ok twoRegions ∧
    Attributed twoRegions (document twoRegionsText) ∧
    ∃ job, twoRegionsDraft.build ⟨[], []⟩ = .ok job ∧ job.gsims = twoRegions.gsimNames ∧
      job.gsims.Nodup := by
  have chars : twoRegionsText.toList = _ := String.toList_ofList
  have read : ofText twoRegionsText = .ok twoRegions := by
    rw [ofText, chars]
    decide +kernel
  have outside : ∀ s ∈ markedSets false (document twoRegionsText), s.1 = false := by
    rw [document, chars]
    decide +kernel
  have passes : (twoRegionsDraft.build ⟨[], []⟩).toOption.any (fun _ => true) = true := by decide +kernel
  obtain ⟨job, built, -⟩ := any_toOption_iff.mp passes
  obtain ⟨-, -, jobs, attributed⟩ := models_attributed read
  obtain ⟨gsims, -, distinct, -⟩ := jobs twoRegionsDraft ⟨[], []⟩ job (.inline twoRegionsText)
    (SortedMap.get?_eq_some_iff.mpr List.mem_cons_self) rfl built
  refine ⟨read, attributed.mpr fun s member raw stray => ?_, job, built, gsims, distinct⟩
  rw [strayTexts, outside s member, if_neg Bool.false_ne_true] at stray
  cases stray

set_option maxRecDepth 8000 in
/-- The text in the branch set is no model of the set: the model stands around the set. -/
theorem models_misattributed :
    let text := "<nrml><uncertaintyModel><logicTreeBranchSet applyToTectonicRegionType='Volcanic'>
      ToroEtAl2002</logicTreeBranchSet></uncertaintyModel></nrml>"
    let tree : LogicTree := ⟨[⟨"Volcanic", ["ToroEtAl2002"]⟩]⟩
    ofText text = .ok tree ∧ ¬Attributed tree (document text) := by
  intro text tree
  have chars : text.toList = _ := String.toList_ofList
  refine ⟨?_, fun attributed => ?_⟩
  · rw [ofText, chars]
    decide +kernel
  have none : ∀ e ∈ pairedSets (document text), modelTexts e.content = [] := by
    rw [document, chars]
    decide +kernel
  obtain ⟨e, more, read, -, whole⟩ := List.forall₂_cons_left_iff.mp attributed
  obtain ⟨raw, inside, -⟩ := read.models "ToroEtAl2002" List.mem_cons_self
  rw [none e (whole ▸ List.mem_cons_self)] at inside
  cases inside

end LogicTree
end HazardJob
