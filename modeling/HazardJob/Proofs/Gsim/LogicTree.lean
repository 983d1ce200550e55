import HazardJob.Proofs.Gsim.Models

/-! Logic trees and the elements of their documents. Of a model every text between tags and other markup gives
a name, and of elements without texts there is no trace in the tree. -/
namespace HazardJob.LogicTree

open Markup

/-- The parts of the document that is read as a tree. -/
def document (text : String) : List Event := parts (Text.trim text.toList)

/-- The name of a model by all character data of its element. -/
def Names (name : String) (model : Element) : Prop :=
  ∃ data, characterData model.content = .ok data ∧ gsimName data = .ok name

/-- A branch set says what its element says: the region, and the models inside in order. -/
structure Tells (set : BranchSet) (e : Element) : Prop where
  region : regionOf e.tag = .ok set.region
  models : List.Forall₂ Names set.gsims (elementsNamed modelName e.content)

/-- A tree has a branch set for every element of that name, in order. -/
def Faithful (tree : LogicTree) (parts : List Event) : Prop :=
  List.Forall₂ Tells tree.branchSets (elementsNamed branchSetName parts)

/-- No model in a branch set has a section of character data. -/
def Sectionless (parts : List Event) : Prop :=
  ∀ e ∈ elementsNamed branchSetName parts, ∀ model ∈ elementsNamed modelName e.content,
    ∀ part ∈ model.content, part.isCharacterData = false

instance (parts : List Event) : Decidable (Sectionless parts) :=
  inferInstanceAs (Decidable (∀ e ∈ elementsNamed branchSetName parts,
    ∀ model ∈ elementsNamed modelName e.content, ∀ part ∈ model.content, part.isCharacterData = false))

/-- Where every list has an element, lists with as many elements as there are lists have one each. -/
theorem singletons_of_flatMap {α β : Type} {f : α → List β} {xs : List α} (full : ∀ x ∈ xs, f x ≠ [])
    (few : (xs.flatMap f).length ≤ xs.length) : ∀ x ∈ xs, (f x).length = 1 := by
  intro x member
  have counted (z : α) (inside : z ∈ xs) : 1 ≤ (f z).length := List.length_pos_iff.mpr (full z inside)
  by_contra several
  have more : 1 < (f x).length :=
    lt_of_le_of_ne (counted x member) (Ne.symm several)
  have most := List.sum_lt_sum (fun _ => 1) (fun z => (f z).length) counted ⟨x, member, more⟩
  rw [List.map_const', List.sum_replicate, smul_eq_mul, mul_one, ← List.length_flatMap] at most
  omega

section Names

variable {model : Element} {name : String}

theorem gsimName_spaces {data : List Char} (spaces : data.all isSpace = true) (name : String) :
    gsimName data ≠ .ok name := by
  have blank : gsimName (data ++ [] ++ []) = gsimName [] := gsimName_surrounded spaces rfl []
  rw [List.append_nil, List.append_nil] at blank
  rw [blank]
  nofun

/-- A model that has a name has a text. -/
theorem Names.texts_ne_nil (sectionless : ∀ part ∈ model.content, part.isCharacterData = false)
    (named : Names name model) : texts model.content ≠ [] := by
  intro none
  obtain ⟨data, read, named⟩ := named
  obtain ⟨blank, read', spaces⟩ := characterData_of_texts_nil sectionless none
  cases read.symm.trans read'
  exact gsimName_spaces spaces name named

/-- A model with a single text has the name of the text. -/
theorem NamedBy.names {raw : List Char}
    (sectionless : ∀ part ∈ model.content, part.isCharacterData = false)
    (one : texts model.content = [raw]) (named : NamedBy name raw) : Names name model := by
  obtain ⟨value, read, named⟩ := named
  obtain ⟨before, after, data, spaces, spaces'⟩ :=
    characterData_of_texts_singleton sectionless one read
  exact ⟨_, data, by rw [gsimName_surrounded spaces spaces', named]⟩

/-- Models with a single text each have the names of the texts. -/
theorem names_of_texts {names : List String} {models : List Element}
    (sectionless : ∀ model ∈ models, ∀ part ∈ model.content, part.isCharacterData = false)
    (single : ∀ model ∈ models, (texts model.content).length = 1)
    (named : List.Forall₂ NamedBy names (models.flatMap fun model => texts model.content)) :
    List.Forall₂ Names names models := by
  induction models generalizing names with
  | nil =>
    cases named
    exact .nil
  | cons model more ih =>
    obtain ⟨raw, one⟩ := List.length_eq_one_iff.mp (single model List.mem_cons_self)
    rw [List.flatMap_cons, one, List.singleton_append] at named
    cases named with
    | cons here others =>
      exact .cons (here.names (sectionless model List.mem_cons_self) one)
        (ih (fun model member => sectionless model (List.mem_cons_of_mem _ member))
          (fun model member => single model (List.mem_cons_of_mem _ member)) others)

end Names

section Tree

variable {text : String} {tree : LogicTree}

/-- A tree is what has been read when a document without an error in its markup ends. -/
theorem ofText_eq_ok : ofText text = .ok tree ↔ (events (Text.trim text.toList)).2 = none ∧
    ∃ p, Progress.start.takeAll (document text) = .ok p ∧ p.finish = .ok tree := by
  rw [document, ← Progress.foldlM_eq, ← events_eq, ofText]
  cases events (Text.trim text.toList) with
  | mk seen error? =>
    refine bind_eq_ok.trans ?_
    cases error? with
    | none => simp
    | some e =>
      refine iff_of_false ?_ (by simp)
      rintro ⟨p, -, broken⟩
      cases broken

/-- The branch sets of a tree come from the elements with closing tags. -/
theorem read_from (read : ofText text = .ok tree) :
    List.Forall₂ ReadFrom tree.branchSets (markedSets false (document text)) := by
  obtain ⟨-, p, run, finished⟩ := ofText_eq_ok.mp read
  obtain ⟨closed, -, rfl⟩ := Progress.finish_eq_ok.mp finished
  obtain ⟨sets, whole, models⟩ := Progress.takeAll_document (parts_document _) closed run
  rwa [whole]

/-- The branch sets of a tree are the elements with closing tags, and their models the texts in models. -/
theorem read_as (unnested : Unnested (document text)) (read : ofText text = .ok tree) :
    List.Forall₂ ReadAs tree.branchSets (pairedSets (document text)) := by
  rw [← markedSets_pairedSets false, List.forall₂_map_right_iff]
  have marks := markedSets_document (parts_document _) unnested
  refine ((List.forall₂_and_left _ _).mpr ⟨marks, (read_from read).flip⟩).flip.imp ?_
  rintro set s ⟨marked, read⟩
  obtain ⟨outside, texts⟩ := marked read.balanced
  have models := read.models
  rw [outside, texts] at models
  exact ⟨read.region, models⟩

/-- A model is read faithfully exactly if it has a single text. -/
theorem tells_iff {set : BranchSet} {e : Element}
    (sectionless : ∀ model ∈ elementsNamed modelName e.content, ∀ part ∈ model.content,
      part.isCharacterData = false) (read : ReadAs set e) :
    Tells set e ↔ ∀ model ∈ elementsNamed modelName e.content, (texts model.content).length = 1 := by
  constructor
  · -- There are as many models as texts in them, and each model has a text.
    intro tells
    have names {model : Element} (member : model ∈ elementsNamed modelName e.content) :
        texts model.content ≠ [] := by
      obtain ⟨i, bound, rfl⟩ := List.getElem_of_mem member
      have within : i < set.gsims.length := by rwa [tells.models.length_eq]
      exact (tells.models.get within bound).texts_ne_nil (sectionless _ member)
    refine singletons_of_flatMap (fun model => names) ?_
    have counted := read.models.length_eq
    rw [tells.models.length_eq] at counted
    exact counted.ge
  · intro single
    exact ⟨read.region, names_of_texts sectionless single read.models⟩

/-- A tree that is read leaves out what has no text and takes apart what has several: it says what the
document says exactly if every branch set has a closing tag and every model in it a single text. Models are
not nested here, and have no sections of character data. -/
theorem faithful_iff (unnested : Unnested (document text)) (read : ofText text = .ok tree) :
    List.Forall₂ ReadAs tree.branchSets (pairedSets (document text)) ∧
      (Sectionless (document text) → (Faithful tree (document text) ↔
        ∀ e ∈ elementsNamed branchSetName (document text), e.isPaired = true ∧
          ∀ model ∈ elementsNamed modelName e.content, (texts model.content).length = 1)) := by
  have sets := read_as unnested read
  refine ⟨sets, fun sectionless => ⟨fun faithful => ?_, fun single => ?_⟩⟩
  · -- There are as many branch sets in the tree as elements, and as many as elements with closing tags.
    have paired : ∀ e ∈ elementsNamed branchSetName (document text), e.isPaired = true := by
      rw [← List.length_filter_eq_length_iff]
      exact sets.length_eq.symm.trans faithful.length_eq
    rw [pairedSets, List.filter_eq_self.mpr paired] at sets
    intro e member
    obtain ⟨i, bound, rfl⟩ := List.getElem_of_mem member
    have within : i < tree.branchSets.length := by rwa [sets.length_eq]
    exact ⟨paired _ member,
      (tells_iff (sectionless _ member) (sets.get within bound)).mp (faithful.get within bound)⟩
  · rw [pairedSets, List.filter_eq_self.mpr fun e member => (single e member).1] at sets
    refine List.forall₂_iff_get.mpr ⟨sets.length_eq, fun i within bound => ?_⟩
    have member := List.get_mem (elementsNamed branchSetName (document text)) ⟨i, bound⟩
    exact (tells_iff (sectionless _ member) (sets.get within bound)).mpr (single _ member).2

set_option maxRecDepth 4000 in
/-- A tree with a region and two models, one of them with options. -/
theorem faithful_two_models :
    let text := "<nrml><logicTreeBranchSet applyToTectonicRegionType='Volcanic'>
      <uncertaintyModel>ToroEtAl2002</uncertaintyModel>
      <uncertaintyModel>[Xu2019Deep] a = 1</uncertaintyModel></logicTreeBranchSet></nrml>"
    let tree : LogicTree := ⟨[⟨"Volcanic", ["ToroEtAl2002", "Xu2019Deep"]⟩]⟩
    Unnested (document text) ∧ ofText text = .ok tree ∧ Faithful tree (document text) := by
  intro text tree
  have chars : text.toList = _ := String.toList_ofList
  have unnested : Unnested (document text) := by
    rw [document, chars]
    decide +kernel
  have read : ofText text = .ok tree := by
    rw [ofText, chars]
    decide +kernel
  have sectionless : Sectionless (document text) := by
    rw [document, chars]
    decide +kernel
  refine ⟨unnested, read, ((faithful_iff unnested read).2 sectionless).mpr ?_⟩
  rw [document, chars]
  decide +kernel

set_option maxRecDepth 4000 in
/-- A comment takes a model apart. -/
theorem unfaithful_comment :
    let text := "<nrml><logicTreeBranchSet applyToTectonicRegionType='Volcanic'>
      <uncertaintyModel>Boore<!-- and -->Atkinson2008</uncertaintyModel></logicTreeBranchSet></nrml>"
    let tree : LogicTree := ⟨[⟨"Volcanic", ["Boore", "Atkinson2008"]⟩]⟩
    ofText text = .ok tree ∧ ¬Faithful tree (document text) := by
  intro text tree
  have chars : text.toList = _ := String.toList_ofList
  refine ⟨?_, fun faithful => ?_⟩
  · rw [ofText, chars]
    decide +kernel
  have counts : ∀ e ∈ elementsNamed branchSetName (document text),
      (elementsNamed modelName e.content).length = 1 := by
    rw [document, chars]
    decide +kernel
  obtain ⟨e, more, tells, -, whole⟩ := List.forall₂_cons_left_iff.mp faithful
  have names := tells.models.length_eq
  rw [counts e (whole ▸ List.mem_cons_self)] at names
  cases names

end Tree

end HazardJob.LogicTree
