import HazardJob.Proofs.Gsim.LogicTree
import HazardJob.Proofs.SortedMap

/-! What a logic tree says for sure, and which branch set its models come from. Every branch set has models with
trimmed names. A name comes from a model in its branch set, or from a text that comes before the first model
of the set while a model around the set is open. -/
namespace HazardJob.LogicTree

open Markup

section Lists

variable {α β : Type} {R S : α → β → Prop} {xs : List α} {ys : List β}

/-- Where related elements are related in another way under a condition on the second, the lists are if all
elements of the second meet it. -/
theorem forall₂_iff_forall {P : β → Prop} (related : List.Forall₂ R xs ys)
    (step : ∀ x y, R x y → (S x y ↔ P y)) : List.Forall₂ S xs ys ↔ ∀ y ∈ ys, P y := by
  induction related with
  | nil => exact iff_of_true .nil nofun
  | cons here _ ih => rw [List.forall₂_cons, List.forall_mem_cons, step _ _ here, ih]

/-- Without repetitions the elements of a list stand in the order of their first places. -/
theorem eraseDups_ordered [BEq α] [LawfulBEq α] (xs : List α) :
    xs.eraseDups.Pairwise fun a b => xs.idxOf a < xs.idxOf b := by
  induction xs using List.reverseRecOn with
  | nil => exact .nil
  | append_singleton xs x ih =>
    have kept {a : α} (member : a ∈ xs.eraseDups) : (xs ++ [x]).idxOf a = xs.idxOf a :=
      List.idxOf_append_of_mem (List.mem_eraseDups.mp member)
    have ordered : xs.eraseDups.Pairwise fun a b => (xs ++ [x]).idxOf a < (xs ++ [x]).idxOf b :=
      ih.imp_of_mem fun first second below => by rwa [kept first, kept second]
    rw [List.eraseDups_append]
    by_cases old : x ∈ xs
    · have nothing : [x].removeAll xs = [] := by simp [List.removeAll, old]
      rwa [nothing, List.eraseDups_nil, List.append_nil]
    · have single : ([x].removeAll xs).eraseDups = [x] := by
        simp [List.removeAll, old, List.eraseDups_cons]
      rw [single]
      refine List.pairwise_append.mpr ⟨ordered, List.pairwise_singleton _ _, fun a member b last => ?_⟩
      obtain rfl := List.mem_singleton.mp last
      have before := List.idxOf_lt_length_iff.mpr (List.mem_eraseDups.mp member)
      rw [kept member, List.idxOf_append_of_notMem old]
      omega

end Lists

section Names

/-- The name of a model is not empty, and no white space stands at its ends. -/
theorem gsimName_ok {value : List Char} {name : String} (named : gsimName value = .ok name) :
    name ≠ "" ∧ Text.trim name.toList = name.toList := by
  have settled (s : List Char) (kept : (if (Text.trim s).isEmpty then .error .emptyModel
      else .ok (String.ofList (Text.trim s)) : Except LogicTreeError String) = .ok name) :
      name ≠ "" ∧ Text.trim name.toList = name.toList := by
    split at kept
    · cases kept
    · rename_i inhabited
      cases kept
      rw [String.toList_ofList]
      refine ⟨fun empty => inhabited ?_, (Text.bare_trimBy _ s).trimBy⟩
      rw [List.isEmpty_iff]
      simpa using congrArg String.toList empty
  unfold gsimName at named
  dsimp only at named
  split at named
  · exact settled _ named
  · exact settled _ named

theorem NamedBy.unique {name other : String} {raw : List Char} (named : NamedBy name raw)
    (named' : NamedBy other raw) : name = other := by
  obtain ⟨value, read, named⟩ := named
  obtain ⟨value', read', named'⟩ := named'
  cases read.symm.trans read'
  exact Except.ok.inj (named.symm.trans named')

end Names

section Attribution

/-- A branch set has the region of its element, and every name in it is that of a text in a model in the
element. -/
structure AttributedTo (set : BranchSet) (e : Element) : Prop where
  region : regionOf e.tag = .ok set.region
  models : ∀ name ∈ set.gsims, ∃ raw ∈ modelTexts e.content, NamedBy name raw

def Attributed (tree : LogicTree) (parts : List Event) : Prop :=
  List.Forall₂ AttributedTo tree.branchSets (pairedSets parts)

def isModelTag : Event → Bool
  | .opening tag => localName (tagName tag) == modelName
  | .closing name => localName name == modelName
  | _ => false

/-- The texts that a branch set takes from a model around it: those before the first tag of a model in it, if
a model is open before it. -/
def strayTexts (s : Bool × Element) : List (List Char) :=
  if s.1 then texts (s.2.content.takeWhile fun part => !isModelTag part) else []

/-- A stray text does no harm if a text in a model in its branch set has the same name. -/
def Harmless (s : Bool × Element) : Prop :=
  ∀ raw ∈ strayTexts s, ∀ name, NamedBy name raw → ∃ raw' ∈ modelTexts s.2.content, NamedBy name raw'

/-- With a model open, all texts before the first tag of a model are read, and then the same as without. -/
theorem readTexts_open (content : List Event) : readTexts true content =
    texts (content.takeWhile fun part => !isModelTag part) ++ readTexts false content := by
  induction content with
  | nil => rfl
  | cons part rest ih =>
    cases model : isModelTag part with
    | true =>
      have none : texts [part] = [] := by
        cases part with
        | text _ => cases model
        | _ => simp [texts]
      have same : inModelAfter true part = inModelAfter false part := by
        cases part with
        | opening tag | closing name => simpa [inModelAfter, isModelTag] using model
        | _ => cases model
      rw [readTexts_tag none, readTexts_tag none, same, List.takeWhile_cons_of_neg (by simp [model])]
      rfl
    | false =>
      have same (inModel : Bool) : inModelAfter inModel part = inModel := by
        cases part with
        | opening tag | closing name =>
          have other := beq_eq_false_iff_ne.mp model
          simp [inModelAfter, other]
        | _ => rfl
      rw [readTexts, readTexts, same, same, ih, List.takeWhile_cons_of_pos (by simp [model]),
        texts_cons part (rest.takeWhile _), List.append_assoc]
      rfl

/-- Of a branch set the stray texts are read, and then the same as if no model were open around it. -/
theorem readTexts_stray (s : Bool × Element) :
    readTexts s.1 s.2.content = strayTexts s ++ readTexts false s.2.content := by
  obtain ⟨inModel, e⟩ := s
  cases inModel with
  | false => rfl
  | true => exact readTexts_open e.content

theorem attributedTo_iff {set : BranchSet} {s : Bool × Element} (read : ReadFrom set s) :
    AttributedTo set s.2 ↔ Harmless s := by
  obtain ⟨balanced, region, models⟩ := read
  obtain ⟨texts, names⟩ := exists_of_forall₂ models
  constructor
  · intro attributed raw stray name named
    obtain ⟨name', inside, named'⟩ := names raw (by
      rw [readTexts_stray]
      exact List.mem_append_left _ stray)
    exact named.unique named' ▸ attributed.models name' inside
  · refine fun harmless => ⟨region, fun name member => ?_⟩
    obtain ⟨raw, read, named⟩ := texts name member
    rw [readTexts_stray] at read
    rcases List.mem_append.mp read with stray | own
    · exact harmless raw stray name named
    · exact ⟨raw, readTexts_subset balanced own, named⟩

end Attribution

section Tree

variable {text : String} {tree : LogicTree}

/-- Branch sets with models, and models with names. -/
structure WellFormed (tree : LogicTree) : Prop where
  inhabited : tree.branchSets ≠ []
  models : ∀ set ∈ tree.branchSets, set.gsims ≠ []
  names : ∀ set ∈ tree.branchSets, ∀ name ∈ set.gsims, name ≠ "" ∧ Text.trim name.toList = name.toList

/-- A text that is read as a tree has branch sets, models and names. -/
theorem wellFormed (read : ofText text = .ok tree) : WellFormed tree := by
  obtain ⟨-, p, run, finished⟩ := ofText_eq_ok.mp read
  obtain ⟨-, inhabited, rfl⟩ := Progress.finish_eq_ok.mp finished
  obtain ⟨sets, whole, models⟩ := Progress.takeAll_complete run
  have made : p.complete = sets := whole
  refine ⟨inhabited, fun set member => models set (made ▸ member), fun set member name inside => ?_⟩
  obtain ⟨s, -, readFrom⟩ := (exists_of_forall₂ (read_from read)).1 set member
  obtain ⟨raw, -, value, -, named⟩ := (exists_of_forall₂ readFrom.models).1 name inside
  exact gsimName_ok named

/-- The models of a tree are listed once each, in the order in which they come first, and its regions are those
of its branch sets. -/
structure Summarized (tree : LogicTree) : Prop where
  distinct : tree.gsimNames.Nodup
  models : ∀ name, name ∈ tree.gsimNames ↔ ∃ set ∈ tree.branchSets, name ∈ set.gsims
  ordered : tree.gsimNames.Pairwise fun a b =>
    (tree.branchSets.flatMap (·.gsims)).idxOf a < (tree.branchSets.flatMap (·.gsims)).idxOf b
  regions : ∀ region, region ∈ tree.regions.members ↔ ∃ set ∈ tree.branchSets, set.region = region

theorem summarized (tree : LogicTree) : Summarized tree := by
  have ordered := eraseDups_ordered (tree.branchSets.flatMap (·.gsims))
  refine ⟨ordered.imp fun below same => ?_, fun name => ?_, ordered, fun region => ?_⟩
  · rw [same] at below
    exact lt_irrefl _ below
  · rw [gsimNames, List.mem_eraseDups, List.mem_flatMap]
  · rw [regions, SortedSet.ofList, SortedSet.mem_members_addAll, List.mem_map]
    simp [SortedSet.members, SortedMap.keys, SortedMap.empty]

theorem WellFormed.gsimNames_ne_nil (formed : WellFormed tree) : tree.gsimNames ≠ [] := by
  obtain ⟨set, more, sets⟩ := List.exists_cons_of_ne_nil formed.inhabited
  have first : set ∈ tree.branchSets := sets ▸ List.mem_cons_self
  obtain ⟨name, rest, names⟩ := List.exists_cons_of_ne_nil (formed.models set first)
  have listed := ((summarized tree).models name).mpr ⟨set, first, names ▸ List.mem_cons_self⟩
  exact List.ne_nil_of_mem listed

/-- The models of a tree are those of its elements exactly if no stray text makes a difference. -/
theorem attributed_iff (read : ofText text = .ok tree) :
    Attributed tree (document text) ↔ ∀ s ∈ markedSets false (document text), Harmless s := by
  rw [Attributed, ← markedSets_pairedSets false, List.forall₂_map_right_iff]
  exact forall₂_iff_forall (read_from read) fun set s readFrom => attributedTo_iff readFrom

end Tree

end HazardJob.LogicTree
