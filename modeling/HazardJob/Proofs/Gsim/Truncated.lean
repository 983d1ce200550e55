import HazardJob.Proofs.Gsim.LogicTree
import HazardJob.Proofs.Markup.Cut

/-! Logic trees whose text is cut off. What is read of a beginning of the text is a beginning of the tree. A
branch set that is open at the cut is noticed, and so is markup that is not complete, but other
elements that are open are not: a text that is cut between two branch sets is a smaller tree. -/
namespace HazardJob.LogicTree

open Markup

/-- The tag that opens a branch set. -/
def opensSet : Event → Bool
  | .opening tag => localName (tagName tag) == branchSetName
  | _ => false

/-- The tag that closes a branch set. -/
def closesSet : Event → Bool
  | .closing name => localName name == branchSetName
  | _ => false

/-- A text ends between two branch sets of a longer one: outside of markup, with no branch set open, and after
some but not all of the sets. -/
structure EndsBetween (cut text : String) : Prop where
  clean : (events (Text.trim cut.toList)).2 = none
  closed : (document cut).countP opensSet = (document cut).countP closesSet
  inhabited : 0 < (document cut).countP closesSet
  fewer : (document cut).countP closesSet < (document text).countP closesSet

instance (cut text : String) : Decidable (EndsBetween cut text) :=
  decidable_of_iff ((events (Text.trim cut.toList)).2 = none ∧
      (document cut).countP opensSet = (document cut).countP closesSet ∧
      0 < (document cut).countP closesSet ∧
      (document cut).countP closesSet < (document text).countP closesSet)
    ⟨fun ⟨clean, closed, inhabited, fewer⟩ => ⟨clean, closed, inhabited, fewer⟩,
      fun ⟨clean, closed, inhabited, fewer⟩ => ⟨clean, closed, inhabited, fewer⟩⟩

namespace Progress

variable {p q : Progress} {part : Event} {content cut whole : List Event}

section Count

theorem count_inner (isInner : part.isInner = true) (rest : List Event) :
    (part :: rest).countP opensSet = rest.countP opensSet ∧
      (part :: rest).countP closesSet = rest.countP closesSet := by
  cases part with
  | opening _ | closing _ => cases isInner
  | _ => exact ⟨List.countP_cons_of_neg Bool.false_ne_true, List.countP_cons_of_neg Bool.false_ne_true⟩

theorem count_element (content rest : List Event) (tag : List Char) :
    (.opening tag :: (content ++ .closing (tagName tag) :: rest)).countP opensSet =
        (if localName (tagName tag) = branchSetName then 1 else 0) +
          (content.countP opensSet + rest.countP opensSet) ∧
      (.opening tag :: (content ++ .closing (tagName tag) :: rest)).countP closesSet =
        (if localName (tagName tag) = branchSetName then 1 else 0) +
          (content.countP closesSet + rest.countP closesSet) := by
  simp only [List.countP_cons, List.countP_append, opensSet, closesSet, beq_iff_eq,
    Bool.false_eq_true, if_false, add_zero]
  constructor <;> omega

/-- Every branch set that is opened is closed, and then has been read. -/
theorem count_balanced (balanced : Balanced content) (read : p.takeAll content = .ok q) :
    content.countP opensSet = content.countP closesSet ∧
      q.complete.length = p.complete.length + content.countP closesSet := by
  induction balanced generalizing p q with
  | nil =>
    obtain rfl := Except.ok.inj read
    exact ⟨rfl, rfl⟩
  | @inner part rest isInner _ ih =>
    obtain ⟨between, here, later⟩ := takeAll_cons_ok.mp read
    obtain ⟨names, rfl, -⟩ := take_inner_ok isInner here
    obtain ⟨opens, closes⟩ := count_inner isInner rest
    obtain ⟨even, sets⟩ := ih later
    rw [opens, closes]
    exact ⟨even, sets⟩
  | @element tag content rest balanced _ ihInside ihLater =>
    obtain ⟨inside, filled, after, opened, within, closed, later⟩ := takeAll_element_ok.mp read
    obtain ⟨even, sets⟩ := ihInside within
    obtain ⟨even', sets'⟩ := ihLater later
    obtain ⟨opens, closes⟩ := count_element content rest tag
    rw [opens, closes, even, even']
    refine ⟨rfl, ?_⟩
    rcases take_opening_ok opened with ⟨named, -, region, -, rfl⟩ | ⟨other, rfl⟩
    · obtain ⟨set, current⟩ := Option.isSome_iff_exists.mp (isSome_of_balanced balanced within)
      obtain ⟨-, rfl⟩ := take_closing_set named current closed
      rw [List.length_append, List.length_singleton] at sets'
      rw [if_pos named]
      dsimp only at sets
      omega
    · obtain rfl := take_closing_other other closed
      rw [if_neg other]
      dsimp only at sets sets'
      omega

/-- A branch set that is opened is closed, and then has been read, or it is the open one. -/
theorem count_document (document : Nesting content) (read : p.takeAll content = .ok q) :
    q.complete.length = p.complete.length + content.countP closesSet ∧
      p.current.isSome.toNat + content.countP opensSet =
        q.current.isSome.toNat + content.countP closesSet := by
  induction document generalizing p with
  | balanced balanced =>
    obtain ⟨even, sets⟩ := count_balanced balanced read
    exact ⟨sets, by rw [isSome_of_balanced balanced read, even]⟩
  | @unclosed parts tag rest balanced _ ih =>
    obtain ⟨before, first, read⟩ := takeAll_append_ok.mp read
    obtain ⟨inside, start, later⟩ := takeAll_cons_ok.mp read
    obtain ⟨even, sets⟩ := count_balanced balanced first
    obtain ⟨sets', counts⟩ := ih later
    have tagged : closesSet (.opening tag) = false := rfl
    rw [List.countP_append, List.countP_append, List.countP_cons_of_neg (by simp [tagged]),
      ← isSome_of_balanced balanced first]
    rcases take_opening_ok start with ⟨named, missing, region, -, rfl⟩ | ⟨other, rfl⟩
    · have opens : opensSet (.opening tag) = true := beq_iff_eq.mpr named
      rw [List.countP_cons_of_pos opens, missing]
      simp only [Option.isSome_some, Bool.toNat_true, Option.isSome_none, Bool.toNat_false] at *
      exact ⟨by omega, by omega⟩
    · have opens : opensSet (.opening tag) = false := beq_eq_false_iff_ne.mpr other
      rw [List.countP_cons_of_neg (by simp [opens])]
      dsimp only at sets' counts
      exact ⟨by omega, by omega⟩

end Count

section CutOff

/-- What is taken in of a document that is cut off is a beginning of what is taken in of the whole. -/
theorem complete_cut {r : Progress} (cutOff : CutOff cut whole) (read : p.takeAll whole = .ok q)
    (reached : p.takeAll cut = .ok r) : r.complete <+: q.complete := by
  induction cutOff generalizing p with
  | done =>
    obtain ⟨sets, whole, -⟩ := takeAll_complete read
    exact Except.ok.inj reached ▸ ⟨sets, whole.symm⟩
  | @text raw raw' later _ =>
    obtain ⟨between, here, rest⟩ := takeAll_cons_ok.mp reached
    obtain rfl := Except.ok.inj rest
    obtain ⟨sets, whole, -⟩ := takeAll_complete read
    obtain ⟨names, rfl, -⟩ := take_inner_ok rfl here
    exact ⟨sets, whole.symm⟩
  | part _ ih =>
    obtain ⟨between, here, later⟩ := takeAll_cons_ok.mp read
    obtain ⟨between', here', later'⟩ := takeAll_cons_ok.mp reached
    obtain rfl := Except.ok.inj (here.symm.trans here')
    exact ih later later'

/-- Of a document that is cut off everything is taken in, or a branch set is open before a text that is
cut off. -/
theorem takeAll_cut (cutOff : CutOff cut whole) (read : p.takeAll whole = .ok q) :
    (∃ r, p.takeAll cut = .ok r) ∨ ∃ before raw r, cut = before ++ [.text raw] ∧
      p.takeAll before = .ok r ∧ r.current.isSome = true := by
  induction cutOff generalizing p with
  | done => exact .inl ⟨p, rfl⟩
  | @text raw raw' later beginning =>
    cases opened : p.current with
    | some set => exact .inr ⟨[], raw, p, rfl, rfl, by rw [opened]; rfl⟩
    | none =>
      -- Outside of the branch sets no text is taken in, be it shorter or longer.
      obtain ⟨between, here, -⟩ := takeAll_cons_ok.mp read
      refine .inl ⟨p, takeAll_cons_ok.mpr ⟨p, ?_, rfl⟩⟩
      rcases take_text_ok here with ⟨passed, -⟩ | ⟨-, -, set, name, inside, -⟩
      · refine take_text_passed (passed.imp id fun spaces => ?_)
        exact List.all_eq_true.mpr fun c member =>
          List.all_eq_true.mp spaces c (beginning.subset member)
      · rw [opened] at inside
        cases inside
  | @part part cut whole _ ih =>
    obtain ⟨between, here, later⟩ := takeAll_cons_ok.mp read
    rcases ih later with ⟨r, reached⟩ | ⟨before, raw, r, rfl, reached, still⟩
    · exact .inl ⟨r, takeAll_cons_ok.mpr ⟨between, here, reached⟩⟩
    · exact .inr ⟨part :: before, raw, r, rfl, takeAll_cons_ok.mpr ⟨between, here, reached⟩, still⟩

end CutOff

end Progress

section Tree

variable {text cut : String} {tree : LogicTree}

/-- A tree has a branch set for every one that is closed in its document, and every one that is opened is
closed. -/
theorem count_sets (read : ofText text = .ok tree) :
    tree.branchSets.length = (document text).countP closesSet ∧
      (document text).countP opensSet = (document text).countP closesSet := by
  obtain ⟨-, p, run, finished⟩ := ofText_eq_ok.mp read
  obtain ⟨closed, -, rfl⟩ := Progress.finish_eq_ok.mp finished
  have nested : Nesting (document text) := parts_document _
  obtain ⟨sets, counts⟩ := Progress.count_document nested run
  rw [closed] at counts
  exact ⟨sets.trans (Nat.zero_add _), by simpa [Progress.start] using counts⟩

/-- What a beginning of a text is read as is a beginning of the tree. -/
theorem branchSets_cut {smaller : LogicTree} (read : ofText text = .ok tree)
    (beginning : cut.toList <+: text.toList) (read' : ofText cut = .ok smaller) :
    smaller.branchSets <+: tree.branchSets := by
  obtain ⟨-, p, run, finished⟩ := ofText_eq_ok.mp read
  obtain ⟨-, -, rfl⟩ := Progress.finish_eq_ok.mp finished
  obtain ⟨clean, r, run', finished'⟩ := ofText_eq_ok.mp read'
  obtain ⟨-, -, rfl⟩ := Progress.finish_eq_ok.mp finished'
  exact Progress.complete_cut (parts_cut (Text.trim_prefix beginning) clean) run run'

/-- A text that ends between two branch sets is a tree. -/
theorem EndsBetween.exists_tree (between : EndsBetween cut text) (read : ofText text = .ok tree)
    (beginning : cut.toList <+: text.toList) : ∃ smaller, ofText cut = .ok smaller := by
  obtain ⟨-, p, run, -⟩ := ofText_eq_ok.mp read
  have even := between.closed
  have nested : Nesting (document cut) := parts_document _
  have cutOff : CutOff (document cut) (document text) :=
    parts_cut (Text.trim_prefix beginning) between.clean
  rcases Progress.takeAll_cut cutOff run with ⟨r, run'⟩ | ⟨before, raw, r, whole, run', still⟩
  · obtain ⟨sets, counts⟩ := Progress.count_document nested run'
    have closed : r.current = none := by
      rw [even] at counts
      cases current : r.current with
      | none => rfl
      | some set =>
        rw [current] at counts
        simp [Progress.start] at counts
    have inhabited : r.complete ≠ [] := by
      have some := between.inhabited
      refine List.ne_nil_of_length_pos ?_
      omega
    exact ⟨⟨r.complete⟩, ofText_eq_ok.mpr
      ⟨between.clean, r, run', Progress.finish_eq_ok.mpr ⟨closed, inhabited, rfl⟩⟩⟩
  · -- The branch set that is open before the text has not been closed.
    rw [whole] at even nested
    obtain ⟨-, counts⟩ := Progress.count_document nested.initial run'
    rw [List.countP_append, List.countP_append] at even
    rw [still] at counts
    simp [Progress.start, opensSet, closesSet] at counts even
    omega

/-- A beginning of the text of a tree is an error or the same tree, but for the beginnings that end between two
branch sets: these are smaller trees. -/
theorem cut_off_iff (read : ofText text = .ok tree) (beginning : cut.toList <+: text.toList) :
    (∀ smaller, ofText cut = .ok smaller →
      smaller.branchSets = tree.branchSets.take ((document cut).countP closesSet)) ∧
    ((∃ e, ofText cut = .error e) ∨ ofText cut = .ok tree ↔ ¬EndsBetween cut text) := by
  have smaller_eq (smaller : LogicTree) (read' : ofText cut = .ok smaller) :
      smaller.branchSets = tree.branchSets.take ((document cut).countP closesSet) := by
    rw [← (count_sets read').1]
    exact List.prefix_iff_eq_take.mp (branchSets_cut read beginning read')
  refine ⟨smaller_eq, ?_, fun outside => ?_⟩
  · intro same between
    obtain ⟨smaller, read'⟩ := between.exists_tree read beginning
    rcases same with ⟨e, broken⟩ | whole
    · cases broken.symm.trans read'
    · have fewer := between.fewer
      rw [← (count_sets whole).1, ← (count_sets read).1] at fewer
      exact lt_irrefl _ fewer
  · cases read' : ofText cut with
    | error e => exact .inl ⟨e, rfl⟩
    | ok smaller =>
      obtain ⟨clean, p, -, finished⟩ := ofText_eq_ok.mp read'
      obtain ⟨-, inhabited, rfl⟩ := Progress.finish_eq_ok.mp finished
      obtain ⟨sets, even⟩ := count_sets read'
      have some : 0 < (document cut).countP closesSet := sets ▸ List.length_pos_iff.mpr inhabited
      have all : (document text).countP closesSet ≤ (document cut).countP closesSet := by
        by_contra fewer
        exact outside ⟨clean, even, some, not_le.mp fewer⟩
      have whole := smaller_eq _ read'
      rw [List.take_of_length_le ((count_sets read).1.trans_le all)] at whole
      exact .inr (congrArg (fun sets => Except.ok (LogicTree.mk sets)) whole)

/-- Two branch sets, with the elements around them closed. -/
def twoSetsText : String := "<nrml><logicTree>
  <logicTreeBranchSet applyToTectonicRegionType='Volcanic'>
    <uncertaintyModel>ToroEtAl2002</uncertaintyModel></logicTreeBranchSet>
  <logicTreeBranchSet applyToTectonicRegionType='Induced'>
    <uncertaintyModel>SadighEtAl1997</uncertaintyModel></logicTreeBranchSet></logicTree></nrml>"

/-- The beginning of it, up to the tag that opens the second branch set. -/
def openSetText : String := "<nrml><logicTree>
  <logicTreeBranchSet applyToTectonicRegionType='Volcanic'>
    <uncertaintyModel>ToroEtAl2002</uncertaintyModel></logicTreeBranchSet>
  <logicTreeBranchSet applyToTectonicRegionType='Induced'>"

/-- The beginning of it, up to the tag that closes the first branch set. -/
def firstSetText : String := "<nrml><logicTree>
  <logicTreeBranchSet applyToTectonicRegionType='Volcanic'>
    <uncertaintyModel>ToroEtAl2002</uncertaintyModel></logicTreeBranchSet>"

def twoSets : LogicTree := ⟨[⟨"Volcanic", ["ToroEtAl2002"]⟩, ⟨"Induced", ["SadighEtAl1997"]⟩]⟩

set_option maxRecDepth 8000 in
theorem cut_off_in_set : ofText twoSetsText = .ok twoSets ∧ openSetText.toList <+: twoSetsText.toList ∧
    ((∃ e, ofText openSetText = .error e) ∨ ofText openSetText = .ok twoSets) := by
  have chars : twoSetsText.toList = _ := String.toList_ofList
  have chars' : openSetText.toList = _ := String.toList_ofList
  have read : ofText twoSetsText = .ok twoSets := by
    rw [ofText, chars]
    decide +kernel
  have beginning : openSetText.toList <+: twoSetsText.toList := by
    rw [chars, chars']
    decide +kernel
  refine ⟨read, beginning, (cut_off_iff read beginning).2.mpr fun between => ?_⟩
  have closed := between.closed
  rw [document, chars'] at closed
  revert closed
  decide +kernel

set_option maxRecDepth 8000 in
/-- The end of the text is not missed: there is a tree, but with the first of the two branch sets only. -/
theorem cut_off_smaller : ofText twoSetsText = .ok twoSets ∧ firstSetText.toList <+: twoSetsText.toList ∧
    ofText firstSetText = .ok ⟨twoSets.branchSets.take 1⟩ ∧
    ¬((∃ e, ofText firstSetText = .error e) ∨ ofText firstSetText = .ok twoSets) := by
  have chars : twoSetsText.toList = _ := String.toList_ofList
  have chars' : firstSetText.toList = _ := String.toList_ofList
  have read : ofText twoSetsText = .ok twoSets := by
    rw [ofText, chars]
    decide +kernel
  have beginning : firstSetText.toList <+: twoSetsText.toList := by
    rw [chars, chars']
    decide +kernel
  have smaller : ofText firstSetText = .ok ⟨twoSets.branchSets.take 1⟩ := by
    rw [ofText, chars']
    decide +kernel
  refine ⟨read, beginning, smaller, ?_⟩
  rw [smaller]
  rintro (⟨e, broken⟩ | same)
  · cases broken
  · cases same

end Tree

end HazardJob.LogicTree
