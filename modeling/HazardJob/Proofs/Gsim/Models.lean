import HazardJob.Proofs.Gsim.Progress

/-! The branch sets and models of a document as its elements, against the texts that are read. A text that
comes while a model is open in a branch set lies in a model of the set, unless the model was open
before the set. -/
namespace HazardJob.LogicTree

open Markup

/-- The texts in the models of a document. -/
def modelTexts (parts : List Event) : List (List Char) :=
  (elementsNamed modelName parts).flatMap fun model => texts model.content

/-- The branch sets of a document that have a closing tag. -/
def pairedSets (parts : List Event) : List Element :=
  (elementsNamed branchSetName parts).filter Element.isPaired

/-- What a branch set is read as: a name for every text in a model. -/
structure ReadAs (set : BranchSet) (e : Element) : Prop where
  region : regionOf e.tag = .ok set.region
  models : List.Forall₂ NamedBy set.gsims (modelTexts e.content)

/-- No model or branch set stands in a model. -/
def Unnested (parts : List Event) : Prop :=
  ∀ model ∈ elements parts, model.name = modelName →
    ∀ e ∈ elements model.content, e.name ≠ modelName ∧ e.name ≠ branchSetName

instance (parts : List Event) : Decidable (Unnested parts) :=
  inferInstanceAs (Decidable (∀ model ∈ elements parts, model.name = modelName →
    ∀ e ∈ elements model.content, e.name ≠ modelName ∧ e.name ≠ branchSetName))

section Parts

variable {part : Event} {content parts rest : List Event} {tag name : List Char}

theorem modelTexts_inner (isInner : part.isInner = true) : modelTexts (part :: rest) = modelTexts rest := by
  unfold modelTexts
  rw [elementsNamed_inner _ isInner, List.flatMap_append, List.append_left_eq_self,
    List.flatMap_eq_nil_iff]
  intro model member
  rw [Element.content, element_of_inner isInner (List.mem_filter.mp member).1]
  rfl

theorem modelTexts_element (balanced : Balanced content) :
    modelTexts (.opening tag :: (content ++ .closing name :: rest)) =
      (if localName (tagName tag) = modelName then texts content else []) ++
        (modelTexts content ++ modelTexts rest) := by
  unfold modelTexts
  rw [elementsNamed_element _ balanced, List.flatMap_append, List.flatMap_append]
  split
  · rw [List.flatMap_singleton]
    rfl
  · rfl

theorem pairedSets_inner (isInner : part.isInner = true) : pairedSets (part :: rest) = pairedSets rest := by
  unfold pairedSets
  rw [elementsNamed_inner _ isInner, List.filter_append, List.append_left_eq_self,
    List.filter_eq_nil_iff]
  intro e member
  rw [Element.isPaired, element_of_inner isInner (List.mem_filter.mp member).1]
  exact Bool.false_ne_true

theorem pairedSets_opening : pairedSets (.opening tag :: rest) =
    (if localName (tagName tag) = branchSetName then [⟨tag, some (contentFrom 0 rest)⟩] else []) ++
      pairedSets rest := by
  simp only [pairedSets, elementsNamed, elements, List.filter_cons, Element.name, beq_iff_eq]
  split
  · rfl
  · rfl

/-- The branch sets that have a closing tag, by the tags that open them. -/
theorem markedSets_pairedSets (inModel : Bool) (parts : List Event) :
    (markedSets inModel parts).map (·.2) = pairedSets parts := by
  induction parts generalizing inModel with
  | nil => rfl
  | cons part rest ih =>
    cases inner : part.isInner with
    | true => rw [markedSets_inner inner, ih, pairedSets_inner inner]
    | false =>
      cases part with
      | opening tag =>
        rw [markedSets, List.map_append, ih, pairedSets_opening]
        split
        · rfl
        · rfl
      | closing name =>
        rw [markedSets_closing, ih, pairedSets, pairedSets, elementsNamed, elementsNamed, elements_closing]
      | _ => cases inner

theorem Unnested.mono (unnested : Unnested parts) (within : ∀ e ∈ elements rest, e ∈ elements parts) :
    Unnested rest :=
  fun model member => unnested model (within model member)

theorem Unnested.inner (unnested : Unnested (part :: rest)) (isInner : part.isInner = true) :
    Unnested rest := by
  refine unnested.mono fun e member => ?_
  rw [elements_inner isInner]
  exact List.mem_append_right _ member

theorem Unnested.inside (balanced : Balanced content)
    (unnested : Unnested (.opening tag :: (content ++ .closing name :: rest))) : Unnested content := by
  refine unnested.mono fun e member => ?_
  rw [elements_element balanced]
  exact List.mem_cons_of_mem _ (List.mem_append_left _ member)

theorem Unnested.later (balanced : Balanced content)
    (unnested : Unnested (.opening tag :: (content ++ .closing name :: rest))) : Unnested rest := by
  refine unnested.mono fun e member => ?_
  rw [elements_element balanced]
  exact List.mem_cons_of_mem _ (List.mem_append_right _ member)

theorem Unnested.before (balanced : Balanced parts)
    (unnested : Unnested (parts ++ .opening tag :: rest)) : Unnested parts := by
  refine unnested.mono fun e member => ?_
  rw [elements_append balanced]
  exact List.mem_append_left _ member

theorem Unnested.after (balanced : Balanced parts)
    (unnested : Unnested (parts ++ .opening tag :: rest)) : Unnested rest := by
  refine unnested.mono fun e member => ?_
  rw [elements_append balanced, elements]
  exact List.mem_append_right _ (List.mem_cons_of_mem _ member)

theorem Unnested.model (balanced : Balanced content)
    (unnested : Unnested (.opening tag :: (content ++ .closing name :: rest)))
    (model : localName (tagName tag) = modelName) :
    ∀ e ∈ elements content, e.name ≠ modelName ∧ e.name ≠ branchSetName := by
  refine unnested ⟨tag, some content⟩ ?_ model
  rw [elements_element balanced]
  exact List.mem_cons_self

theorem Unnested.unclosedModel (balanced : Balanced parts) (document : Nesting rest)
    (unnested : Unnested (parts ++ .opening tag :: rest))
    (model : localName (tagName tag) = modelName) :
    ∀ e ∈ elements rest, e.name ≠ modelName ∧ e.name ≠ branchSetName := by
  refine unnested ⟨tag, some rest⟩ ?_ model
  rw [elements_append balanced, elements_unclosed document]
  exact List.mem_append_right _ List.mem_cons_self

/-- A part that is no tag of a branch set or a model. -/
def Quiet : Event → Prop
  | .opening tag => localName (tagName tag) ≠ branchSetName ∧ localName (tagName tag) ≠ modelName
  | .closing name => localName name ≠ branchSetName ∧ localName name ≠ modelName
  | _ => True

/-- A document without branch sets and models has no tags of them. -/
theorem quiet_of_elements (document : Nesting content)
    (none : ∀ e ∈ elements content, e.name ≠ modelName ∧ e.name ≠ branchSetName) :
    ∀ part ∈ content, Quiet part := by
  have opened {tag : List Char} (member : .opening tag ∈ content) : Quiet (.opening tag) := by
    obtain ⟨e, inside, rfl⟩ := exists_element_of_opening member
    exact (none e inside).symm
  intro part member
  cases part with
  | opening tag => exact opened member
  | closing name =>
    obtain ⟨tag, inside, rfl⟩ := document.opening_of_closing member
    exact opened inside
  | _ => trivial

theorem inModelAfter_quiet (quiet : Quiet part) (inModel : Bool) : inModelAfter inModel part = inModel := by
  cases part with
  | opening tag => simp [inModelAfter, quiet.2]
  | closing name => simp [inModelAfter, quiet.2]
  | _ => rfl

theorem readTexts_subset_texts (inModel : Bool) (content : List Event) :
    readTexts inModel content ⊆ texts content := by
  induction content generalizing inModel with
  | nil => exact List.Subset.refl _
  | cons part rest ih =>
    rw [readTexts, texts_cons part rest]
    refine List.append_subset.mpr ⟨fun raw member => ?_, fun raw member => ?_⟩
    · split at member
      · exact List.mem_append_left _ member
      · cases member
    · exact List.mem_append_right _ (ih _ member)

/-- Without tags of models either all texts are read or none. -/
theorem readTexts_quiet (quiet : ∀ part ∈ content, Quiet part) (inModel : Bool) :
    readTexts inModel content = if inModel then texts content else [] := by
  induction content with
  | nil => cases inModel <;> rfl
  | cons part rest ih =>
    rw [readTexts, inModelAfter_quiet (quiet part List.mem_cons_self),
      ih fun part member => quiet part (List.mem_cons_of_mem _ member), texts_cons part rest]
    split
    · rfl
    · rfl

theorem modelTexts_nil (none : ∀ e ∈ elements content, e.name ≠ modelName ∧ e.name ≠ branchSetName) :
    modelTexts content = [] := by
  rw [modelTexts, elementsNamed_nil fun e member => (none e member).1, List.flatMap_nil]

theorem markedSets_nil (none : ∀ e ∈ elements content, e.name ≠ modelName ∧ e.name ≠ branchSetName)
    (inModel : Bool) : markedSets inModel content = [] := by
  rw [← List.map_eq_nil_iff, markedSets_pairedSets, pairedSets,
    elementsNamed_nil fun e member => (none e member).2, List.filter_nil]

/-- A model that is opened in balanced parts is closed in them. -/
theorem inModelAfterAll_balanced (balanced : Balanced content) : inModelAfterAll false content = false := by
  induction balanced with
  | nil => rfl
  | inner isInner _ ih => rw [inModelAfterAll_inner isInner, ih]
  | @element tag content rest _ _ ihInside ihLater =>
    rw [inModelAfterAll_element]
    by_cases model : localName (tagName tag) = modelName
    · rw [(inModelAfter_model model _).2, ihLater]
    · rw [(inModelAfter_other model _).1, (inModelAfter_other model _).2, ihInside, ihLater]

/-- What is read of a balanced element: of a model the texts of its content, of another element what is read of
its content. -/
theorem readTexts_balanced (balanced : Balanced content) :
    readTexts false (.opening tag :: (content ++ .closing (tagName tag) :: rest)) =
      readTexts (localName (tagName tag) == modelName) content ++ readTexts false rest := by
  rw [readTexts_element]
  by_cases model : localName (tagName tag) = modelName
  · rw [(inModelAfter_model model _).1, (inModelAfter_model model _).2, beq_iff_eq.mpr model]
  · rw [(inModelAfter_other model _).1, (inModelAfter_other model _).2, beq_eq_false_iff_ne.mpr model,
      inModelAfterAll_balanced balanced]

/-- Every text that is read lies in a model. -/
theorem readTexts_subset (balanced : Balanced content) : readTexts false content ⊆ modelTexts content := by
  induction balanced with
  | nil => exact List.Subset.refl _
  | inner isInner _ ih =>
    rw [readTexts_inner isInner, modelTexts_inner isInner]
    exact ih
  | @element tag content rest balanced _ ihInside ihLater =>
    rw [readTexts_balanced balanced, modelTexts_element balanced]
    by_cases model : localName (tagName tag) = modelName
    · rw [if_pos model]
      refine List.append_subset.mpr ⟨fun raw member => ?_, fun raw member => ?_⟩
      · exact List.mem_append_left _ (readTexts_subset_texts _ content member)
      · exact List.mem_append_right _ (List.mem_append_right _ (ihLater member))
    · rw [if_neg model, beq_eq_false_iff_ne.mpr model, List.nil_append]
      exact List.append_subset.mpr ⟨fun raw member => List.mem_append_left _ (ihInside member),
        fun raw member => List.mem_append_right _ (ihLater member)⟩

/-- Where nothing stands in a model but texts, these are the texts that are read. -/
theorem readTexts_unnested (balanced : Balanced content) (unnested : Unnested content) :
    readTexts false content = modelTexts content := by
  induction balanced with
  | nil => rfl
  | inner isInner _ ih =>
    rw [readTexts_inner isInner, modelTexts_inner isInner]
    exact ih (unnested.inner isInner)
  | @element tag content rest balanced _ ihInside ihLater =>
    rw [readTexts_balanced balanced, modelTexts_element balanced, ihLater (unnested.later balanced)]
    by_cases model : localName (tagName tag) = modelName
    · have none := unnested.model balanced model
      rw [if_pos model, beq_iff_eq.mpr model,
        readTexts_quiet (quiet_of_elements (.balanced balanced) none), modelTexts_nil none]
      rfl
    · rw [if_neg model, beq_eq_false_iff_ne.mpr model, ihInside (unnested.inside balanced)]
      rfl

/-- Where no branch set stands in a model, no model is open before a set. -/
theorem markedSets_unnested (balanced : Balanced content) (unnested : Unnested content) :
    ∀ s ∈ markedSets false content, s.1 = false ∧ readTexts false s.2.content = modelTexts s.2.content := by
  induction balanced with
  | nil => nofun
  | inner isInner _ ih =>
    rw [markedSets_inner isInner]
    exact ih (unnested.inner isInner)
  | @element tag content rest balanced _ ihInside ihLater =>
    have later := ihLater (unnested.later balanced)
    rw [markedSets_element balanced]
    by_cases model : localName (tagName tag) = modelName
    · rw [if_neg (model ▸ modelName_ne), (inModelAfter_model model _).2,
        markedSets_nil (unnested.model balanced model)]
      exact later
    · rw [(inModelAfter_other model _).1, (inModelAfter_other model _).2, inModelAfterAll_balanced balanced]
      intro s member
      rcases List.mem_append.mp member with here | member
      · split at here
        · obtain rfl := List.mem_singleton.mp here
          exact ⟨rfl, readTexts_unnested balanced (unnested.inside balanced)⟩
        · cases here
      · rcases List.mem_append.mp member with within | after
        · exact ihInside (unnested.inside balanced) s within
        · exact later s after

theorem markedSets_document (document : Nesting content) (unnested : Unnested content) :
    ∀ s ∈ markedSets false content, Balanced s.2.content →
      s.1 = false ∧ readTexts false s.2.content = modelTexts s.2.content := by
  induction document with
  | balanced balanced => exact fun s member _ => markedSets_unnested balanced unnested s member
  | @unclosed parts tag rest balanced document ih =>
    rw [markedSets_append balanced, inModelAfterAll_balanced balanced, markedSets,
      contentFrom_document document]
    intro s member closed
    rcases List.mem_append.mp member with before | member
    · exact markedSets_unnested balanced (unnested.before balanced) s before
    by_cases model : localName (tagName tag) = modelName
    · rw [if_neg (model ▸ modelName_ne), markedSets_nil (unnested.unclosedModel balanced document model)]
        at member
      cases member
    · rw [(inModelAfter_other model _).1] at member
      rcases List.mem_append.mp member with here | later
      · split at here
        · obtain rfl := List.mem_singleton.mp here
          exact ⟨rfl, readTexts_unnested closed (unnested.after balanced)⟩
        · cases here
      · exact ih (unnested.after balanced) s later closed

end Parts
end HazardJob.LogicTree
