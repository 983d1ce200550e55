import HazardJob.Gsim.LogicTree
import HazardJob.Proofs.Markup.Element

/-! How a logic tree is read from the parts of a document: from tags and texts in passing, with no regard to
the elements that they belong to. A model is open if the last tag of a model opens one. Then every text adds a
name to the open branch set, which is complete with its closing tag. -/
namespace HazardJob.LogicTree

open Markup

/-- A text that the name of a model is read from. -/
def NamedBy (name : String) (raw : List Char) : Prop :=
  ∃ value, resolve raw = .ok value ∧ gsimName value = .ok name

/-- Whether a model is open after a part: the last tag of a model decides. -/
def inModelAfter (inModel : Bool) : Event → Bool
  | .opening tag => localName (tagName tag) == modelName || inModel
  | .closing name => localName name != modelName && inModel
  | _ => inModel

def inModelAfterAll (inModel : Bool) (parts : List Event) : Bool := parts.foldl inModelAfter inModel

/-- The texts that come while a model is open. -/
def readTexts (inModel : Bool) : List Event → List (List Char)
  | [] => []
  | part :: rest => (if inModel then texts [part] else []) ++ readTexts (inModelAfter inModel part) rest

/-- The branch sets that have a closing tag, each with whether a model is open before its tag. -/
def markedSets (inModel : Bool) : List Event → List (Bool × Element)
  | [] => []
  | .opening tag :: rest =>
    (if localName (tagName tag) = branchSetName then [(inModel, ⟨tag, some (contentFrom 0 rest)⟩)] else [])
      ++ markedSets (inModelAfter inModel (.opening tag)) rest
  | part :: rest => markedSets (inModelAfter inModel part) rest

/-- What a branch set is read from: a name for every text that comes while a model is open. -/
structure ReadFrom (set : BranchSet) (s : Bool × Element) : Prop where
  balanced : Balanced s.2.content
  region : regionOf s.2.tag = .ok set.region
  models : List.Forall₂ NamedBy set.gsims (readTexts s.1 s.2.content)

theorem modelName_ne : modelName ≠ branchSetName := by decide

/-- A branch set with more models. -/
def extend (names : List String) (set : BranchSet) : BranchSet := { set with gsims := set.gsims ++ names }

theorem extend_nil (set : BranchSet) : extend [] set = set := by rw [extend, List.append_nil]

theorem extend_extend (names more : List String) (set : BranchSet) :
    extend more (extend names set) = extend (names ++ more) set := by
  rw [extend, extend, extend, List.append_assoc]

theorem isBlank_of_isSpace {s : List Char} (spaces : s.all isSpace = true) :
    ∀ c ∈ s, Text.isBlank c = true :=
  fun c member => of_isSpace _ rfl (List.all_eq_true.mp spaces c member)

/-- White space around a model makes no difference to its name. -/
theorem gsimName_surrounded {before after : List Char} (spaces : before.all isSpace = true)
    (spaces' : after.all isSpace = true) (value : List Char) :
    gsimName (before ++ value ++ after) = gsimName value := by
  unfold gsimName
  rw [Text.trim_surrounded (isBlank_of_isSpace spaces) (isBlank_of_isSpace spaces')]

/-- A name read from a trimmed text is read from the text itself. -/
theorem namedBy_of_trimmed {raw value : List Char} {name : String}
    (read : resolve (Text.trimBy isSpace raw) = .ok value) (named : gsimName value = .ok name) :
    NamedBy name raw := by
  obtain ⟨before, after, whole, spaces, spaces'⟩ := resolve_of_trimmed read
  exact ⟨_, whole, by rw [gsimName_surrounded spaces spaces', named]⟩

section Marks

variable {part : Event} {content rest : List Event} {tag name : List Char}

theorem inModelAfter_inner (isInner : part.isInner = true) (inModel : Bool) :
    inModelAfter inModel part = inModel := by
  cases part with
  | opening _ | closing _ => cases isInner
  | _ => rfl

/-- The tags of a model open and close it. -/
theorem inModelAfter_model (model : localName (tagName tag) = modelName) (inModel : Bool) :
    inModelAfter inModel (.opening tag) = true ∧ inModelAfter inModel (.closing (tagName tag)) = false := by
  simp [inModelAfter, model]

theorem inModelAfter_other (other : localName (tagName tag) ≠ modelName) (inModel : Bool) :
    inModelAfter inModel (.opening tag) = inModel ∧
      inModelAfter inModel (.closing (tagName tag)) = inModel := by
  simp [inModelAfter, other]

theorem inModelAfterAll_inner (isInner : part.isInner = true) (inModel : Bool) :
    inModelAfterAll inModel (part :: rest) = inModelAfterAll inModel rest := by
  rw [inModelAfterAll, List.foldl_cons, inModelAfter_inner isInner, inModelAfterAll]

theorem inModelAfterAll_element (inModel : Bool) :
    inModelAfterAll inModel (.opening tag :: (content ++ .closing name :: rest)) =
      inModelAfterAll (inModelAfter (inModelAfterAll (inModelAfter inModel (.opening tag)) content)
        (.closing name)) rest := by
  simp only [inModelAfterAll, List.foldl_cons, List.foldl_append]

theorem readTexts_append (inModel : Bool) (content rest : List Event) :
    readTexts inModel (content ++ rest) =
      readTexts inModel content ++ readTexts (inModelAfterAll inModel content) rest := by
  induction content generalizing inModel with
  | nil => rfl
  | cons part content ih =>
    rw [List.cons_append, readTexts, ih, readTexts, List.append_assoc]
    rfl

theorem readTexts_inner (isInner : part.isInner = true) (inModel : Bool) :
    readTexts inModel (part :: rest) =
      (if inModel then texts [part] else []) ++ readTexts inModel rest := by
  rw [readTexts, inModelAfter_inner isInner]

theorem readTexts_tag (none : texts [part] = []) (inModel : Bool) :
    readTexts inModel (part :: rest) = readTexts (inModelAfter inModel part) rest := by
  rw [readTexts, none, ite_self, List.nil_append]

theorem readTexts_element (inModel : Bool) :
    readTexts inModel (.opening tag :: (content ++ .closing name :: rest)) =
      readTexts (inModelAfter inModel (.opening tag)) content ++
        readTexts (inModelAfter (inModelAfterAll (inModelAfter inModel (.opening tag)) content)
          (.closing name)) rest := by
  rw [readTexts_tag rfl, readTexts_append, readTexts_tag rfl]

theorem markedSets_inner (isInner : part.isInner = true) (inModel : Bool) :
    markedSets inModel (part :: rest) = markedSets inModel rest := by
  cases part with
  | opening _ | closing _ => cases isInner
  | _ => rfl

theorem markedSets_closing (inModel : Bool) :
    markedSets inModel (.closing name :: rest) = markedSets (inModelAfter inModel (.closing name)) rest := rfl

theorem markedSets_append (balanced : Balanced content) (inModel : Bool) (rest : List Event) :
    markedSets inModel (content ++ rest) =
      markedSets inModel content ++ markedSets (inModelAfterAll inModel content) rest := by
  induction balanced generalizing inModel rest with
  | nil => rfl
  | @inner part content isInner _ ih =>
    rw [List.cons_append, markedSets_inner isInner, ih, markedSets_inner isInner,
      inModelAfterAll_inner isInner]
  | @element tag content after inside _ ihInside ihAfter =>
    rw [List.cons_append, List.append_assoc, List.cons_append, markedSets, markedSets,
      contentFrom_closing inside, contentFrom_closing inside, ihInside, ihInside, markedSets_closing,
      markedSets_closing, ihAfter, inModelAfterAll_element, List.append_assoc, List.append_assoc]

/-- A branch set comes before those after it, and so do the sets in an element. -/
theorem markedSets_element (balanced : Balanced content) (inModel : Bool) :
    markedSets inModel (.opening tag :: (content ++ .closing name :: rest)) =
      (if localName (tagName tag) = branchSetName then [(inModel, ⟨tag, some content⟩)] else []) ++
        (markedSets (inModelAfter inModel (.opening tag)) content ++
          markedSets (inModelAfter (inModelAfterAll (inModelAfter inModel (.opening tag)) content)
            (.closing name)) rest) := by
  rw [markedSets, contentFrom_closing balanced, markedSets_append balanced, markedSets_closing]

end Marks

namespace Progress

/-- Takes in a part of a document. -/
def take (p : Progress) (part : Event) : Except LogicTreeError Progress :=
  match trimPart part with
  | some event => p.add event
  | none => .ok p

/-- Takes in parts in turn. -/
def takeAll (p : Progress) (parts : List Event) : Except LogicTreeError Progress :=
  parts.foldlM take p

/-- To take in the events of a document is to take in its parts. -/
theorem foldlM_eq (p : Progress) (parts : List Event) :
    (parts.filterMap trimPart).foldlM add p = p.takeAll parts := by
  rw [List.foldlM_filterMap, takeAll]
  congr
  funext p part
  rw [take]
  cases trimPart part <;> rfl

section Step

variable {p q : Progress} {part : Event} {tag name raw : List Char}

/-- What the opening tag of an element does. -/
theorem take_opening_ok (read : p.take (.opening tag) = .ok q) :
    (localName (tagName tag) = branchSetName ∧ p.current = none ∧
        ∃ region, regionOf tag = .ok region ∧ q = { p with current := some ⟨region, []⟩ }) ∨
      localName (tagName tag) ≠ branchSetName ∧
        q = { p with inModel := inModelAfter p.inModel (.opening tag) } := by
  change p.add (.opening tag) = .ok q at read
  rw [add] at read
  split at read
  · rename_i set
    split at read
    · cases read
    · rename_i closed
      obtain ⟨region, named, same⟩ := bind_eq_ok.mp read
      exact .inl ⟨eq_of_beq set, by simpa using closed, region, named, (Except.ok.inj same).symm⟩
  · rename_i other
    refine .inr ⟨by simpa using other, ?_⟩
    split at read
    · rename_i model
      cases read
      simp [inModelAfter, model]
    · rename_i model
      cases read
      simp [inModelAfter, model]

/-- What a text does: in a model of an open branch set it adds a name, unless it is white space. -/
theorem take_text_ok (read : p.take (.text raw) = .ok q) :
    ((p.inModel = false ∨ raw.all isSpace = true) ∧ q = p) ∨
      p.inModel = true ∧ raw.all isSpace = false ∧
        ∃ set name, p.current = some set ∧ NamedBy name raw ∧
          q = { p with current := some (extend [name] set) } := by
  rw [take, trimPart, isEmpty_trimBy] at read
  cases spaces : raw.all isSpace with
  | true =>
    rw [spaces, if_pos rfl] at read
    exact .inl ⟨.inr rfl, (Except.ok.inj read).symm⟩
  | false =>
    rw [spaces, if_neg Bool.false_ne_true] at read
    dsimp only [add] at read
    split at read
    · rename_i inModel
      obtain ⟨value, resolved, read⟩ := bind_eq_ok.mp read
      split at read
      · cases read
      · rename_i set opened
        obtain ⟨name, named, same⟩ := bind_eq_ok.mp read
        exact .inr ⟨inModel, rfl, set, name, opened,
          namedBy_of_trimmed (mapError_eq_ok.mp resolved) named, (Except.ok.inj same).symm⟩
    · rename_i outside
      exact .inl ⟨.inl (by simpa using outside), (Except.ok.inj read).symm⟩

/-- A text outside of the models is passed over, and so is white space. -/
theorem take_text_passed (passed : p.inModel = false ∨ raw.all isSpace = true) :
    p.take (.text raw) = .ok p := by
  rw [take, trimPart, isEmpty_trimBy]
  cases spaces : raw.all isSpace with
  | true => rw [if_pos rfl]
  | false =>
    rw [spaces] at passed
    have outside : p.inModel = false := passed.resolve_right Bool.false_ne_true
    rw [if_neg Bool.false_ne_true]
    dsimp only [add]
    rw [outside, if_neg Bool.false_ne_true]

/-- The closing tag of another element than a branch set closes a model or nothing. -/
theorem take_closing_other (other : localName name ≠ branchSetName)
    (read : p.take (.closing name) = .ok q) :
    q = { p with inModel := inModelAfter p.inModel (.closing name) } := by
  change p.add (.closing name) = .ok q at read
  rw [add, if_neg (mt eq_of_beq other)] at read
  split at read
  · rename_i model
    cases read
    rw [inModelAfter, eq_of_beq model]
    rfl
  · rename_i model
    have kept : (localName name != modelName) = true := by simpa using model
    cases read
    rw [inModelAfter, kept, Bool.true_and]

theorem take_closing_none (named : localName name = branchSetName) (closed : p.current = none)
    (read : p.take (.closing name) = .ok q) : q = p := by
  change p.add (.closing name) = .ok q at read
  rw [add, if_pos (beq_iff_eq.mpr named), closed] at read
  exact (Except.ok.inj read).symm

/-- The closing tag of a branch set completes it if it has a model. -/
theorem take_closing_set {set : BranchSet} (named : localName name = branchSetName)
    (opened : p.current = some set) (read : p.take (.closing name) = .ok q) :
    set.gsims ≠ [] ∧ q = { p with complete := p.complete ++ [set], current := none } := by
  change p.add (.closing name) = .ok q at read
  rw [add, named, if_pos (by decide), opened] at read
  dsimp only at read
  split at read
  · cases read
  · rename_i inhabited
    exact ⟨by simpa using inhabited, (Except.ok.inj read).symm⟩

/-- Other parts add their names to the open branch set; if there is none, they have no names. -/
theorem take_inner_ok (isInner : part.isInner = true) (read : p.take part = .ok q) :
    ∃ names, q = { p with current := p.current.map (extend names) } ∧
      List.Forall₂ NamedBy names (if p.inModel then texts [part] else []) := by
  have passed (same : q = p) : q = { p with current := p.current.map (extend []) } := by
    rw [same]
    cases p with
    | mk complete current inModel => cases current <;> simp [extend_nil]
  cases part with
  | opening _ | closing _ => cases isInner
  | text raw =>
    rcases take_text_ok read with
      ⟨outside | spaces, same⟩ | ⟨inside, solid, set, name, opened, named, rfl⟩
    · exact ⟨[], passed same, by simp [outside]⟩
    · exact ⟨[], passed same, by simp [texts, spaces]⟩
    · refine ⟨[name], by rw [opened]; rfl, ?_⟩
      rw [inside, if_pos rfl, texts, if_neg (by simp [solid]), texts]
      exact .cons named .nil
  | _ => exact ⟨[], passed (Except.ok.inj read).symm, by simp [texts]⟩

/-- Branch sets that are complete stay as they are, and those that come to be complete have models. -/
theorem take_complete (read : p.take part = .ok q) :
    ∃ sets, q.complete = p.complete ++ sets ∧ ∀ set ∈ sets, set.gsims ≠ [] := by
  have kept (same : q.complete = p.complete) :
      ∃ sets, q.complete = p.complete ++ sets ∧ ∀ set ∈ sets, set.gsims ≠ [] :=
    ⟨[], by rw [same, List.append_nil], nofun⟩
  cases part with
  | opening tag =>
    rcases take_opening_ok read with ⟨-, -, region, -, rfl⟩ | ⟨-, rfl⟩
    · exact kept rfl
    · exact kept rfl
  | closing name =>
    by_cases named : localName name = branchSetName
    · cases opened : p.current with
      | none =>
        obtain rfl := take_closing_none named opened read
        exact kept rfl
      | some set =>
        obtain ⟨inhabited, rfl⟩ := take_closing_set named opened read
        exact ⟨[set], rfl, List.forall_mem_singleton.mpr inhabited⟩
    · obtain rfl := take_closing_other named read
      exact kept rfl
  | _ =>
    obtain ⟨names, rfl, -⟩ := take_inner_ok rfl read
    exact kept rfl

end Step

section Run

variable {p q : Progress} {part : Event} {content rest : List Event} {tag name : List Char}

theorem takeAll_cons_ok : p.takeAll (part :: rest) = .ok q ↔
    ∃ between, p.take part = .ok between ∧ between.takeAll rest = .ok q := bind_eq_ok

theorem takeAll_append_ok : p.takeAll (content ++ rest) = .ok q ↔
    ∃ between, p.takeAll content = .ok between ∧ between.takeAll rest = .ok q := by
  rw [takeAll, List.foldlM_append]
  exact bind_eq_ok

/-- An element is taken in by its opening tag, its content and its closing tag. -/
theorem takeAll_element_ok : p.takeAll (.opening tag :: (content ++ .closing name :: rest)) = .ok q ↔
    ∃ inside filled after, p.take (.opening tag) = .ok inside ∧ inside.takeAll content = .ok filled ∧
      filled.take (.closing name) = .ok after ∧ after.takeAll rest = .ok q := by
  simp only [takeAll_cons_ok, takeAll_append_ok]
  constructor
  · rintro ⟨inside, opened, filled, within, after, closed, later⟩
    exact ⟨inside, filled, after, opened, within, closed, later⟩
  · rintro ⟨inside, filled, after, opened, within, closed, later⟩
    exact ⟨inside, opened, filled, within, after, closed, later⟩

theorem takeAll_complete (read : p.takeAll content = .ok q) :
    ∃ sets, q.complete = p.complete ++ sets ∧ ∀ set ∈ sets, set.gsims ≠ [] := by
  induction content generalizing p with
  | nil => exact ⟨[], by rw [Except.ok.inj read, List.append_nil], nofun⟩
  | cons part rest ih =>
    obtain ⟨between, here, later⟩ := takeAll_cons_ok.mp read
    obtain ⟨sets, first, inhabited⟩ := take_complete here
    obtain ⟨more, whole, inhabited'⟩ := ih later
    exact ⟨sets ++ more, by rw [whole, first, List.append_assoc],
      List.forall_mem_append.mpr ⟨inhabited, inhabited'⟩⟩

/-- In an open branch set every text in a model adds its name; no other set has its tags there. -/
theorem takeAll_set {complete : List BranchSet} {set : BranchSet} {inModel : Bool}
    (balanced : Balanced content) (read : takeAll ⟨complete, some set, inModel⟩ content = .ok q) :
    ∃ names, q = ⟨complete, some (extend names set), inModelAfterAll inModel content⟩ ∧
      List.Forall₂ NamedBy names (readTexts inModel content) ∧ markedSets inModel content = [] := by
  induction balanced generalizing set inModel q with
  | nil => exact ⟨[], by rw [extend_nil]; exact (Except.ok.inj read).symm, .nil, rfl⟩
  | inner isInner _ ih =>
    obtain ⟨between, here, later⟩ := takeAll_cons_ok.mp read
    obtain ⟨names, rfl, named⟩ := take_inner_ok isInner here
    obtain ⟨more, rfl, others, free⟩ := ih later
    rw [markedSets_inner isInner, free, readTexts_inner isInner, inModelAfterAll_inner isInner]
    exact ⟨names ++ more, by rw [← extend_extend], List.rel_append named others, rfl⟩
  | @element tag content rest balanced _ ihInside ihLater =>
    obtain ⟨inside, filled, after, opened, within, closed, later⟩ := takeAll_element_ok.mp read
    rcases take_opening_ok opened with ⟨-, missing, -⟩ | ⟨other, rfl⟩
    · cases missing
    obtain ⟨names, rfl, named, free⟩ := ihInside within
    obtain rfl := take_closing_other other closed
    obtain ⟨more, rfl, others, free'⟩ := ihLater later
    rw [markedSets_element balanced, if_neg other, free, free', readTexts_element, inModelAfterAll_element]
    exact ⟨names ++ more, by rw [← extend_extend], List.rel_append named others, rfl⟩

/-- Outside of the branch sets every set with a closing tag is read. -/
theorem takeAll_balanced {complete : List BranchSet} {inModel : Bool} (balanced : Balanced content)
    (read : takeAll ⟨complete, none, inModel⟩ content = .ok q) :
    ∃ sets, q = ⟨complete ++ sets, none, inModelAfterAll inModel content⟩ ∧
      List.Forall₂ ReadFrom sets (markedSets inModel content) := by
  induction balanced generalizing complete inModel q with
  | nil => exact ⟨[], by rw [List.append_nil]; exact (Except.ok.inj read).symm, .nil⟩
  | inner isInner _ ih =>
    obtain ⟨between, here, later⟩ := takeAll_cons_ok.mp read
    obtain ⟨names, rfl, -⟩ := take_inner_ok isInner here
    rw [markedSets_inner isInner, inModelAfterAll_inner isInner]
    exact ih later
  | @element tag content rest balanced _ ihInside ihLater =>
    obtain ⟨inside, filled, after, opened, within, closed, later⟩ := takeAll_element_ok.mp read
    rw [markedSets_element balanced, inModelAfterAll_element]
    rcases take_opening_ok opened with ⟨named, -, region, regional, rfl⟩ | ⟨other, rfl⟩
    · obtain ⟨names, rfl, models, free⟩ := takeAll_set balanced within
      obtain ⟨-, rfl⟩ := take_closing_set named rfl closed
      obtain ⟨sets, rfl, others⟩ := ihLater later
      have other : localName (tagName tag) ≠ modelName := named ▸ modelName_ne.symm
      rw [if_pos named, (inModelAfter_other other _).1, free, (inModelAfter_other other _).2]
      refine ⟨extend names ⟨region, []⟩ :: sets, by simp, ?_⟩
      exact .cons ⟨balanced, regional, models⟩ others
    · obtain ⟨sets, rfl, here⟩ := ihInside within
      obtain rfl := take_closing_other other closed
      obtain ⟨more, rfl, others⟩ := ihLater later
      rw [if_neg other, List.nil_append]
      exact ⟨sets ++ more, by rw [List.append_assoc], List.rel_append here others⟩

/-- A branch set stays open as long as its own closing tag does not come. -/
theorem isSome_of_balanced (balanced : Balanced content) (read : p.takeAll content = .ok q) :
    q.current.isSome = p.current.isSome := by
  induction balanced generalizing p q with
  | nil => rw [Except.ok.inj read]
  | inner isInner _ ih =>
    obtain ⟨between, here, later⟩ := takeAll_cons_ok.mp read
    obtain ⟨names, rfl, -⟩ := take_inner_ok isInner here
    exact (ih later).trans Option.isSome_map
  | @element tag content rest _ _ ihInside ihLater =>
    obtain ⟨inside, filled, after, start, within, closed, later⟩ := takeAll_element_ok.mp read
    have still := ihInside within
    rcases take_opening_ok start with ⟨named, missing, region, -, rfl⟩ | ⟨other, rfl⟩
    · obtain ⟨set, opened⟩ := Option.isSome_iff_exists.mp still
      obtain ⟨-, rfl⟩ := take_closing_set named opened closed
      rw [ihLater later, missing]
    · obtain rfl := take_closing_other other closed
      exact (ihLater later).trans still

/-- A branch set that is open stays open in what is left of its document. -/
theorem isSome_of_document (document : Nesting content) (read : p.takeAll content = .ok q)
    (opened : p.current.isSome = true) : q.current.isSome = true := by
  induction document generalizing p with
  | balanced balanced => rw [isSome_of_balanced balanced read, opened]
  | unclosed balanced _ ih =>
    obtain ⟨before, first, read⟩ := takeAll_append_ok.mp read
    obtain ⟨inside, start, later⟩ := takeAll_cons_ok.mp read
    have still := (isSome_of_balanced balanced first).trans opened
    rcases take_opening_ok start with ⟨-, missing, -⟩ | ⟨-, rfl⟩
    · rw [missing] at still
      cases still
    · exact ih later still

/-- A document that leaves no branch set open is read as its branch sets with closing tags. -/
theorem takeAll_document {complete : List BranchSet} {inModel : Bool} (document : Nesting content)
    (closed : q.current = none) (read : takeAll ⟨complete, none, inModel⟩ content = .ok q) :
    ∃ sets, q.complete = complete ++ sets ∧ List.Forall₂ ReadFrom sets (markedSets inModel content) := by
  induction document generalizing complete inModel with
  | balanced balanced =>
    obtain ⟨sets, rfl, models⟩ := takeAll_balanced balanced read
    exact ⟨sets, rfl, models⟩
  | @unclosed parts tag rest balanced document ih =>
    obtain ⟨before, first, read⟩ := takeAll_append_ok.mp read
    obtain ⟨inside, start, later⟩ := takeAll_cons_ok.mp read
    obtain ⟨sets, rfl, models⟩ := takeAll_balanced balanced first
    rw [markedSets_append balanced, markedSets]
    rcases take_opening_ok start with ⟨-, -, region, -, rfl⟩ | ⟨other, rfl⟩
    · -- A branch set that is left open stays open to the end.
      have still := isSome_of_document document later rfl
      rw [closed] at still
      cases still
    · obtain ⟨more, whole, others⟩ := ih later
      rw [if_neg other, List.nil_append]
      exact ⟨sets ++ more, by rw [whole, List.append_assoc], List.rel_append models others⟩

/-- A document ends outside of the branch sets, and after one at least. -/
theorem finish_eq_ok {tree : LogicTree} :
    p.finish = .ok tree ↔ p.current = none ∧ p.complete ≠ [] ∧ tree = ⟨p.complete⟩ := by
  unfold finish
  constructor
  · intro read
    split at read
    · cases read
    · rename_i closed
      split at read
      · cases read
      · rename_i inhabited
        exact ⟨by simpa using closed, by simpa using inhabited, (Except.ok.inj read).symm⟩
  · rintro ⟨closed, inhabited, rfl⟩
    rw [closed, if_neg (by simp), if_neg (by simpa using inhabited)]

end Run

end Progress

end HazardJob.LogicTree
