import HazardJob.Proofs.Markup.Part
import HazardJob.Proofs.Markup.Reference

/-! The elements of a document, each with what stands between its tags, and the character data of an element:
its texts with their references replaced, and its sections of character data. -/
namespace HazardJob.Markup

/-- An element by its tag, and what stands between its tags unless its tag is self-closing. -/
structure Element where
  tag : List Char
  content? : Option (List Event)
deriving DecidableEq

namespace Element

/-- The name without what stands before its first colon. -/
def name (e : Element) : List Char := localName (tagName e.tag)

/-- The parts between the tags; a self-closing element has none. -/
def content (e : Element) : List Event := e.content?.getD []

/-- The element has an opening and a closing tag. -/
def isPaired (e : Element) : Bool := e.content?.isSome

end Element

/-- The parts before the closing tag of an element, inside of which `depth` others are open. -/
def contentFrom : Nat → List Event → List Event
  | _, [] => []
  | depth, .opening tag :: rest => .opening tag :: contentFrom (depth + 1) rest
  | 0, .closing _ :: _ => []
  | depth + 1, .closing name :: rest => .closing name :: contentFrom depth rest
  | depth, part :: rest => part :: contentFrom depth rest

/-- The elements of a document, in the order of their tags. -/
def elements : List Event → List Element
  | [] => []
  | .opening tag :: rest => ⟨tag, some (contentFrom 0 rest)⟩ :: elements rest
  | .selfClosing tag :: rest => ⟨tag, none⟩ :: elements rest
  | _ :: rest => elements rest

def elementsNamed (name : List Char) (parts : List Event) : List Element :=
  (elements parts).filter (·.name == name)

/-- The texts among the parts, but for those of white space. -/
def texts : List Event → List (List Char)
  | [] => []
  | .text raw :: rest => if raw.all isSpace then texts rest else raw :: texts rest
  | _ :: rest => texts rest

/-- All character data among the parts: texts with their references replaced, and sections of character
data as they stand. -/
def characterData : List Event → Except ReferenceError (List Char)
  | [] => .ok []
  | .text raw :: rest => do return (← resolve raw) ++ (← characterData rest)
  | .characterData content :: rest => do return content ++ (← characterData rest)
  | _ :: rest => characterData rest

def Event.isCharacterData : Event → Bool
  | .characterData _ => true
  | _ => false

section Elements

variable {part : Event} {content parts rest : List Event} {tag name : List Char}

theorem contentFrom_inner (depth : Nat) (isInner : part.isInner = true) :
    contentFrom depth (part :: rest) = part :: contentFrom depth rest := by
  cases part with
  | opening _ | closing _ => cases isInner
  | _ => cases depth <;> simp [contentFrom]

theorem contentFrom_balanced (balanced : Balanced parts) (depth : Nat) (rest : List Event) :
    contentFrom depth (parts ++ rest) = parts ++ contentFrom depth rest := by
  induction balanced generalizing depth rest with
  | nil => rfl
  | inner isInner _ ih => rw [List.cons_append, contentFrom_inner depth isInner, ih, List.cons_append]
  | element _ _ inside after =>
    rw [List.cons_append, List.append_assoc, contentFrom, inside, List.cons_append, contentFrom, after,
      List.cons_append, List.append_assoc, List.cons_append]

/-- The content of an element ends before its closing tag. -/
theorem contentFrom_closing (balanced : Balanced content) :
    contentFrom 0 (content ++ .closing name :: rest) = content := by
  rw [contentFrom_balanced balanced, contentFrom, List.append_nil]

theorem contentFrom_document (document : Nesting parts) (depth : Nat) :
    contentFrom depth parts = parts := by
  induction document generalizing depth with
  | @balanced parts balanced =>
    have whole := contentFrom_balanced balanced depth []
    rwa [List.append_nil, contentFrom, List.append_nil] at whole
  | unclosed balanced _ ih => rw [contentFrom_balanced balanced, contentFrom, ih]

theorem elements_closing : elements (.closing name :: rest) = elements rest := by
  rw [elements] <;> nofun

theorem elements_inner (isInner : part.isInner = true) :
    elements (part :: rest) = elements [part] ++ elements rest := by
  cases part with
  | opening _ | closing _ => cases isInner
  | _ => simp [elements]

/-- Of the parts that neither open nor close an element, only a self-closing tag is one. -/
theorem element_of_inner (isInner : part.isInner = true) {e : Element} (member : e ∈ elements [part]) :
    e.content? = none := by
  cases part with
  | opening _ | closing _ => cases isInner
  | selfClosing tag =>
    obtain rfl := List.mem_singleton.mp member
    rfl
  | _ => cases member

theorem elements_append (balanced : Balanced parts) (rest : List Event) :
    elements (parts ++ rest) = elements parts ++ elements rest := by
  induction balanced generalizing rest with
  | nil => rfl
  | @inner part parts isInner _ ih =>
    rw [List.cons_append, elements_inner isInner, ih, ← List.append_assoc, ← elements_inner isInner]
  | @element tag content after inside _ ihInside ihAfter =>
    rw [List.cons_append, List.append_assoc, List.cons_append, elements, elements,
      contentFrom_closing inside, contentFrom_closing inside, ihInside, ihInside, elements_closing,
      elements_closing, ihAfter, List.cons_append, List.append_assoc]

/-- An element comes before those in its content, and these come before those after it. -/
theorem elements_element (balanced : Balanced content) :
    elements (.opening tag :: (content ++ .closing name :: rest)) =
      ⟨tag, some content⟩ :: (elements content ++ elements rest) := by
  rw [elements, contentFrom_closing balanced, elements_append balanced, elements_closing]

theorem elements_unclosed (document : Nesting rest) :
    elements (.opening tag :: rest) = ⟨tag, some rest⟩ :: elements rest := by
  rw [elements, contentFrom_document document]

theorem elementsNamed_nil {n : List Char} (none : ∀ e ∈ elements parts, e.name ≠ n) :
    elementsNamed n parts = [] :=
  List.filter_eq_nil_iff.mpr fun e member => mt eq_of_beq (none e member)

theorem elementsNamed_inner (n : List Char) (isInner : part.isInner = true) :
    elementsNamed n (part :: rest) = elementsNamed n [part] ++ elementsNamed n rest := by
  rw [elementsNamed, elements_inner isInner, List.filter_append]
  rfl

theorem elementsNamed_element (n : List Char) (balanced : Balanced content) :
    elementsNamed n (.opening tag :: (content ++ .closing name :: rest)) =
      (if localName (tagName tag) = n then [⟨tag, some content⟩] else []) ++
        (elementsNamed n content ++ elementsNamed n rest) := by
  simp only [elementsNamed, elements_element balanced, List.filter_cons, List.filter_append,
    Element.name, beq_iff_eq]
  split
  · rfl
  · rfl

/-- Every tag that opens an element belongs to one. -/
theorem exists_element_of_opening (member : .opening tag ∈ parts) : ∃ e ∈ elements parts, e.tag = tag := by
  induction parts with
  | nil => cases member
  | cons part rest ih =>
    rcases List.mem_cons.mp member with rfl | later
    · exact ⟨_, List.mem_cons_self, rfl⟩
    · obtain ⟨e, inside, same⟩ := ih later
      cases part with
      | opening _ | selfClosing _ => exact ⟨e, List.mem_cons_of_mem _ inside, same⟩
      | _ => exact ⟨e, inside, same⟩

end Elements

theorem texts_cons (part : Event) (rest : List Event) : texts (part :: rest) = texts [part] ++ texts rest := by
  cases part with
  | text raw =>
    rw [texts, texts]
    split
    · rfl
    · rfl
  | _ => simp [texts]

section CharacterData

variable {content : List Event} {raw value : List Char}

theorem unreferenced_of_spaces {s : List Char} (spaces : s.all isSpace = true) : Unreferenced s :=
  fun c member => of_isSpace (· != '&') rfl (List.all_eq_true.mp spaces c member)

/-- White space does not matter to the references of the text that it stands around. -/
theorem resolve_of_trimmed (read : resolve (Text.trimBy isSpace raw) = .ok value) :
    ∃ before after, resolve raw = .ok (before ++ value ++ after) ∧
      before.all isSpace = true ∧ after.all isSpace = true := by
  have leading := List.takeWhile_append_dropWhile (p := isSpace) (l := raw)
  have trailing := List.rdropWhile_append_rtakeWhile (p := isSpace) (l := raw.dropWhile isSpace)
  have before : (raw.takeWhile isSpace).all isSpace = true := List.all_takeWhile
  have after : ((raw.dropWhile isSpace).rtakeWhile isSpace).all isSpace = true :=
    List.all_eq_true.mpr fun c member => List.mem_rtakeWhile_imp member
  refine ⟨_, _, ?_, before, after⟩
  have resolved := ((resolve_iff.mp read).before (unreferenced_of_spaces before)).after
    (unreferenced_of_spaces after)
  have whole : raw.takeWhile isSpace ++ Text.trimBy isSpace raw ++
      (raw.dropWhile isSpace).rtakeWhile isSpace = raw := by
    rw [List.append_assoc, Text.trimBy]
    exact (congrArg _ trailing).trans leading
  rw [whole] at resolved
  exact resolve_iff.mpr resolved

theorem characterData_text (rest : List Event) (data : List Char) (read : resolve raw = .ok value)
    (later : characterData rest = .ok data) :
    characterData (.text raw :: rest) = .ok (value ++ data) := by
  rw [characterData, read, later]
  rfl

theorem resolve_spaces (spaces : raw.all isSpace = true) : resolve raw = .ok raw :=
  resolve_iff.mpr (.plain (unreferenced_of_spaces spaces))

/-- Without a text there is no character data but white space. -/
theorem characterData_of_texts_nil (sectionless : ∀ part ∈ content, part.isCharacterData = false)
    (none : texts content = []) :
    ∃ data, characterData content = .ok data ∧ data.all isSpace = true := by
  induction content with
  | nil => exact ⟨[], rfl, rfl⟩
  | cons part rest ih =>
    have later := ih fun part member => sectionless part (List.mem_cons_of_mem _ member)
    cases part with
    | text raw =>
      rw [texts] at none
      split at none
      · rename_i spaces
        obtain ⟨data, read, blank⟩ := later none
        refine ⟨raw ++ data, characterData_text rest data (resolve_spaces spaces) read, ?_⟩
        rw [List.all_append, spaces, blank]
        rfl
      · cases none
    | characterData data => cases sectionless _ List.mem_cons_self
    | _ => exact later none

/-- The character data around a single text is white space. -/
theorem characterData_of_texts_singleton
    (sectionless : ∀ part ∈ content, part.isCharacterData = false) (one : texts content = [raw])
    (read : resolve raw = .ok value) :
    ∃ before after, characterData content = .ok (before ++ value ++ after) ∧
      before.all isSpace = true ∧ after.all isSpace = true := by
  induction content with
  | nil => cases one
  | cons part rest ih =>
    have restless : ∀ part ∈ rest, part.isCharacterData = false :=
      fun part member => sectionless part (List.mem_cons_of_mem _ member)
    cases part with
    | text first =>
      rw [texts] at one
      split at one
      · rename_i spaces
        obtain ⟨before, after, data, blank, blank'⟩ := ih restless one
        refine ⟨first ++ before, after, ?_, ?_, blank'⟩
        · rw [characterData_text rest _ (resolve_spaces spaces) data, List.append_assoc,
            List.append_assoc, List.append_assoc]
        · rw [List.all_append, spaces, blank]
          rfl
      · obtain ⟨rfl, none⟩ := List.cons.inj one
        obtain ⟨data, blank, spaces⟩ := characterData_of_texts_nil restless none
        exact ⟨[], data, characterData_text rest data read blank, rfl, spaces⟩
    | characterData data => cases sectionless _ List.mem_cons_self
    | _ => exact ih restless one

end CharacterData

end HazardJob.Markup
