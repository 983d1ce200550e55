import HazardJob.Markup.Event
import HazardJob.Proofs.Basic
import HazardJob.Proofs.Text

/-! Documents as they are written: their parts with all white space. The events of a document are its parts
less the white space around texts. Tags are closed in the order in which they were opened, so that what
stands between two tags of an element is a document in its own right. -/
namespace HazardJob.Markup

/-- The parts of a document up to its end or to an error, texts with the white space around them. -/
def partsFrom : Nat → List (List Char) → List Char → List Event
  | 0, _, _ => []
  | bound + 1, opened, s =>
    let raw := s.takeWhile (· != '<')
    let texts := if raw.isEmpty then [] else [Event.text raw]
    match s.dropWhile (· != '<') with
    | [] => texts
    | _ :: afterMark =>
      match markup opened afterMark with
      | .error _ => texts
      | .ok (event, opened, rest) => texts ++ event :: partsFrom bound opened rest

/-- The parts of a document. -/
def parts (s : List Char) : List Event := partsFrom (s.length + 1) [] (dropByteOrderMark s)

/-- A part less the white space around a text; nothing is left of white space alone. -/
def trimPart : Event → Option Event
  | .text raw =>
    if (Text.trimBy isSpace raw).isEmpty then none else some (.text (Text.trimBy isSpace raw))
  | part => some part

/-- A part that neither opens nor closes an element. -/
def Event.isInner : Event → Bool
  | .opening _ | .closing _ => false
  | _ => true

/-- Parts in which every element that is opened is closed. -/
inductive Balanced : List Event → Prop
  | nil : Balanced []
  | inner {part : Event} {rest : List Event} : part.isInner = true → Balanced rest →
      Balanced (part :: rest)
  | element {tag : List Char} {content rest : List Event} : Balanced content → Balanced rest →
      Balanced (.opening tag :: (content ++ .closing (tagName tag) :: rest))

/-- Parts in which elements may be left open at the end. -/
inductive Nesting : List Event → Prop
  | balanced {parts : List Event} : Balanced parts → Nesting parts
  | unclosed {parts : List Event} {tag : List Char} {rest : List Event} : Balanced parts →
      Nesting rest → Nesting (parts ++ .opening tag :: rest)

section Parts

theorem declaration_inner {s rest : List Char} {event : Event}
    (read : declaration s = .ok (event, rest)) :
    event.isInner = true ∧ ∀ raw, event ≠ .text raw := by
  unfold declaration at read
  split at read
  · split at read
    · split at read
      · cases read; exact ⟨rfl, nofun⟩
      · cases read
    · cases read
  · split at read
    · split at read
      · cases read; exact ⟨rfl, nofun⟩
      · cases read
    · cases read
  · split at read
    · split at read
      · dsimp only at read
        split at read
        · cases read
        · cases read; exact ⟨rfl, nofun⟩
      · cases read
    · cases read
  · split at read
    · split at read
      · dsimp only at read
        split at read
        · cases read
        · cases read; exact ⟨rfl, nofun⟩
      · cases read
    · cases read
  · cases read

theorem instruction_inner {s rest : List Char} {event : Event}
    (read : instruction s = .ok (event, rest)) :
    event.isInner = true ∧ ∀ raw, event ≠ .text raw := by
  unfold instruction at read
  split at read
  · split at read
    · cases read; exact ⟨rfl, nofun⟩
    · cases read
  · cases read

/-- What markup does to the elements that are open. -/
theorem markup_ok {opened opened' : List (List Char)} {s rest : List Char} {event : Event}
    (read : markup opened s = .ok (event, opened', rest)) :
    (∃ tag, event = .opening tag ∧ opened' = tagName tag :: opened) ∨
      (∃ name, event = .closing name ∧ opened = name :: opened') ∨
      event.isInner = true ∧ (∀ raw, event ≠ .text raw) ∧ opened' = opened := by
  unfold markup at read
  split at read
  · cases read
  · obtain ⟨⟨event, rest⟩, declared, same⟩ := map_eq_ok.mp read
    cases same
    obtain ⟨inner, noText⟩ := declaration_inner declared
    exact .inr (.inr ⟨inner, noText, rfl⟩)
  · obtain ⟨⟨event, rest⟩, instructed, same⟩ := map_eq_ok.mp read
    cases same
    obtain ⟨inner, noText⟩ := instruction_inner instructed
    exact .inr (.inr ⟨inner, noText, rfl⟩)
  · split at read
    · cases read
    · dsimp only at read
      split at read
      · cases read
      · split at read
        · rename_i same
          cases read
          exact .inr (.inl ⟨_, rfl, by rw [eq_of_beq same]⟩)
        · cases read
  · split at read
    · cases read
    · split at read
      · cases read
        exact .inr (.inr ⟨rfl, nofun, rfl⟩)
      · cases read
        exact .inl ⟨_, rfl, rfl⟩

theorem trimPart_markup {opened opened' : List (List Char)} {s rest : List Char} {event : Event}
    (read : markup opened s = .ok (event, opened', rest)) : trimPart event = some event := by
  have noText : ∀ raw, event ≠ .text raw := by
    rcases markup_ok read with ⟨tag, rfl, -⟩ | ⟨name, rfl, -⟩ | ⟨-, noText, -⟩
    · nofun
    · nofun
    · exact noText
  cases event with
  | text raw => exact absurd rfl (noText raw)
  | _ => rfl

theorem of_isSpace (p : Char → Bool) (held : [' ', '\r', '\n', '\t'].all p = true) {c : Char}
    (space : isSpace c = true) : p c = true := by
  simp only [isSpace, Bool.or_eq_true, beq_iff_eq] at space
  exact List.all_eq_true.mp held c (by simpa [or_assoc] using space)

theorem isSpace_ne_mark {c : Char} (space : isSpace c = true) : (c != '<') = true :=
  of_isSpace (· != '<') rfl space

/-- Skipping white space before a text and dropping it at the end of the text trims the text. -/
theorem skip_space (s : List Char) :
    (s.dropWhile isSpace).dropWhile (· != '<') = s.dropWhile (· != '<') ∧
      (s.dropWhile isSpace).takeWhile (· != '<') = (s.takeWhile (· != '<')).dropWhile isSpace := by
  induction s with
  | nil => exact ⟨rfl, rfl⟩
  | cons c rest ih =>
    cases space : isSpace c with
    | true =>
      simp only [List.dropWhile_cons, List.takeWhile_cons, space, isSpace_ne_mark space, if_true]
      exact ih
    | false =>
      rw [List.dropWhile_cons_of_neg (by simp [space])]
      refine ⟨rfl, ?_⟩
      rw [List.takeWhile_cons]
      split
      · rw [List.dropWhile_cons_of_neg (by simp [space])]
      · rfl

theorem isEmpty_dropWhile (p : Char → Bool) (s : List Char) : (s.dropWhile p).isEmpty = s.all p := by
  rw [Bool.eq_iff_iff, List.isEmpty_iff, List.dropWhile_eq_nil_iff, List.all_eq_true]

theorem isEmpty_trimBy (p : Char → Bool) (s : List Char) : (Text.trimBy p s).isEmpty = s.all p := by
  rw [← isEmpty_dropWhile]
  cases kept : s.dropWhile p with
  | nil => rw [Text.trimBy, kept]; rfl
  | cons c rest =>
    rw [Text.trimBy, kept, List.isEmpty_cons, List.isEmpty_eq_false_iff]
    intro nothing
    have blank := List.rdropWhile_eq_nil_iff.mp nothing c List.mem_cons_self
    rw [(Text.eq_of_dropWhile kept).2] at blank
    cases blank

theorem trimPart_text (raw : List Char) :
    (if raw.isEmpty then [] else [Event.text raw]).filterMap trimPart =
      if (raw.dropWhile isSpace).isEmpty then []
      else [Event.text (Text.dropEndWhile isSpace (raw.dropWhile isSpace))] := by
  cases raw with
  | nil => rfl
  | cons c rest =>
    simp only [List.isEmpty_cons, Bool.false_eq_true, if_false, List.filterMap_cons,
      List.filterMap_nil, trimPart, isEmpty_trimBy, isEmpty_dropWhile]
    cases (c :: rest).all isSpace <;> rfl

/-- The events of a document are its parts less the white space around texts. -/
theorem eventsFrom_eq (bound : Nat) (opened : List (List Char)) (s : List Char) :
    (eventsFrom bound opened s).1 = (partsFrom bound opened s).filterMap trimPart := by
  induction bound generalizing opened s with
  | zero => rfl
  | succ bound ih =>
    obtain ⟨after, before⟩ := skip_space s
    unfold eventsFrom partsFrom
    dsimp only
    rw [after, before]
    cases s.dropWhile (· != '<') with
    | nil => exact (trimPart_text _).symm
    | cons mark afterMark =>
      dsimp only
      cases read : markup opened afterMark with
      | error e => exact (trimPart_text _).symm
      | ok found =>
        obtain ⟨event, opened', rest⟩ := found
        dsimp only
        rw [List.filterMap_append, trimPart_text, List.filterMap_cons_some (trimPart_markup read), ih]

theorem events_eq (s : List Char) : (events s).1 = (parts s).filterMap trimPart := eventsFrom_eq _ _ _

end Parts

section Nesting

theorem Balanced.append {first second : List Event} (balanced : Balanced first)
    (later : Balanced second) : Balanced (first ++ second) := by
  induction balanced with
  | nil => exact later
  | inner isInner _ ih => exact .inner isInner ih
  | @element tag content rest inside _ _ ih =>
    rw [List.cons_append, List.append_assoc, List.cons_append]
    exact .element inside ih

theorem Nesting.prepend {first second : List Event} (balanced : Balanced first)
    (document : Nesting second) : Nesting (first ++ second) := by
  cases document with
  | balanced later => exact .balanced (balanced.append later)
  | unclosed before rest =>
    rw [← List.append_assoc]
    exact .unclosed (balanced.append before) rest

/-- Parts that close some of the open elements, those opened last, and leave others open. -/
inductive Closing : List (List Char) → List Event → Prop
  | none {opened : List (List Char)} {parts : List Event} : Nesting parts → Closing opened parts
  | last {name : List Char} {outer : List (List Char)} {content rest : List Event} :
      Balanced content → Closing outer rest → Closing (name :: outer) (content ++ .closing name :: rest)

theorem Closing.prepend {opened : List (List Char)} {first second : List Event}
    (balanced : Balanced first) (closing : Closing opened second) :
    Closing opened (first ++ second) := by
  cases closing with
  | none document => exact .none (document.prepend balanced)
  | last inside rest =>
    rw [← List.append_assoc]
    exact .last (balanced.append inside) rest

theorem Closing.opening {opened : List (List Char)} {tag : List Char} {rest : List Event}
    (closing : Closing (tagName tag :: opened) rest) : Closing opened (.opening tag :: rest) := by
  cases closing with
  | none document => exact .none (.unclosed .nil document)
  | @last _ _ content rest inside later =>
    have whole : Event.opening tag :: (content ++ .closing (tagName tag) :: rest) =
        (.opening tag :: (content ++ .closing (tagName tag) :: [])) ++ rest := by simp
    rw [whole]
    exact later.prepend (.element inside .nil)

theorem Closing.inner {opened : List (List Char)} {part : Event} {rest : List Event}
    (isInner : part.isInner = true) (closing : Closing opened rest) :
    Closing opened (part :: rest) :=
  closing.prepend (.inner isInner .nil)

theorem partsFrom_closing (bound : Nat) (opened : List (List Char)) (s : List Char) :
    Closing opened (partsFrom bound opened s) := by
  induction bound generalizing opened s with
  | zero => exact .none (.balanced .nil)
  | succ bound ih =>
    have before : Balanced
        (if (s.takeWhile (· != '<')).isEmpty then [] else [Event.text (s.takeWhile (· != '<'))]) := by
      split
      · exact .nil
      · exact .inner rfl .nil
    unfold partsFrom
    dsimp only
    split
    · exact .none (.balanced before)
    · split
      · exact .none (.balanced before)
      · rename_i event opened' rest read
        -- The elements open after the markup are those under which the rest is read.
        refine Closing.prepend before ?_
        rcases markup_ok read with ⟨tag, rfl, rfl⟩ | ⟨name, rfl, rfl⟩ | ⟨isInner, -, rfl⟩
        · exact (ih _ rest).opening
        · exact .last .nil (ih opened' rest)
        · exact (ih _ rest).inner isInner

/-- Only elements that are open are closed. -/
theorem parts_document (s : List Char) : Nesting (parts s) := by
  cases partsFrom_closing (s.length + 1) [] (dropByteOrderMark s) with
  | none document => exact document

theorem Balanced.initial {first second : List Event} (balanced : Balanced (first ++ second)) :
    Nesting first := by
  generalize whole : first ++ second = parts at balanced
  induction balanced generalizing first second with
  | nil =>
    obtain ⟨rfl, -⟩ := List.append_eq_nil_iff.mp whole
    exact .balanced .nil
  | inner isInner _ ih =>
    rcases List.append_eq_cons_iff.mp whole with ⟨rfl, -⟩ | ⟨before, rfl, rest⟩
    · exact .balanced .nil
    · exact (ih rest.symm).prepend (.inner isInner .nil)
  | @element tag content rest inside _ ihInside ihAfter =>
    rcases List.append_eq_cons_iff.mp whole with ⟨rfl, -⟩ | ⟨before, rfl, after⟩
    · exact .balanced .nil
    -- The first parts end inside of the element, with it, or after it.
    rcases List.append_eq_append_iff.mp after with ⟨within, rfl, later⟩ | ⟨left, same, -⟩
    · rcases List.append_eq_cons_iff.mp later.symm with ⟨rfl, -⟩ | ⟨further, rfl, others⟩
      · rw [List.append_nil]
        exact .unclosed .nil (.balanced inside)
      · have element : Balanced (.opening tag :: (content ++ .closing (tagName tag) :: [])) :=
          .element inside .nil
        simpa using (ihAfter others.symm).prepend element
    · exact .unclosed .nil (ihInside same.symm)

/-- The first parts of a document are a document. -/
theorem Nesting.initial {first second : List Event} (document : Nesting (first ++ second)) :
    Nesting first := by
  generalize whole : first ++ second = parts at document
  induction document generalizing first second with
  | balanced balanced =>
    subst whole
    exact balanced.initial
  | @unclosed parts tag rest balanced _ ih =>
    rcases List.append_eq_append_iff.mp whole with ⟨left, rfl, -⟩ | ⟨within, rfl, later⟩
    · exact balanced.initial
    · rcases List.append_eq_cons_iff.mp later.symm with ⟨rfl, -⟩ | ⟨further, rfl, others⟩
      · rw [List.append_nil]
        exact .balanced balanced
      · exact .unclosed balanced (ih others.symm)

/-- What is closed in a document has been opened in it. -/
theorem Balanced.opening_of_closing {parts : List Event} (balanced : Balanced parts) {name : List Char}
    (member : .closing name ∈ parts) : ∃ tag, .opening tag ∈ parts ∧ tagName tag = name := by
  induction balanced with
  | nil => cases member
  | inner isInner _ ih =>
    rcases List.mem_cons.mp member with rfl | later
    · cases isInner
    · obtain ⟨tag, opened, same⟩ := ih later
      exact ⟨tag, List.mem_cons_of_mem _ opened, same⟩
  | @element tag content rest _ _ inside after =>
    simp only [List.mem_cons, List.mem_append, reduceCtorEq, false_or, Event.closing.injEq] at member ⊢
    rcases member with within | rfl | later
    · obtain ⟨inner, opened, same⟩ := inside within
      exact ⟨inner, .inr (.inl opened), same⟩
    · exact ⟨tag, .inl rfl, rfl⟩
    · obtain ⟨other, opened, same⟩ := after later
      exact ⟨other, .inr (.inr opened), same⟩

theorem Nesting.opening_of_closing {parts : List Event} (document : Nesting parts)
    {name : List Char} (member : .closing name ∈ parts) :
    ∃ tag, .opening tag ∈ parts ∧ tagName tag = name := by
  induction document with
  | balanced balanced => exact balanced.opening_of_closing member
  | @unclosed parts tag rest balanced _ ih =>
    simp only [List.mem_append, List.mem_cons, reduceCtorEq, false_or] at member ⊢
    rcases member with before | after
    · obtain ⟨inner, opened, same⟩ := balanced.opening_of_closing before
      exact ⟨inner, .inl opened, same⟩
    · obtain ⟨other, opened, same⟩ := ih after
      exact ⟨other, .inr (.inr opened), same⟩

end Nesting

end HazardJob.Markup
