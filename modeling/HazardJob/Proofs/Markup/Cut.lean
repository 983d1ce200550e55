import HazardJob.Proofs.Markup.Part

/-! Documents that are cut off. Markup that is complete is read in the same way whatever comes after it, so
that a document without an error begins as every document does that it is the beginning of. Only a text at
the cut may be shorter. -/
namespace HazardJob.Markup

section Append

variable {s rest : List Char} {event : Event}

theorem splitAtClose_append {closes : List Char → Bool} {before content : List Char}
    (found : splitAtClose closes before s = some (content, rest)) (more : List Char) :
    splitAtClose closes before (s ++ more) = some (content, rest ++ more) := by
  induction s generalizing before with
  | nil => cases found
  | cons c s ih =>
    rw [splitAtClose] at found
    rw [List.cons_append, splitAtClose]
    split at found
    · rename_i here
      cases found
      rw [if_pos here]
    · rename_i later
      rw [if_neg later, ih found]

theorem splitTag_append {quote : Option Char} {before content : List Char}
    (found : splitTag quote before s = some (content, rest)) (more : List Char) :
    splitTag quote before (s ++ more) = some (content, rest ++ more) := by
  induction s generalizing quote before with
  | nil => cases found
  | cons c s ih =>
    cases quote with
    | some mark => exact ih found
    | none =>
      rw [splitTag] at found
      rw [List.cons_append, splitTag]
      split at found
      · rename_i here
        cases found
        rw [if_pos here]
      · rename_i later
        rw [if_neg later, ih found]

theorem instruction_append (read : instruction s = .ok (event, rest)) (more : List Char) :
    instruction (s ++ more) = .ok (event, rest ++ more) := by
  unfold instruction at read ⊢
  split at read
  · rename_i content _ found
    rw [splitAtClose_append found more]
    dsimp only
    split at read
    · rename_i long
      cases read
      rw [if_pos long]
    · cases read
  · cases read

theorem declaration_append (read : declaration s = .ok (event, rest)) (more : List Char) :
    declaration (s ++ more) = .ok (event, rest ++ more) := by
  have second {c : Char} {tail : List Char} (starts : s.drop 1 = c :: tail) :
      (s ++ more).drop 1 = c :: (tail ++ more) := by
    have long : 1 ≤ s.length := by
      by_contra short
      rw [List.drop_of_length_le (by omega)] at starts
      cases starts
    rw [List.drop_append_of_le_length long, starts, List.cons_append]
  have body {type rest' : List Char} (kept : (if type.isEmpty then .error .namelessDoctype
      else .ok (.doctype type, rest') : Except Error (Event × List Char)) = .ok (event, rest)) :
      (if type.isEmpty then .error .namelessDoctype
        else .ok (.doctype type, rest' ++ more) : Except Error (Event × List Char)) =
          .ok (event, rest ++ more) := by
    split at kept
    · cases kept
    · rename_i inhabited
      cases kept
      exact if_neg inhabited
  unfold declaration at read ⊢
  split at read
  case h_5 => cases read
  -- A comment, character data and, by two letters, a document type: each ends where its own kind does.
  all_goals
    rename_i starts
    rw [second starts]
    split at read
    case h_2 => cases read
    rename_i found
    dsimp only at read ⊢
    rw [splitAtClose_append found more]
    dsimp only
    split at read
    case isFalse => cases read
    rename_i named
    rw [if_pos named]
  · cases read
    rfl
  · cases read
    rfl
  · exact body read
  · exact body read

theorem markup_append {opened opened' : List (List Char)}
    (read : markup opened s = .ok (event, opened', rest)) (more : List Char) :
    markup opened (s ++ more) = .ok (event, opened', rest ++ more) := by
  unfold markup at read
  split at read
  · cases read
  · obtain ⟨⟨event, rest⟩, declared, same⟩ := map_eq_ok.mp read
    cases same
    rw [List.cons_append, markup, ← List.cons_append, declaration_append declared more]
    rfl
  · obtain ⟨⟨event, rest⟩, instructed, same⟩ := map_eq_ok.mp read
    cases same
    rw [List.cons_append, markup, ← List.cons_append, instruction_append instructed more]
    rfl
  · split at read
    · cases read
    · rename_i found
      rw [List.cons_append, markup, ← List.cons_append, splitTag_append found more]
      dsimp only at read ⊢
      split at read
      · cases read
      · split at read
        · rename_i same
          cases read
          exact if_pos same
        · cases read
  · rename_i full noDeclaration noInstruction noClosing
    have other {c : Char} (differs : ∀ tail, s = c :: tail → False) (tail : List Char) :
        s ++ more = c :: tail → False := by
      obtain ⟨d, s, rfl⟩ := List.exists_cons_of_ne_nil full
      intro same
      cases same
      exact differs s rfl
    split at read
    · cases read
    · rename_i found
      rw [markup]
      · rw [splitTag_append found more]
        dsimp only
        split at read
        · rename_i slash
          cases read
          exact if_pos slash
        · rename_i plain
          cases read
          exact if_neg plain
      · exact fun nothing => full (List.append_eq_nil_iff.mp nothing).1
      · exact other noDeclaration
      · exact other noInstruction
      · exact other noClosing

end Append

/-- The parts of a document that is cut off, and those of the whole: a text at the cut is the beginning
of one. -/
inductive CutOff : List Event → List Event → Prop
  | done {whole : List Event} : CutOff [] whole
  | text {raw raw' : List Char} {later : List Event} : raw <+: raw' →
      CutOff [.text raw] (.text raw' :: later)
  | part {part : Event} {cut whole : List Event} : CutOff cut whole → CutOff (part :: cut) (part :: whole)

section Parts

theorem CutOff.prepend (before : List Event) {cut whole : List Event} (cutOff : CutOff cut whole) :
    CutOff (before ++ cut) (before ++ whole) := by
  induction before with
  | nil => exact cutOff
  | cons part before ih => exact .part ih

/-- The rest after the first part of a document without an error has none either. -/
theorem markup_of_clean {bound : Nat} {opened : List (List Char)} {s afterMark : List Char} {mark : Char}
    (clean : (eventsFrom (bound + 1) opened s).2 = none)
    (after : s.dropWhile (· != '<') = mark :: afterMark) :
    ∃ event opened' rest, markup opened afterMark = .ok (event, opened', rest) ∧
      (eventsFrom bound opened' rest).2 = none := by
  unfold eventsFrom at clean
  dsimp only at clean
  rw [(skip_space s).1, after] at clean
  dsimp only at clean
  split at clean
  · cases clean
  · rename_i event opened' rest read
    exact ⟨event, opened', rest, read, clean⟩

theorem partsFrom_text (bound : Nat) (opened : List (List Char)) {s : List Char}
    (inhabited : s.takeWhile (· != '<') ≠ []) :
    ∃ later, partsFrom (bound + 1) opened s = .text (s.takeWhile (· != '<')) :: later := by
  have full : (s.takeWhile (· != '<')).isEmpty = false := by simpa using inhabited
  unfold partsFrom
  dsimp only
  rw [full, if_neg Bool.false_ne_true]
  split
  · exact ⟨[], rfl⟩
  · split
    · exact ⟨[], rfl⟩
    · exact ⟨_, rfl⟩

/-- A document without an error begins as the whole does of which it is the beginning. -/
theorem partsFrom_cut {bound bound' : Nat} {opened : List (List Char)} {s s' : List Char}
    (bounds : bound ≤ bound') (cut : s <+: s') (clean : (eventsFrom bound opened s).2 = none) :
    CutOff (partsFrom bound opened s) (partsFrom bound' opened s') := by
  induction bound generalizing bound' opened s s' with
  | zero => exact .done
  | succ bound ih =>
    obtain ⟨bound', rfl⟩ := Nat.exists_eq_add_of_le' (Nat.one_le_of_lt bounds)
    obtain ⟨more, rfl⟩ := cut
    cases after : s.dropWhile (· != '<') with
    | nil =>
      -- The cut is in a text or before one.
      have all : ∀ c ∈ s, (c != '<') = true := List.dropWhile_eq_nil_iff.mp after
      have own : s.takeWhile (· != '<') = s := List.takeWhile_eq_self_iff.mpr all
      have longer : (s ++ more).takeWhile (· != '<') = s ++ more.takeWhile (· != '<') :=
        List.takeWhile_append_of_pos all
      have short : partsFrom (bound + 1) opened s = if s.isEmpty then [] else [.text s] := by
        unfold partsFrom
        dsimp only
        rw [after, own]
      rw [short]
      split
      · exact .done
      · rename_i full
        obtain ⟨later, long⟩ := partsFrom_text bound' opened (s := s ++ more) (by
          rw [longer]
          exact List.append_ne_nil_of_left_ne_nil (by simpa using full) _)
        rw [long, longer]
        exact .text (List.prefix_append _ _)
    | cons mark afterMark =>
      obtain ⟨event, opened', rest, read, later⟩ := markup_of_clean clean after
      obtain ⟨text, whole⟩ := Text.cut_append after more
      unfold partsFrom
      dsimp only
      rw [after, whole, text]
      dsimp only
      rw [read, markup_append read more]
      dsimp only
      exact ((ih (Nat.le_of_succ_le_succ bounds) (List.prefix_append rest more) later).part).prepend _

theorem parts_cut {s s' : List Char} (cut : s <+: s') (clean : (events s).2 = none) :
    CutOff (parts s) (parts s') := by
  have beginning : dropByteOrderMark s <+: dropByteOrderMark s' := by
    cases s with
    | nil => exact List.nil_prefix
    | cons c s =>
      obtain ⟨more, rfl⟩ := cut
      rw [List.cons_append, dropByteOrderMark, dropByteOrderMark]
      split
      · exact List.prefix_append s more
      · exact List.prefix_append (c :: s) more
  exact partsFrom_cut (Nat.succ_le_succ cut.length_le) beginning clean

end Parts
end HazardJob.Markup
