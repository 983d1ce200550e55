import HazardJob.Proofs.Document.Written

/-! Documents that are read, written and read again. Reading gives keys in lower case and values whose
lines are trimmed; those among them that another reading does not give back are the keys that a dotted
capital I left its dot in, and the values with a line that reads as blank or as a comment. -/
namespace HazardJob

namespace Text

theorem dropReturn_subset (line : List Char) : dropReturn line ⊆ line := by
  unfold dropReturn
  split
  · exact List.dropLast_subset line
  · exact List.Subset.refl line

theorem subset_of_mem_lines {parts : List (List Char)} {line : List Char}
    (member : line ∈ lines.go parts) : ∃ part ∈ parts, line ⊆ part := by
  induction parts with
  | nil => cases member
  | cons part more ih =>
    cases more with
    | nil =>
      rw [lines.go] at member
      split at member
      · cases member
      · rw [List.mem_singleton.mp member]
        exact ⟨part, List.mem_cons_self, List.Subset.refl _⟩
    | cons next more =>
      rw [lines_go_cons part (by simp)] at member
      rcases List.mem_cons.mp member with rfl | later
      · exact ⟨part, List.mem_cons_self, dropReturn_subset part⟩
      · obtain ⟨other, inside, within⟩ := ih later
        exact ⟨other, List.mem_cons_of_mem _ inside, within⟩

/-- The lines of a text have no line feeds. -/
theorem lines_free {s line : List Char} (member : line ∈ lines s) :
    ∀ c ∈ line, (c == '\n') = false := by
  obtain ⟨part, inside, within⟩ := subset_of_mem_lines member
  exact fun c here => pieces_free inside c (within here)

end Text

namespace Document

open Reading

/-- An entry as it comes out of reading. -/
structure ReadEntry (e : String × String) : Prop where
  key : LoweredKey e.1
  value : ReadValue e.2

section Read

theorem SingleLine.read {text : String} (single : SingleLine text) : ReadValue text := by
  have lines : valueLines text = [text.toList] := Text.pieces_of_free single.free
  constructor
  · rw [lines]
    exact List.forall_mem_singleton.mpr single.bare
  · simp [lines]

theorem ReadValue.continue {value more : String} (read : ReadValue value) (single : SingleLine more) :
    ReadValue (Progress.continueValue value more) := by
  unfold Progress.continueValue
  split
  · exact single.read
  · rename_i full
    have lines : valueLines (value ++ "\n" ++ more) = valueLines value ++ [more.toList] := by
      have feed : "\n".toList = ['\n'] := rfl
      rw [valueLines, String.toList_append, String.toList_append, feed, List.append_assoc,
        List.singleton_append, Text.pieces_append_separator rfl, Text.pieces_of_free single.free]
      rfl
    constructor
    · rw [lines]
      exact List.forall_mem_append.mpr ⟨read.bare, List.forall_mem_singleton.mpr single.bare⟩
    · intro _
      obtain ⟨first, others, cut, whole⟩ := exists_valueLines value
      rw [lines, cut, List.cons_append, List.headD_cons]
      rintro rfl
      cases others with
      | nil =>
        rw [List.intercalate_singleton] at whole
        simp [← String.toList_eq_nil_iff, ← whole] at full
      | cons next others => exact read.started (by simp [cut]) (by simp [cut])

/-- The entries that reading has come to. -/
structure Progress.Proper (p : Progress) : Prop where
  complete : ∀ s ∈ p.complete, ∀ e ∈ s.entries, ReadEntry e
  entries : ∀ e ∈ p.entries, ReadEntry e

theorem Progress.Proper.close {p : Progress} (proper : p.Proper) :
    ∀ s ∈ p.close, ∀ e ∈ s.entries, ReadEntry e := by
  unfold Progress.close
  split
  · exact proper.complete
  · exact List.forall_mem_append.mpr
      ⟨proper.complete, List.forall_mem_singleton.mpr proper.entries⟩

/-- Every kind of line leaves entries of this form. -/
theorem Progress.Proper.add {p q : Progress} {l : Line} (proper : p.Proper) (form : l.Proper)
    (added : p.add? l = some q) : q.Proper := by
  cases l with
  | blank => cases added; exact proper
  | comment => cases added; exact proper
  | header name =>
    cases added
    exact ⟨proper.close, by simp⟩
  | entry key value =>
    cases added
    obtain ⟨key, value⟩ := form
    exact ⟨proper.complete, List.forall_mem_append.mpr
      ⟨proper.entries, List.forall_mem_singleton.mpr ⟨key, value.read⟩⟩⟩
  | continuation more =>
    obtain ⟨last, found, rfl⟩ := Option.map_eq_some_iff.mp added
    obtain ⟨key, value⟩ := proper.entries last (List.mem_of_getLast? found)
    refine ⟨proper.complete, List.forall_mem_append.mpr ⟨fun e member => ?_, ?_⟩⟩
    · exact proper.entries e (List.dropLast_subset _ member)
    · exact List.forall_mem_singleton.mpr ⟨key, value.continue form⟩

theorem readLines_proper {p : Progress} (proper : p.Proper) {number : Nat} {raws : List (List Char)}
    (free : ∀ raw ∈ raws, ∀ c ∈ raw, (c == '\n') = false) {d : Document}
    (read : readLines p number raws = .ok d) : ∀ e ∈ d.entries, ReadEntry e := by
  induction raws generalizing p number with
  | nil =>
    cases read
    intro e member
    obtain ⟨s, inside, here⟩ := List.mem_flatMap.mp member
    exact proper.close s inside e here
  | cons raw more ih =>
    rw [readLines] at read
    split at read
    · cases read
    · rename_i l found
      split at read
      · rename_i q added
        have form := line_proper (free raw List.mem_cons_self) found
        exact ih (proper.add form added) (fun other member => free other (by simp [member])) read
      · cases read

theorem ofText_readEntry {text : String} {d : Document} (read : ofText text = .ok d) :
    ∀ e ∈ d.entries, ReadEntry e :=
  readLines_proper (p := .start) ⟨by simp [Progress.start], by simp [Progress.start]⟩
    (fun _ => Text.lines_free) read

end Read

section Rewritten

/-- A document with a key that cannot be read is not read. -/
theorem settled_of_readLines {entries : List (String × String)}
    (lowered : ∀ e ∈ entries, LoweredKey e.1) {p : Progress} {number : Nat} {d : Document}
    (read : readLines p number (entries.flatMap entryLines) = .ok d) :
    ∀ e ∈ entries, ∀ c ∈ e.1.toList, isKeyChar c = true := by
  induction entries generalizing p number with
  | nil => simp
  | cons e more ih =>
    have own := lowered e List.mem_cons_self
    rw [List.flatMap_cons] at read
    have chars : ∀ c ∈ e.1.toList, isKeyChar c = true := by
      intro c member
      by_contra dot
      obtain ⟨s, -, lines⟩ := entryLines_eq own
      obtain ⟨trace, unreadable⟩ := line_unreadable own member (Bool.eq_false_iff.mpr dot) s
      rw [lines, List.cons_append] at read
      simp [readLines, unreadable] at read
    obtain ⟨later, here⟩ := readLines_entry (own.settled chars) p number (more.flatMap entryLines)
    rw [here] at read
    exact List.forall_mem_cons.mpr
      ⟨chars, ih (fun f member => lowered f (List.mem_cons_of_mem _ member)) read⟩

/-- The entries of a document that was read come back from the text that they are written to, if and
only if every key consists of key characters, and every line of a value after the first starts, once
trimmed, with a character that makes it a continuation. -/
theorem rewritten_iff {text : String} {d : Document} (read : ofText text = .ok d) :
    (∃ again, ofText (write d.entries) = .ok again ∧ again.entries = d.entries) ↔
      ∀ e ∈ d.entries, (∀ c ∈ e.1.toList, isKeyChar c = true) ∧
        ∀ l ∈ (valueLines e.2).tail, Continues l := by
  have proper := ofText_readEntry read
  have reread (settled : ∀ e ∈ d.entries, ∀ c ∈ e.1.toList, isKeyChar c = true) :=
    ofText_write_settled fun e member => (proper e member).key.settled (settled e member)
  constructor
  · rintro ⟨again, written, same⟩ e member
    have keys : ∀ e ∈ d.entries, ∀ c ∈ e.1.toList, isKeyChar c = true :=
      settled_of_readLines (fun f inside => (proper f inside).key) (ofText_write_eq _ ▸ written)
    refine ⟨keys e member, (proper e member).value.reread_iff.mp ?_⟩
    cases written.symm.trans (reread keys)
    rw [entries_close] at same
    exact congrArg Prod.snd (List.map_inj_left.mp (same.trans (List.map_id _).symm) e member)
  · intro kept
    refine ⟨_, reread fun e member => (kept e member).1, ?_⟩
    rw [entries_close]
    conv_rhs => rw [← List.map_id d.entries]
    refine List.map_congr_left fun e member => ?_
    exact Prod.ext rfl ((proper e member).value.reread_iff.mpr (kept e member).2)

theorem rewritten_two_lines :
    ofText "[site]\nKey = 1\n  2" = .ok ⟨[⟨"site", [("key", "1\n2")]⟩]⟩ ∧
      ∃ again, ofText (write [("key", "1\n2")]) = .ok again ∧ again.entries = [("key", "1\n2")] := by
  have read : ofText "[site]\nKey = 1\n  2" = .ok ⟨[⟨"site", [("key", "1\n2")]⟩]⟩ := by
    decide +kernel
  have chars : "key".toList.all isKeyChar = true := by decide +kernel
  have lines : (valueLines "1\n2").tail = [['2']] := by decide +kernel
  refine ⟨read, (rewritten_iff read).mpr (List.forall_mem_singleton.mpr ⟨?_, ?_⟩)⟩
  · exact List.all_eq_true.mp chars
  · rw [lines]
    exact List.forall_mem_singleton.mpr ⟨'2', rfl, by decide⟩

/-- A no-break space before a hash makes a line a continuation. It is trimmed off, and what is written
is a comment. -/
theorem rewritten_comment_lost :
    ¬∀ (text : String) (d : Document), ofText text = .ok d →
      ∃ again, ofText (write d.entries) = .ok again ∧ again.entries = d.entries := by
  intro all
  have read : ofText "description = a\n \u00a0# b" =
      .ok ⟨[⟨"general", [("description", "a\n# b")]⟩]⟩ := by decide +kernel
  have lost : ofText (write [("description", "a\n# b")]) =
      .ok ⟨[⟨"general", [("description", "a")]⟩]⟩ := by decide +kernel
  obtain ⟨again, written, same⟩ := all _ _ read
  cases lost.symm.trans written
  revert same
  decide

end Rewritten
end Document
end HazardJob
