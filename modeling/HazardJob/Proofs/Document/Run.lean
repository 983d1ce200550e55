import HazardJob.Proofs.Document.Grammar
import HazardJob.Proofs.Document.Written

/-! Runs of the reader over lines. Each line is taken in by its form alone, and a run over lines leaves
the reader where the next lines find it. The reader comes to the end of the lines, or it stops at a line
after a run over those before it; what follows that line makes no difference to the error. -/
namespace HazardJob.Document

open Reading

/-- What reading has come to after lines that each have a form and a place. -/
inductive Runs : Progress → List (List Char) → Progress → Prop
  | done (p : Progress) : Runs p [] p
  | line {p q r : Progress} {raw : List Char} {more : List (List Char)} {l : Line} :
      l.Form raw → p.add? l = some q → Runs q more r → Runs p (raw :: more) r

/-- A line that has no form, or whose form has no place here. -/
def Stuck (p : Progress) (raw : List Char) : Prop :=
  (∀ l : Line, ¬l.Form raw) ∨ ∃ l : Line, l.Form raw ∧ p.add? l = none

/-- The line that an error is about, counted from one. -/
def Error.number : Error → Nat
  | unreadable number _ => number
  | orphan number => number

theorem Error.message_number (e : Error) :
    ∃ reason, e.message = "line " ++ toString e.number ++ ": " ++ reason := by
  cases e with
  | unreadable number report => exact ⟨report, rfl⟩
  | orphan number =>
    refine ⟨"continuation line without a preceding key", ?_⟩
    rw [message, String.append_assoc, String.append_assoc, String.append_assoc]
    rfl

theorem runs_or_stuck (p : Progress) (raws : List (List Char)) :
    (∃ q, Runs p raws q) ∨ ∃ before raw after q,
      raws = before ++ raw :: after ∧ Runs p before q ∧ Stuck q raw := by
  induction raws generalizing p with
  | nil => exact .inl ⟨p, .done p⟩
  | cons raw more ih =>
    by_cases formless : ∀ l : Line, ¬l.Form raw
    · exact .inr ⟨[], raw, more, p, rfl, .done p, .inl formless⟩
    obtain ⟨l, form⟩ := not_forall_not.mp formless
    cases added : p.add? l with
    | none => exact .inr ⟨[], raw, more, p, rfl, .done p, .inr ⟨l, form, added⟩⟩
    | some q =>
      rcases ih q with ⟨r, runs⟩ | ⟨before, last, after, r, rfl, runs, stuck⟩
      · exact .inl ⟨r, .line form added runs⟩
      · exact .inr ⟨raw :: before, last, after, r, rfl, .line form added runs, stuck⟩

/-- Lines that are run over are behind the reader, and only their number is left of them. -/
theorem readLines_of_runs {p q : Progress} {before : List (List Char)} (runs : Runs p before q)
    (number : Nat) (rest : List (List Char)) :
    readLines p number (before ++ rest) = readLines q (number + before.length) rest := by
  induction runs generalizing number with
  | done p => rfl
  | line form added runs ih =>
    rw [List.cons_append, readLines_cons (line_iff.mpr form) added, ih, List.length_cons]
    congr 1
    omega

/-- The error at a line on which the reader stops is that of this line, whatever comes after it. -/
theorem readLines_of_stuck {p : Progress} {raw : List Char} (stuck : Stuck p raw) (number : Nat) :
    ∃ e : Error, e.number = number ∧ ∀ more, readLines p number (raw :: more) = .error e := by
  rcases stuck with formless | ⟨l, form, misplaced⟩
  · obtain ⟨trace, refused⟩ := line_refused formless
    refine ⟨.unreadable number (report raw trace), rfl, ?_⟩
    intro more
    rw [readLines, refused]
  · refine ⟨.orphan number, rfl, ?_⟩
    intro more
    rw [readLines, line_iff.mpr form]
    simp only [misplaced]

theorem readLines_end {p q : Progress} {raws : List (List Char)} (runs : Runs p raws q)
    (number : Nat) : readLines p number raws = .ok ⟨q.close⟩ := by
  have read := readLines_of_runs runs number []
  rwa [List.append_nil] at read

/-- Lines are read as a document by a run over all of them. -/
theorem readLines_ok_iff {p : Progress} {number : Nat} {raws : List (List Char)} {d : Document} :
    readLines p number raws = .ok d ↔ ∃ q, Runs p raws q ∧ d = ⟨q.close⟩ := by
  constructor
  · intro read
    rcases runs_or_stuck p raws with ⟨q, runs⟩ | ⟨before, raw, after, q, rfl, runs, stuck⟩
    · exact ⟨q, runs, Except.ok.inj (read.symm.trans (readLines_end runs number))⟩
    · obtain ⟨e, -, failed⟩ := readLines_of_stuck stuck (number + before.length)
      rw [readLines_of_runs runs, failed] at read
      cases read
  · rintro ⟨q, runs, rfl⟩
    exact readLines_end runs number

end HazardJob.Document
