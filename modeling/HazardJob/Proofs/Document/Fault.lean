import HazardJob.Proofs.Document.Run

/-! The first fault of a job file. A line is at fault if it has none of the forms of lines, or if it is a
continuation and no entry stands before it since the last header. Reading fails exactly if a line is at
fault; the error names the first such line, and depends on no line after it. -/
namespace HazardJob.Document

open Reading

def IsEntry (raw : List Char) : Prop := ∃ key value, (Line.entry key value).Form raw

def IsHeader (raw : List Char) : Prop := ∃ name, (Line.header name).Form raw

def IsContinuation (raw : List Char) : Prop := ∃ more, (Line.continuation more).Form raw

/-- An entry stands among the lines, and no header after it. -/
def Continuable (before : List (List Char)) : Prop :=
  ∃ earlier raw later, before = earlier ++ raw :: later ∧ IsEntry raw ∧
    ∀ other ∈ later, ¬IsHeader other

/-- A line after others that has no form, or continues nothing. -/
def Faulty (before : List (List Char)) (raw : List Char) : Prop :=
  (∀ l : Line, ¬l.Form raw) ∨ IsContinuation raw ∧ ¬Continuable before

/-- The line with this number, counted from one, is at fault. -/
def FaultAt (raws : List (List Char)) (number : Nat) : Prop :=
  ∃ before raw after, raws = before ++ raw :: after ∧ number = before.length + 1 ∧
    Faulty before raw

section Continuable

theorem not_continuable_nil : ¬Continuable [] := by
  rintro ⟨earlier, raw, later, cut, -⟩
  simp at cut

/-- An entry can be continued, a header ends that, and any other line leaves it as it is. -/
theorem continuable_append_singleton {before : List (List Char)} {raw : List Char} :
    Continuable (before ++ [raw]) ↔ IsEntry raw ∨ Continuable before ∧ ¬IsHeader raw := by
  constructor
  · rintro ⟨earlier, other, later, cut, entry, free⟩
    rcases List.eq_nil_or_concat later with rfl | ⟨later, last, rfl⟩
    · obtain ⟨-, same⟩ := List.append_inj' cut rfl
      rw [List.cons.inj same |>.1]
      exact .inl entry
    · rw [List.concat_eq_append, ← List.cons_append, ← List.append_assoc] at cut
      obtain ⟨rfl, same⟩ := List.append_inj' cut rfl
      obtain rfl := (List.cons.inj same).1
      simp only [List.concat_eq_append, List.mem_append, List.mem_singleton] at free
      exact .inr ⟨⟨earlier, other, later, rfl, entry, fun x member => free x (.inl member)⟩,
        free raw (.inr rfl)⟩
  · rintro (entry | ⟨⟨earlier, other, later, rfl, entry, free⟩, plain⟩)
    · exact ⟨before, raw, [], rfl, entry, by simp⟩
    · refine ⟨earlier, other, later ++ [raw], by simp, entry, ?_⟩
      exact List.forall_mem_append.mpr ⟨free, List.forall_mem_singleton.mpr plain⟩

variable {p q : Progress} {before : List (List Char)} {raw : List Char} {l : Line}

/-- The section being read has entries exactly if the lines read can be continued. -/
def Follows (p : Progress) (before : List (List Char)) : Prop := p.entries ≠ [] ↔ Continuable before

theorem follows_start : Follows .start [] := iff_of_false (by simp [Progress.start]) not_continuable_nil

/-- Every line leaves the section with entries exactly if the lines up to it can be continued. -/
theorem Follows.add (follows : Follows p before) (form : l.Form raw) (added : p.add? l = some q) :
    Follows q (before ++ [raw]) := by
  have entry : IsEntry raw ↔ ∃ key value, l = .entry key value :=
    exists_congr fun key => exists_congr fun value =>
      ⟨fun other => form.unique other, fun same => same ▸ form⟩
  have header : IsHeader raw ↔ ∃ name, l = .header name :=
    exists_congr fun name => ⟨fun other => form.unique other, fun same => same ▸ form⟩
  rw [Follows, continuable_append_singleton, entry, header]
  cases l with
  | blank =>
    cases added
    simpa [Follows] using follows
  | comment =>
    cases added
    simpa [Follows] using follows
  | header name =>
    cases added
    simp
  | entry key value =>
    cases added
    simp
  | continuation more =>
    obtain ⟨last, found, rfl⟩ := Option.map_eq_some_iff.mp added
    have some : p.entries ≠ [] := by
      rintro none
      simp [none] at found
    simpa using follows.mp some

theorem Follows.runs (follows : Follows p before) {more : List (List Char)} (runs : Runs p more q) :
    Follows q (before ++ more) := by
  induction runs generalizing before with
  | done p => rwa [List.append_nil]
  | line form added _ ih =>
    rw [List.append_cons]
    exact ih (follows.add form added)

theorem add?_eq_none_iff : p.add? l = none ↔ (∃ more, l = .continuation more) ∧ p.entries = [] := by
  cases l <;> simp [Progress.add?]

/-- The reader stops at the lines that are at fault after those it has read. -/
theorem Follows.stuck_iff (follows : Follows p before) : Stuck p raw ↔ Faulty before raw := by
  have orphan : (∃ l : Line, l.Form raw ∧ p.add? l = none) ↔
      IsContinuation raw ∧ ¬Continuable before := by
    rw [← follows.not, not_not]
    constructor
    · rintro ⟨l, form, misplaced⟩
      obtain ⟨⟨more, rfl⟩, none⟩ := add?_eq_none_iff.mp misplaced
      exact ⟨⟨more, form⟩, none⟩
    · rintro ⟨⟨more, form⟩, none⟩
      exact ⟨_, form, add?_eq_none_iff.mpr ⟨⟨more, rfl⟩, none⟩⟩
  rw [Stuck, Faulty, orphan]

end Continuable

section Faults

theorem Runs.split {p q : Progress} {before after : List (List Char)}
    (runs : Runs p (before ++ after) q) : ∃ r, Runs p before r ∧ Runs r after q := by
  induction before generalizing p with
  | nil => exact ⟨p, .done p, runs⟩
  | cons raw before ih =>
    cases runs with
    | line form added runs =>
      obtain ⟨r, first, second⟩ := ih runs
      exact ⟨r, .line form added first, second⟩

/-- A run leaves no line at fault behind. -/
theorem Runs.faultless {q : Progress} {raws : List (List Char)} (runs : Runs .start raws q)
    (number : Nat) : ¬FaultAt raws number := by
  rintro ⟨before, raw, after, rfl, -, faulty⟩
  obtain ⟨p, first, rest⟩ := runs.split
  have stuck := (follows_start.runs first).stuck_iff.mpr faulty
  cases rest with
  | line form added _ =>
    rcases stuck with formless | ⟨other, form', misplaced⟩
    · exact formless _ form
    · rw [form'.unique form, added] at misplaced
      cases misplaced

theorem faultAt_append {raws more : List (List Char)} {number : Nat}
    (inside : number ≤ raws.length) (fault : FaultAt (raws ++ more) number) :
    FaultAt raws number := by
  obtain ⟨before, raw, after, cut, rfl, faulty⟩ := fault
  have whole : before ++ [raw] <+: raws ++ more := by
    rw [cut]
    exact ⟨after, by simp⟩
  obtain ⟨rest, rfl⟩ : before ++ [raw] <+: raws := by
    apply List.prefix_of_prefix_length_le whole (List.prefix_append raws more)
    simpa using inside
  exact ⟨before, raw, rest, by simp, rfl, faulty⟩

/-- A text cannot be read exactly if a line of it is at fault. The error names the first line at fault,
and every text with the same lines up to that one has the same error. -/
theorem ofText_faults (text : String) :
    ((∃ e, ofText text = .error e) ↔ ∃ number, FaultAt (Text.lines text.toList) number) ∧
      ∀ e, ofText text = .error e →
        IsLeast {number | FaultAt (Text.lines text.toList) number} e.number ∧
          (∃ reason, e.message = "line " ++ toString e.number ++ ": " ++ reason) ∧
          ∀ other : String,
            (Text.lines other.toList).take e.number = (Text.lines text.toList).take e.number →
            ofText other = .error e := by
  have outcome : ofText text = readLines .start 1 (Text.lines text.toList) := rfl
  generalize Text.lines text.toList = raws at outcome
  rcases runs_or_stuck .start raws with ⟨q, runs⟩ | ⟨before, raw, after, q, rfl, runs, stuck⟩
  · rw [outcome, readLines_end runs]
    refine ⟨iff_of_false (by simp) ?_, by simp⟩
    rintro ⟨number, fault⟩
    exact runs.faultless number fault
  · obtain ⟨e, first, failed⟩ := readLines_of_stuck stuck (1 + before.length)
    have place : e.number = before.length + 1 := by omega
    have fault : FaultAt (before ++ raw :: after) e.number :=
      ⟨before, raw, after, rfl, place, (follows_start.runs runs).stuck_iff.mp stuck⟩
    rw [outcome, readLines_of_runs runs, failed]
    refine ⟨iff_of_true ⟨e, rfl⟩ ⟨e.number, fault⟩, ?_⟩
    intro _ same
    cases same
    refine ⟨⟨fault, ?_⟩, e.message_number, ?_⟩
    · intro number earlier
      by_contra less
      exact runs.faultless number (faultAt_append (by omega) earlier)
    · intro other same
      have start : before ++ [raw] <+: Text.lines other.toList := by
        rw [place, List.append_cons, List.take_left' (by simp)] at same
        exact same ▸ List.take_prefix _ _
      obtain ⟨rest, cut⟩ := start
      rw [ofText, ← cut, List.append_assoc, readLines_of_runs runs]
      exact failed rest

/-- A header ends the entry before it, so that nothing is continued on the fourth line. -/
theorem ofText_faults_orphan :
    ofText "[a]\nx = 1\n[b]\n  y\nz" = .error (.orphan 4) ∧
      IsLeast {number | FaultAt (Text.lines "[a]\nx = 1\n[b]\n  y\nz".toList) number} 4 ∧
      ofText "[a]\r\nx = 1\n[b]\n  y" = .error (.orphan 4) := by
  have read : ofText "[a]\nx = 1\n[b]\n  y\nz" = .error (.orphan 4) := by decide +kernel
  obtain ⟨first, -, others⟩ := (ofText_faults "[a]\nx = 1\n[b]\n  y\nz").2 _ read
  exact ⟨read, first, others _ (by decide +kernel)⟩

end Faults
end HazardJob.Document
