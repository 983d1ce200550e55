import HazardJob.Proofs.Document.Line

/-! The forms of the lines of a job file, independent of the reader. The forms exclude each other, so a
line has one reading at most, whatever its neighbours are; the reader finds it for every line that has a
form, and refuses every other line. -/
namespace HazardJob.Document

open Reading

/-- Spaces and tabs. -/
def Indentation (w : List Char) : Prop := ∀ c ∈ w, Text.isIndent c = true

instance (w : List Char) : Decidable (Indentation w) :=
  decidable_of_iff (w.all Text.isIndent = true) List.all_eq_true

/-- A sign that makes a comment of what follows it. -/
def MarksComment (c : Char) : Prop := c = '#' ∨ c = ';'

/-- The texts of a line. A continuation is what is indented and is neither blank nor a comment. -/
inductive Line.Form : Line → List Char → Prop
  | blank {w : List Char} : Indentation w → Form .blank w
  | comment {w rest : List Char} {c : Char} : Indentation w → MarksComment c →
      Form .comment (w ++ c :: rest)
  | continuation {w rest : List Char} {c : Char} : Indentation w → w ≠ [] →
      Text.isIndent c = false → ¬MarksComment c →
      Form (.continuation (String.ofList (Text.trim (c :: rest)))) (w ++ c :: rest)
  | header {name w : List Char} : name ≠ [] → ']' ∉ name → Indentation w →
      Form (.header (String.ofList (Text.trim name))) ('[' :: (name ++ ']' :: w))
  | entry {key v value : List Char} {sign : Char} : key ≠ [] →
      (∀ c ∈ key, isKeyChar c = true) → Indentation v → sign = '=' ∨ sign = ':' →
      Form (.entry (String.ofList (Text.lower key)) (String.ofList (Text.trim value)))
        (key ++ (v ++ sign :: value))

section Sound

theorem indentation_of_dropWhile {s : List Char} (gone : s.dropWhile Text.isIndent = []) :
    Indentation s := List.dropWhile_eq_nil_iff.mp gone

/-- Any indentation in front of the rest of a line makes one indentation with that of the rest. -/
theorem exists_indentation {w : List Char} (blank : Indentation w) (l : List Char) :
    ∃ v, w ++ l = v ++ l.dropWhile Text.isIndent ∧ Indentation v ∧ w <+: v := by
  refine ⟨w ++ l.takeWhile Text.isIndent, ?_, ?_, List.prefix_append _ _⟩
  · rw [List.append_assoc, List.takeWhile_append_dropWhile]
  · intro c member
    rcases List.mem_append.mp member with before | inside
    · exact blank c before
    · exact List.mem_takeWhile_imp inside

theorem form_indented {w : List Char} (blank : Indentation w) (full : w ≠ []) (l : List Char) :
    (indented l).Form (w ++ l) := by
  obtain ⟨v, cut, within, longer⟩ := exists_indentation blank l
  have started : v ≠ [] := by
    rintro rfl
    exact full (List.prefix_nil.mp longer)
  rw [cut, indented]
  cases left : l.dropWhile Text.isIndent with
  | nil =>
    rw [List.append_nil]
    exact .blank within
  | cons c rest =>
    dsimp only
    split
    · rename_i mark
      exact .comment within mark
    · rename_i plain
      exact .continuation within started (Text.eq_of_dropWhile left).2 plain

theorem form_of_blankLine {s : List Char} {l : Line} (read : blankLine s = .ok l []) : l.Form s := by
  obtain ⟨_, left, spaced, read⟩ := bind_ok.mp read
  obtain ⟨_, _, ended, finish⟩ := bind_ok.mp read
  cases finish
  cases left with
  | nil => exact .blank (indentation_of_dropWhile (indent_ok spaced).symm)
  | cons c rest => cases ended

theorem form_of_commentLine {s : List Char} {l : Line} (read : commentLine s = .ok l []) :
    l.Form s := by
  obtain ⟨_, left, spaced, read⟩ := bind_ok.mp read
  obtain ⟨c, rest, marked, read⟩ := bind_ok.mp read
  obtain ⟨_, _, _, finish⟩ := bind_ok.mp read
  cases finish
  obtain ⟨rfl, mark⟩ := oneOf_ok marked
  obtain ⟨v, cut, within, -⟩ := exists_indentation (w := []) (by simp [Indentation]) s
  rw [← indent_ok spaced, List.nil_append] at cut
  rw [cut]
  exact .comment within (by simpa [MarksComment] using mark)

/-- What is continued is indented, and then the order of the forms decides what it is. -/
theorem form_of_continuationLine {s : List Char} {l : Line}
    (found : continuationLine s = .ok l []) (read : readAll line s = .ok l) : l.Form s := by
  obtain ⟨w, left, spaced, -⟩ := bind_ok.mp found
  obtain ⟨rfl, full, blank⟩ := span1_ok spaced
  rw [line_indented full blank left] at read
  cases read
  exact form_indented blank full left

theorem form_of_headerLine {s : List Char} {l : Line} (read : headerLine s = .ok l []) :
    l.Form s := by
  obtain ⟨_, _, opened, read⟩ := bind_ok.mp read
  obtain ⟨name, _, named, read⟩ := bind_ok.mp read
  obtain ⟨_, w, closed, read⟩ := bind_ok.mp read
  obtain ⟨_, _, spaced, finish⟩ := bind_ok.mp read
  cases finish
  obtain rfl := char_ok.mp opened
  obtain ⟨rfl, full, free⟩ := span1_ok named
  obtain rfl := char_ok.mp (within_ok.mp closed)
  refine .header full ?_ (indentation_of_dropWhile (indent_ok spaced).symm)
  intro bracket
  simpa using free ']' bracket

theorem form_of_entryLine {s : List Char} {l : Line} (read : entryLine s = .ok l []) : l.Form s := by
  obtain ⟨key, afterKey, named, read⟩ := bind_ok.mp read
  obtain ⟨_, beforeSign, spaced, read⟩ := bind_ok.mp read
  obtain ⟨sign, afterSign, equals, read⟩ := bind_ok.mp read
  obtain ⟨_, value, spaced', finish⟩ := bind_ok.mp read
  obtain ⟨rfl, full, chars⟩ := span1_ok named
  obtain ⟨cut, mark⟩ := oneOf_ok (within_ok.mp equals)
  obtain ⟨v, whole, within, -⟩ := exists_indentation (w := []) (by simp [Indentation]) afterKey
  rw [← indent_ok spaced, cut, List.nil_append] at whole
  cases indent_ok spaced'
  cases finish
  rw [whole, Text.trim_dropWhile_isIndent, Text.trim, (Text.Bare.of_forall fun c member =>
    isBlank_of_isKeyChar (chars c member)).trimBy]
  exact .entry full chars within (by simpa using mark)

/-- A line is read as something of whose form it is. -/
theorem form_of_line {raw : List Char} {l : Line} (read : readAll line raw = .ok l) : l.Form raw := by
  obtain ⟨q, member, found⟩ := firstOf_ok (readAll_ok.mp read)
  simp only [List.mem_cons, List.not_mem_nil, or_false] at member
  rcases member with rfl | rfl | rfl | rfl | rfl
  · exact form_of_blankLine found
  · exact form_of_commentLine found
  · exact form_of_continuationLine found read
  · exact form_of_headerLine found
  · exact form_of_entryLine found

end Sound

section Complete

/-- An empty line and a mark at its start have no indentation that would make them indented lines. -/
theorem line_unindented {raw : List Char} {l : Line} (blank : raw = [] ∧ l = .blank ∨
    (∃ c rest, raw = c :: rest ∧ MarksComment c) ∧ l = .comment) : readAll line raw = .ok l := by
  rcases blank with ⟨rfl, rfl⟩ | ⟨⟨c, rest, rfl, mark⟩, rfl⟩
  · rfl
  · rcases mark with rfl | rfl <;> rfl

theorem line_header {name w : List Char} (full : name ≠ []) (free : ']' ∉ name)
    (blank : Indentation w) : readAll line ('[' :: (name ++ ']' :: w)) =
      .ok (.header (String.ofList (Text.trim name))) := by
  have inner : Text.isIndent '[' = false := by decide
  have missed : ∀ q ∈ [blankLine, commentLine, continuationLine],
      Misses q ('[' :: (name ++ ']' :: w)) := by
    have layout : ∀ q ∈ [blankLine, commentLine], Misses q ('[' :: (name ++ ']' :: w)) :=
      not_layout (List.forall_mem_nil _) rfl inner (by decide)
    intro q member
    simp only [List.mem_cons, List.not_mem_nil, or_false] at member
    rcases member with rfl | rfl | rfl
    · exact layout _ List.mem_cons_self
    · exact layout _ (List.mem_cons_of_mem _ List.mem_cons_self)
    · refine bind_misses _ ⟨_, span1_missed .indent fun d first => ?_⟩
      cases first
      exact inner
  have named : span1 (· != ']') .runUntil (name ++ ']' :: w) = .ok name (']' :: w) := by
    refine span1_append .runUntil full (fun c member => ?_) fun c first => ?_
    · rw [bne_iff_ne]
      rintro rfl
      exact free member
    · cases first
      rfl
  have spaced : indent w = .ok () [] := by
    have read : indent (w ++ []) = .ok () [] := indent_append blank (by simp)
    rwa [List.append_nil] at read
  refine readAll_firstOf [blankLine, commentLine, continuationLine] missed ?_
  rw [headerLine, bind_of_ok (char_ok.mpr rfl), bind_of_ok named,
    bind_of_ok (within_ok.mpr (char_ok.mpr rfl)), bind_of_ok spaced]
  rfl

/-- A line is read as that of whose form it is. -/
theorem line_of_form {raw : List Char} {l : Line} (form : l.Form raw) : readAll line raw = .ok l := by
  cases form with
  | blank blank =>
    by_cases full : raw = []
    · exact line_unindented (.inl ⟨full, rfl⟩)
    · have read := line_indented full blank []
      rwa [List.append_nil] at read
  | @comment w rest c blank mark =>
    by_cases full : w = []
    · subst full
      exact line_unindented (.inr ⟨⟨c, rest, rfl, mark⟩, rfl⟩)
    · have inner : Text.isIndent c = false := by rcases mark with rfl | rfl <;> rfl
      have comment : indented (c :: rest) = .comment := by
        rw [indented, List.dropWhile_cons_of_neg (by simp [inner])]
        exact if_pos mark
      rw [line_indented full blank, comment]
  | @continuation w rest c blank full inner plain =>
    have continuation : indented (c :: rest) =
        .continuation (String.ofList (Text.trim (c :: rest))) := by
      rw [indented, List.dropWhile_cons_of_neg (by simp [inner])]
      exact if_neg plain
    rw [line_indented full blank, continuation]
  | header full free blank => exact line_header full free blank
  | entry full chars blank mark => exact line_keyed full chars blank mark _

end Complete

/-- Lines are read by their form, each by itself. -/
theorem line_iff {raw : List Char} {l : Line} : readAll line raw = .ok l ↔ l.Form raw :=
  ⟨form_of_line, line_of_form⟩

/-- A line has one reading at most. -/
theorem Line.Form.unique {raw : List Char} {l m : Line} (form : l.Form raw) (other : m.Form raw) :
    l = m := Except.ok.inj ((line_iff.mpr form).symm.trans (line_iff.mpr other))

/-- A line of no form is refused. -/
theorem line_refused {raw : List Char} (formless : ∀ l : Line, ¬l.Form raw) :
    ∃ trace, readAll line raw = .error trace := by
  cases read : readAll line raw with
  | error trace => exact ⟨trace, rfl⟩
  | ok l => exact absurd (line_iff.mp read) (formless l)

end HazardJob.Document
