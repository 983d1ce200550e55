import HazardJob.Proofs.Files.Parent

/-! The absolute form of a path. It starts at the root; of an absolute path it keeps every step, what
stands for none is left out, and nothing is left out of it again. -/
namespace HazardJob
namespace Path

section Anchored

theorem text_of_isAbsolute {p : Path} (absolute : p.isAbsolute = true) :
    ∃ rest, p.text.toList = '/' :: rest := by
  have head : p.text.toList.head? = some '/' := by simpa [isAbsolute] using absolute
  obtain ⟨rest, text⟩ := List.head?_eq_some_iff.mp head
  exact ⟨rest, text⟩

theorem isAbsolute_join {p : Path} (absolute : p.isAbsolute = true) (q : Path) :
    (p.join q).isAbsolute = true := by
  have head : p.text.toList.head? = some '/' := by simpa [isAbsolute] using absolute
  unfold join
  split
  · assumption
  split <;> simp [isAbsolute, head]

theorem isAbsolute_extend {p : Path} (absolute : p.isAbsolute = true) (steps : List PathStep) :
    (p.extend steps).isAbsolute = true := by
  induction steps generalizing p with
  | nil => exact absolute
  | cons step more ih => exact ih (isAbsolute_join absolute _)

/-- The steps of an absolute path start at the root. -/
theorem steps_of_absolute {p : Path} (absolute : p.isAbsolute = true) :
    p.steps = .root :: (parts p.body).filterMap stepOf? := by
  have text := toList_text p
  rw [absolute] at text
  simp [steps, text]

theorem isAbsolute_absolute {cwd p : Path}
    (anchored : p.isAbsolute = true ∨ cwd.isAbsolute = true) :
    (absolute cwd p).isAbsolute = true := by
  have started (start : Path) (atRoot : start.isAbsolute = true) :
      (if p.endsInSlash then start.join ⟨""⟩ else start).isAbsolute = true := by
    split
    · exact isAbsolute_join atRoot _
    · exact atRoot
  refine started _ ?_
  by_cases own : p.isAbsolute = true
  · rw [own, steps_of_absolute own]
    simp only [Bool.not_true, Bool.false_eq_true, if_false]
    split
    · exact isAbsolute_extend rfl _
    · exact isAbsolute_extend (p := ⟨"/"⟩) rfl _
  · simp only [own, Bool.not_false, if_true]
    exact isAbsolute_extend (anchored.resolve_left own) _

end Anchored

section Steps

theorem toList_stepText {part : List Char} {step : PathStep} (stands : stepOf? part = some step) :
    (stepText step).toList = part := by
  unfold stepOf? at stands
  split at stands
  · cases stands
  · cases stands
  · cases stands
    rfl
  · cases stands
    exact String.toList_ofList

theorem stepOf?_eq_none {part : List Char} : stepOf? part = none ↔ part = [] ∨ part = ['.'] := by
  unfold stepOf?
  split <;> simp_all

/-- A part between slashes that stands for a step. -/
def isStep (part : List Char) : Bool := (stepOf? part).isSome

/-- The parts of a path that stand for the steps below its root. -/
def stepParts (p : Path) : List (List Char) := (parts p.body).filter isStep

/-- Parts that stand for steps. -/
def StepParts (ps : List (List Char)) : Prop :=
  ∀ part ∈ ps, isStep part = true ∧ ∀ c ∈ part, (c == '/') = false

theorem stepParts_proper (p : Path) : StepParts p.stepParts := by
  intro part member
  obtain ⟨inside, step⟩ := List.mem_filter.mp member
  exact ⟨step, Text.pieces_free inside⟩

theorem isStep_ne_nil {part : List Char} (step : isStep part = true) : part ≠ [] := by
  rintro rfl
  cases step

theorem StepParts.full {ps : List (List Char)} (proper : StepParts ps) :
    ∀ part ∈ ps, part ≠ [] ∧ Text.Bare (· == '/') part :=
  fun part member => ⟨isStep_ne_nil (proper part member).1, .of_forall (proper part member).2⟩

theorem filterMap_stepOf? (ps : List (List Char)) :
    (ps.filter isStep).filterMap stepOf? = ps.filterMap stepOf? := by
  induction ps with
  | nil => rfl
  | cons part more ih =>
    cases stands : stepOf? part with
    | none => simp [isStep, stands, ih]
    | some step => simp [isStep, stands, ih]

/-- Characters of a path other than those of slashes and of parts that stand for no step are
characters of its steps. -/
theorem mem_text_iff {p : Path} (absolute : p.isAbsolute = true) {c : Char} (slash : c ≠ '/')
    (point : c ≠ '.') :
    c ∈ p.text.toList ↔ ∃ step ∈ p.steps, c ∈ (stepText step).toList := by
  have whole : p.text.toList = '/' :: ['/'].intercalate (parts p.body) := by
    have text := toList_text p
    rw [absolute] at text
    rw [text, parts, Text.intercalate_pieces]
    rfl
  rw [steps_of_absolute absolute, whole]
  constructor
  · intro member
    rcases Text.mem_intercalate ((List.mem_cons.mp member).resolve_left slash) with
      here | ⟨part, inside, here⟩
    · exact absurd (List.mem_singleton.mp here) slash
    · cases stands : stepOf? part with
      | none =>
        rcases stepOf?_eq_none.mp stands with rfl | rfl
        · cases here
        · exact absurd (List.mem_singleton.mp here) point
      | some step =>
        refine ⟨step, List.mem_cons_of_mem _ (List.mem_filterMap.mpr ⟨part, inside, stands⟩), ?_⟩
        rwa [toList_stepText stands]
  · rintro ⟨step, member, here⟩
    rcases List.mem_cons.mp member with rfl | member
    · exact absurd (by simpa [stepText] using here) slash
    · obtain ⟨part, inside, stands⟩ := List.mem_filterMap.mp member
      rw [toList_stepText stands] at here
      exact List.mem_cons_of_mem _ (Text.mem_intercalate_of_mem inside here)

theorem steps_of_stepParts {p : Path} (absolute : p.isAbsolute = true) :
    p.steps = .root :: p.stepParts.filterMap stepOf? := by
  rw [steps_of_absolute absolute, stepParts, filterMap_stepOf?]

end Steps

section Laid

/-- Steps below a root whose slash may be doubled, with or without a slash at the end. -/
def laid (doubled : Bool) (ps : List (List Char)) (closed : Bool) : List Char :=
  (if doubled then ['/', '/'] else ['/']) ++ ['/'].intercalate ps ++ (if closed then ['/'] else [])

theorem endsInSlash_eq (p : Path) :
    p.endsInSlash = true ↔ p.text.toList.getLast? = some '/' := by
  simp [endsInSlash]

/-- A path that does not end in a slash is continued after one. -/
theorem toList_join {p : Path} {s : String} (full : p.text ≠ "")
    (relative : s.toList.head? ≠ some '/') :
    (p.join ⟨s⟩).text.toList =
      p.text.toList ++ (if p.endsInSlash then [] else ['/']) ++ s.toList := by
  have own : (Path.mk s).isAbsolute = false := by simpa [isAbsolute] using relative
  have other : p.text.isEmpty = false := by simpa [String.isEmpty_iff] using full
  unfold join
  rw [own, other, Bool.false_or, if_neg Bool.false_ne_true]
  split
  · simp
  · simp

theorem toList_extend {steps : List PathStep} {ps : List (List Char)} (proper : StepParts ps)
    (stand : ps.filterMap stepOf? = steps) (some : ps ≠ []) {p : Path} (full : p.text ≠ "") :
    (p.extend steps).text.toList =
      p.text.toList ++ (if p.endsInSlash then [] else ['/']) ++ ['/'].intercalate ps := by
  induction ps generalizing p steps with
  | nil => exact absurd rfl some
  | cons part more ih =>
    obtain ⟨step, stands⟩ := Option.isSome_iff_exists.mp (proper part List.mem_cons_self).1
    obtain ⟨inside, bare⟩ := proper.full part List.mem_cons_self
    have text := toList_stepText stands
    rw [List.filterMap_cons_some stands] at stand
    subst stand
    have joined : (p.join ⟨stepText step⟩).text.toList =
        p.text.toList ++ (if p.endsInSlash then [] else ['/']) ++ part := by
      rw [toList_join full, text]
      rw [text]
      intro slash
      cases bare.head _ slash
    cases more with
    | nil => simpa [extend] using joined
    | cons next more =>
      have full' : (p.join ⟨stepText step⟩).text ≠ "" := by
        rw [← String.toList_inj.ne, joined]
        simp [inside]
      have stops : (p.join ⟨stepText step⟩).endsInSlash = false := by
        refine Bool.eq_false_iff.mpr fun closed => ?_
        rw [endsInSlash_eq, joined, List.getLast?_append_of_ne_nil _ inside] at closed
        cases bare.last _ closed
      have later := ih (fun other member => proper other (List.mem_cons_of_mem _ member)) rfl
        (by simp) full'
      rw [stops, joined] at later
      rw [List.intercalate_cons_cons]
      simpa [extend] using later

/-- A path whose steps are laid out ends in a slash if it is closed by one or is the root. -/
theorem endsInSlash_laid {p : Path} {doubled closed : Bool} {ps : List (List Char)}
    (proper : StepParts ps) (text : p.text.toList = laid doubled ps closed) :
    p.endsInSlash = (closed || ps.isEmpty) := by
  rw [endsInSlash, text, laid]
  cases closed with
  | true => simp
  | false =>
    cases ps with
    | nil => cases doubled <;> rfl
    | cons part more =>
      obtain ⟨tail, starts⟩ := Text.intercalate_cons ['/'] part more
      have inside : ['/'].intercalate (part :: more) ≠ [] := by
        rw [starts]
        simp [(proper.full part List.mem_cons_self).1]
      have bare := Text.bare_intercalate ['/'] proper.full
      rw [if_neg Bool.false_ne_true, List.append_nil, List.getLast?_append_of_ne_nil _ inside]
      refine beq_false_of_ne fun slash => ?_
      cases bare.last _ slash

/-- The absolute form of an absolute path lays out its steps. -/
theorem toList_absolute {p : Path} (anchored : p.isAbsolute = true) (cwd : Path) :
    (absolute cwd p).text.toList =
      laid p.startsInTwoSlashes p.stepParts (p.endsInSlash && !p.stepParts.isEmpty) := by
  have proper := stepParts_proper p
  -- the steps below the root, whichever way the root is written
  have extended (root : Path) (full : root.text ≠ "") (closed : root.endsInSlash = true) :
      (root.extend (p.stepParts.filterMap stepOf?)).text.toList =
        root.text.toList ++ ['/'].intercalate p.stepParts := by
    by_cases some : p.stepParts = []
    · rw [some]
      simp [extend, List.intercalate_nil]
    · rw [toList_extend proper rfl some full, closed]
      simp
  have started : ∃ start : Path, start.text.toList = laid p.startsInTwoSlashes p.stepParts false ∧
      absolute cwd p = if p.endsInSlash then start.join ⟨""⟩ else start := by
    refine ⟨_, ?_, rfl⟩
    rw [anchored, steps_of_stepParts anchored, laid]
    cases p.startsInTwoSlashes with
    | true => simpa using extended ⟨"//"⟩ (by decide) rfl
    | false => exact (extended ⟨"/"⟩ (by decide) rfl).trans (by simp)
  obtain ⟨start, text, whole⟩ := started
  have ends := endsInSlash_laid proper text
  rw [whole]
  cases p.endsInSlash with
  | false => simpa using text
  | true =>
    have full : start.text ≠ "" := by
      rw [← String.toList_inj.ne, text, laid]
      cases p.startsInTwoSlashes <;> simp
    rw [if_pos rfl, toList_join full (by simp), ends, text, Bool.true_and, laid, laid]
    cases p.stepParts.isEmpty <;> simp

theorem startsInTwoSlashes_laid {p : Path} {doubled closed : Bool} {ps : List (List Char)}
    (proper : StepParts ps) (closes : closed = true → ps ≠ [])
    (text : p.text.toList = laid doubled ps closed) : p.startsInTwoSlashes = doubled := by
  have below : ∀ c, (['/'].intercalate ps ++ if closed then ['/'] else []).head? = some c →
      c ≠ '/' := by
    intro c first
    cases ps with
    | nil =>
      cases closed with
      | true => exact absurd rfl (closes rfl)
      | false => cases first
    | cons part more =>
      obtain ⟨tail, starts⟩ := Text.intercalate_cons ['/'] part more
      obtain ⟨inside, bare⟩ := proper.full part List.mem_cons_self
      rw [starts, List.append_assoc, List.head?_append_of_ne_nil _ inside] at first
      exact beq_eq_false_iff_ne.mp (bare.head c first)
  unfold startsInTwoSlashes
  rw [text, laid, List.append_assoc]
  generalize (['/'].intercalate ps ++ if closed then ['/'] else []) = rest at below
  cases doubled <;> rcases rest with _ | ⟨c, rest⟩ <;> simp_all

/-- The steps of a path that are laid out are those it was laid out with. -/
theorem stepParts_laid {p : Path} {doubled closed : Bool} {ps : List (List Char)}
    (proper : StepParts ps) (closes : closed = true → ps ≠ [])
    (text : p.text.toList = laid doubled ps closed) : p.stepParts = ps := by
  have anchored : p.isAbsolute = true := by
    rw [isAbsolute, text, laid]
    cases doubled <;> rfl
  have body : p.body = (if doubled then ['/'] else []) ++ ['/'].intercalate ps ++
      (if closed then ['/'] else []) := by
    rw [Path.body, anchored, if_pos rfl, text, laid]
    cases doubled <;> rfl
  have own : ps.filter isStep = ps := List.filter_eq_self.mpr fun part member => (proper part member).1
  have inner : (parts (['/'].intercalate ps)).filter isStep = ps := by
    cases ps with
    | nil => rfl
    | cons part more =>
      rw [parts, Text.pieces_intercalate_free rfl (by simp) fun part member => (proper part member).2,
        own]
  have ended : (parts (['/'].intercalate ps ++ if closed then ['/'] else [])).filter isStep = ps := by
    cases closed with
    | true =>
      rw [if_pos rfl, parts, Text.pieces_append_separator rfl, List.filter_append, ← parts, inner]
      simp [Text.pieces, isStep, stepOf?]
    | false => rw [if_neg Bool.false_ne_true, List.append_nil, inner]
  rw [stepParts, body]
  cases doubled with
  | true => simpa [parts, Text.pieces, isStep, stepOf?] using ended
  | false => simpa using ended

end Laid

/-- The steps of an absolute path are those of its absolute form. -/
theorem steps_absolute {p : Path} (anchored : p.isAbsolute = true) (cwd : Path) :
    (absolute cwd p).steps = p.steps := by
  have proper := stepParts_proper p
  have closes : (p.endsInSlash && !p.stepParts.isEmpty) = true → p.stepParts ≠ [] := by simp
  rw [steps_of_stepParts (isAbsolute_absolute (.inl anchored)), steps_of_stepParts anchored,
    stepParts_laid proper closes (toList_absolute anchored cwd)]

/-- Characters other than slashes and points stay in the absolute form of an absolute path. -/
theorem mem_absolute_iff {p : Path} (anchored : p.isAbsolute = true) (cwd : Path) {c : Char}
    (slash : c ≠ '/') (point : c ≠ '.') :
    c ∈ (absolute cwd p).text.toList ↔ c ∈ p.text.toList := by
  rw [mem_text_iff (isAbsolute_absolute (.inl anchored)) slash point, mem_text_iff anchored slash point,
    steps_absolute anchored]

/-- The directory that relative paths start at does not count for an absolute path. -/
theorem absolute_anywhere {p : Path} (anchored : p.isAbsolute = true) (cwd cwd' : Path) :
    absolute cwd p = absolute cwd' p := by
  simp only [absolute, anchored, Bool.not_true, Bool.false_eq_true, if_false]

/-- Nothing is left out of an absolute form. -/
theorem absolute_absolute {p : Path} (anchored : p.isAbsolute = true) (cwd cwd' : Path) :
    absolute cwd' (absolute cwd p) = absolute cwd p := by
  have proper := stepParts_proper p
  have closes : (p.endsInSlash && !p.stepParts.isEmpty) = true → p.stepParts ≠ [] := by simp
  have text := toList_absolute anchored cwd
  have settled : (absolute cwd p).isAbsolute = true := isAbsolute_absolute (.inl anchored)
  have again := toList_absolute settled cwd'
  rw [stepParts_laid proper closes text, startsInTwoSlashes_laid proper closes text,
    endsInSlash_laid proper text] at again
  have same : (absolute cwd' (absolute cwd p)).text = (absolute cwd p).text := by
    rw [← String.toList_inj, again, text]
    cases p.endsInSlash <;> simp
  exact congrArg Path.mk same

end Path
end HazardJob
