import HazardJob.Proofs.Files.Directory
import HazardJob.Proofs.Files.Parent

/-! Creating a directory twice. What was created is not created again, and what could not be created
fails again; either way the second attempt leaves nothing new. -/
namespace HazardJob

namespace FileTree

section Following

variable {t : FileTree}

theorem directory_of_follow {spot next : Location} {part : List Char}
    (led : t.follow spot part = .ok next) : t.node? spot = some .directory :=
  (follow_ok_iff.mp led).1

/-- Where a path goes on there is a directory. -/
theorem directory_of_followAll {spot last : Location} {before after : List (List Char)}
    (more : after ≠ []) (led : (before ++ after).foldlM t.follow spot = .ok last) :
    ∃ between, before.foldlM t.follow spot = .ok between ∧ t.node? between = some .directory := by
  rw [List.foldlM_append] at led
  obtain ⟨between, first, rest⟩ := bind_eq_ok.mp led
  obtain ⟨part, others, rfl⟩ := List.exists_cons_of_ne_nil more
  rw [List.foldlM_cons] at rest
  obtain ⟨next, step, -⟩ := bind_eq_ok.mp rest
  exact ⟨between, first, directory_of_follow step⟩

theorem followAll_error {spot : Location} {before after : List (List Char)} {e : FileError}
    (failed : before.foldlM t.follow spot = .error e) :
    (before ++ after).foldlM t.follow spot = .error e := by
  rw [List.foldlM_append, failed]
  rfl

theorem isDirectory_iff {p : Path} : t.isDirectory p = true ↔ textFault? p = none ∧
    ∃ spot, (hops p).foldlM t.follow (t.start p) = .ok spot ∧ t.node? spot = some .directory := by
  constructor
  · intro there
    unfold isDirectory at there
    split at there
    · rename_i found
      unfold resolve at found
      cases text : textFault? p with
      | some fault => rw [text] at found; cases found
      | none =>
        rw [text] at found
        obtain ⟨spot, led, found⟩ := bind_eq_ok.mp found
        refine ⟨rfl, spot, led, ?_⟩
        split at found
        · split at found
          · cases found
          · cases found
        · assumption
        · cases found
    · cases there
  · rintro ⟨text, spot, led, there⟩
    exact isDirectory_of_reached text led there

/-- Why a directory is not created: its path leads nowhere, or somewhere already. -/
theorem createDirectory_error {p : Path} {e : FileError} (failed : t.createDirectory p = .error e) :
    textFault? p = some e ∨ textFault? p = none ∧
      ((hops p).foldlM t.follow (t.start p) = .error e ∨
        e = .alreadyExists ∧ ∃ spot, (hops p).foldlM t.follow (t.start p) = .ok spot) := by
  rcases createDirectory_cases t p with
    ⟨fault, text, same⟩ | ⟨text, ⟨nothing, same⟩ | ⟨before, last, way, same⟩⟩
  · rw [same] at failed
    cases failed
    exact .inl text
  · rw [same] at failed
    cases failed
    exact .inr ⟨text, .inr ⟨rfl, t.start p, by rw [nothing]; rfl⟩⟩
  · refine .inr ⟨text, ?_⟩
    rw [same] at failed
    rw [way]
    cases led : before.foldlM t.follow (t.start p) with
    | error fault =>
      rw [led] at failed
      cases failed
      exact .inl (followAll_error led)
    | ok parent =>
      have step : (before ++ [last]).foldlM t.follow (t.start p) = t.follow parent last := by
        rw [List.foldlM_append, led]
        show [last].foldlM t.follow parent = _
        simp
      rw [led] at failed
      change t.createAt last parent = .error e at failed
      rw [step]
      unfold createAt at failed
      split at failed
      · rename_i spot found
        cases failed
        exact .inr ⟨rfl, spot, found⟩
      · rename_i fault lost
        split at failed
        · cases failed
        · cases failed
          exact .inl lost

theorem isDirectory_error {p : Path} (there : t.isDirectory p = true) {e : FileError}
    (failed : t.createDirectory p = .error e) : e = .alreadyExists := by
  obtain ⟨text, spot, led, -⟩ := isDirectory_iff.mp there
  rcases (createDirectory_error failed).resolve_left (by simp [text]) with ⟨-, nowhere | ⟨same, -⟩⟩
  · rw [led] at nowhere
    cases nowhere
  · exact same

/-- What is there is not created. -/
theorem not_created {p : Path} (there : t.isDirectory p = true) {u : FileTree} :
    t.createDirectory p ≠ .ok u := by
  intro created
  obtain ⟨-, spot, led, -⟩ := isDirectory_iff.mp there
  obtain ⟨before, last, parent, way, -, reached, inside, name, free, -⟩ := createDirectory_ok created
  have lost := (follow_missing_iff inside).mpr ⟨name, free⟩
  rw [way, List.foldlM_append, reached] at led
  change [last].foldlM t.follow parent = .ok spot at led
  simp [lost] at led

end Following

section Parents

variable {t : FileTree} {p q : Path} (starts : q.Starts p) (full : q.text ≠ "")

include starts

theorem start_starts (t : FileTree) : t.start q = t.start p := by
  unfold start
  rw [starts.isAbsolute]

include full

theorem textFault?_starts (text : textFault? p = none) : textFault? q = none := by
  obtain ⟨rest, chars⟩ := starts.text
  have longer : p.text = q.text ++ String.ofList rest := by
    rw [← String.toList_inj, String.toList_append, String.toList_ofList, chars]
  have size : p.text.utf8ByteSize = q.text.utf8ByteSize + (String.ofList rest).utf8ByteSize := by
    rw [longer, String.utf8ByteSize_append]
  unfold textFault? at text ⊢
  split at text
  · cases text
  · rename_i noNul
    split at text
    · cases text
    · split at text
      · cases text
      · rename_i short
        rw [if_neg, if_neg, if_neg]
        · omega
        · simpa using full
        · rw [← chars] at noNul
          simp only [List.contains_eq_mem, List.mem_append, decide_eq_true_eq, not_or] at noNul ⊢
          exact noNul.1

/-- What leads to a directory is one. -/
theorem isDirectory_starts (there : t.isDirectory p = true) : t.isDirectory q = true := by
  obtain ⟨text, spot, led, -⟩ := isDirectory_iff.mp there
  obtain ⟨more, some, hops⟩ := starts.hops
  rw [hops, ← start_starts starts t] at led
  exact isDirectory_iff.mpr ⟨textFault?_starts starts full text, directory_of_followAll some led⟩

/-- What leads to a directory that can be created is there. -/
theorem isDirectory_starts_of_created {u : FileTree} (created : t.createDirectory p = .ok u) :
    t.isDirectory q = true := by
  obtain ⟨before, last, parent, way, text, led, inside, -⟩ := createDirectory_ok created
  obtain ⟨more, some, hops⟩ := starts.hops
  refine isDirectory_iff.mpr ⟨textFault?_starts starts full text, ?_⟩
  rw [start_starts starts t]
  have split : before = FileTree.hops q ++ more.dropLast := by
    have whole := hops.symm.trans way
    rw [← List.dropLast_append_getLast some, ← List.append_assoc] at whole
    exact ((List.append_inj' whole rfl).1).symm
  rw [split] at led
  cases rest : more.dropLast with
  | nil =>
    rw [rest, List.append_nil] at led
    exact ⟨parent, led, inside⟩
  | cons part others => exact directory_of_followAll (by simp [rest]) led

end Parents

section Again

variable {t u : FileTree}

theorem go_of_isDirectory {p : Path} (there : t.isDirectory p = true) (bound : Nat) :
    createWithParents.go bound t p = (.ok (), t) := by
  cases bound with
  | zero => rfl
  | succ bound =>
    rw [createWithParents.go]
    split
    · rfl
    · cases made : t.createDirectory p with
      | ok v => exact absurd made (not_created there)
      | error e =>
        cases isDirectory_error there made
        rfl

/-- What was created is not created again. -/
theorem go_ok_again {p : Path} {bound : Nat}
    (created : createWithParents.go bound t p = (.ok (), u)) :
    createWithParents.go bound u p = (.ok (), u) := by
  rcases isDirectory_of_go created with there | same
  · exact go_of_isDirectory there bound
  · rw [same] at created ⊢
    exact created

/-- An attempt leaves nothing new, or its path has a parent that it has come to: either that fails, or
it is there and the directory itself is not created in it. -/
theorem go_error_cases {p : Path} {bound : Nat} {e : FileError}
    (failed : createWithParents.go (bound + 1) t p = (.error e, u)) :
    p.steps.isEmpty = false ∧ (u = t ∨ t.createDirectory p = .error .notFound ∧
      ∃ q, p.parent? = some q ∧ (createWithParents.go bound t q = (.error e, u) ∨
        createWithParents.go bound t q = (.ok (), u) ∧ u.createDirectory p = .error e ∧
          u.isDirectory p = false)) := by
  rw [createWithParents.go] at failed
  split at failed
  · cases failed
  rename_i steps
  refine ⟨by simpa using steps, ?_⟩
  split at failed
  · cases failed
  · rename_i missing
    split at failed
    · cases failed
      exact .inl rfl
    · rename_i q parent
      refine .inr ⟨missing, q, parent, ?_⟩
      split at failed
      · rename_i v made
        unfold ensureDirectory at failed
        split at failed
        · cases failed
        · rename_i fault here
          split at failed
          · cases failed
          · rename_i absent
            cases failed
            exact .inr ⟨made, here, by simpa using absent⟩
      · exact .inl failed
  · split at failed
    · cases failed
    · cases failed
      exact .inl rfl

variable {p q : Path} {bound : Nat} {e : FileError}

/-- A path that goes on has a way to go. -/
theorem text_of_go_error (failed : createWithParents.go bound t q = (.error e, u)) : q.text ≠ "" := by
  intro nothing
  have steps := Path.steps_of_empty nothing
  cases bound with
  | zero => cases failed
  | succ bound => simp [createWithParents.go, steps] at failed

/-- If the parent fails in what is left, so does the directory: for its own cause, or for that of the
parent if it is only missing. -/
theorem go_error_of_parent (steps : p.steps.isEmpty = false) (parent : p.parent? = some q)
    (failed : createWithParents.go bound u q = (.error e, u)) :
    ∃ fault, u.createDirectory p = .error fault ∧ u.isDirectory p = false ∧
      createWithParents.go (bound + 1) u p = (.error (if fault = .notFound then e else fault), u) := by
  have starts := Path.parent?_starts parent
  have full := text_of_go_error failed
  have absent : ¬ u.isDirectory q = true := fun there => by
    rw [go_of_isDirectory there] at failed
    cases failed
  cases made : u.createDirectory p with
  | ok v => exact absurd (isDirectory_starts_of_created starts full made) absent
  | error fault =>
    have here : u.isDirectory p = false :=
      Bool.eq_false_iff.mpr fun there => absent (isDirectory_starts starts full there)
    refine ⟨fault, rfl, here, ?_⟩
    by_cases missing : fault = .notFound
    · subst missing
      simp [createWithParents.go, steps, made, parent, failed]
    · simp only [createWithParents.go, steps, made, here, missing, Bool.false_eq_true, if_false]

/-- If the parent is there, the directory fails as it did. -/
theorem go_error_of_ready (steps : p.steps.isEmpty = false) (parent : p.parent? = some q)
    (ready : createWithParents.go bound u q = (.ok (), u)) (failed : u.createDirectory p = .error e)
    (absent : u.isDirectory p = false) :
    createWithParents.go (bound + 1) u p = (.error e, u) := by
  by_cases missing : e = .notFound
  · subst missing
    simp [createWithParents.go, steps, failed, parent, ready, ensureDirectory, absent]
  · simp only [createWithParents.go, steps, failed, absent, Bool.false_eq_true, if_false]

/-- An attempt to create a directory fails again, and leaves nothing new. -/
theorem go_error_again (failed : createWithParents.go bound t p = (.error e, u)) :
    ∃ again, createWithParents.go bound u p = (.error again, u) := by
  induction bound generalizing p e with
  | zero => cases failed
  | succ bound ih =>
    obtain ⟨steps, same | ⟨-, q, parent, before | ⟨made, here, absent⟩⟩⟩ := go_error_cases failed
    · exact ⟨e, same ▸ failed⟩
    · obtain ⟨again, still⟩ := ih before
      obtain ⟨fault, -, -, result⟩ := go_error_of_parent steps parent still
      exact ⟨_, result⟩
    · exact ⟨e, go_error_of_ready steps parent (go_ok_again made) here absent⟩

end Again

end FileTree
end HazardJob
