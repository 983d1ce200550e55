import HazardJob.Proofs.Files.Creation

/-! Paths that do not go up. Directories that are created on the way of such a path make no other file
or directory appear on it, so that an export directory which is refused is refused again for the same
reason. -/
namespace HazardJob
namespace FileTree

/-- Everything in a tree stands in directories. -/
def Rooted (t : FileTree) : Prop :=
  ∀ spot node, t.node? spot = some node → ∀ way, way <+: spot → way ≠ spot →
    t.node? way = some .directory

/-- The path goes up somewhere. -/
def GoesUp (p : Path) : Prop := ['.', '.'] ∈ hops p

instance (p : Path) : Decidable (GoesUp p) := inferInstanceAs (Decidable (_ ∈ _))

/-- What is new in a tree are directories. -/
structure AddsDirectories (t u : FileTree) : Prop where
  workingDirectory : u.workingDirectory = t.workingDirectory
  file : ∀ spot content, u.node? spot = some (.file content) → t.node? spot = some (.file content)

theorem AddsDirectories.refl (t : FileTree) : t.AddsDirectories t := ⟨rfl, fun _ _ => id⟩

theorem AddsDirectories.trans {t u v : FileTree} (first : t.AddsDirectories u)
    (second : u.AddsDirectories v) : t.AddsDirectories v :=
  ⟨second.workingDirectory.trans first.workingDirectory,
    fun spot content there => first.file spot content (second.file spot content there)⟩

variable {t u : FileTree}

theorem mem_of_lookup {nodes : List (Location × FileNode)} {spot : Location} {node : FileNode}
    (found : nodes.lookup spot = some node) : (spot, node) ∈ nodes := by
  obtain ⟨before, after, rfl, -⟩ := List.lookup_eq_some_iff.mp found
  simp

theorem put_addsDirectories (t : FileTree) (spot : Location) :
    t.AddsDirectories (t.put spot .directory) := by
  refine ⟨rfl, fun other content there => ?_⟩
  unfold node? at there ⊢
  split at there
  · cases there
  · rename_i inner
    rw [if_neg inner]
    rw [put, List.append_assoc, List.lookup_append, Option.or_eq_some_iff] at there
    rcases there with kept | ⟨-, new⟩
    · have apart : other ≠ spot := by
        rintro rfl
        simpa using (List.mem_filter.mp (mem_of_lookup kept)).2
      rwa [lookup_others apart] at kept
    · exfalso
      rcases List.mem_append.mp (mem_of_lookup new) with way | own
      · simp at way
      · split at own <;> simp at own

theorem createDirectory_adds {p : Path} (created : t.createDirectory p = .ok u) :
    t.AddsDirectories u := by
  obtain ⟨-, last, parent, -, -, -, -, -, -, rfl⟩ := createDirectory_ok created
  exact put_addsDirectories t _

theorem ensureDirectory_adds (t : FileTree) (p : Path) :
    t.AddsDirectories (t.ensureDirectory p).2 := by
  unfold ensureDirectory
  split
  · rename_i created
    exact createDirectory_adds created
  · split <;> exact .refl t

theorem go_adds (bound : Nat) (t : FileTree) (p : Path) :
    t.AddsDirectories (createWithParents.go bound t p).2 := by
  induction bound generalizing p with
  | zero => exact .refl t
  | succ bound ih =>
    rw [createWithParents.go]
    split
    · exact .refl t
    split
    · rename_i created
      exact createDirectory_adds created
    · split
      · exact .refl t
      · rename_i q parent
        have before := ih q
        split
        · rename_i v made
          rw [made] at before
          exact before.trans (ensureDirectory_adds v p)
        · exact before
    · split <;> exact .refl t

/-- A step that does not go up stays, or goes on to something that is there. -/
theorem follow_onward {spot next : Location} {part : List Char} (onward : part ≠ ['.', '.'])
    (led : t.follow spot part = .ok next) : part = ['.'] ∧ next = spot ∨ IsName part ∧
      next = spot ++ [String.ofList part] ∧ (t.node? next).isSome = true := by
  obtain ⟨-, here | ⟨up, -⟩ | further⟩ := follow_ok_iff.mp led
  · exact .inl here
  · exact absurd up onward
  · exact .inr further

theorem prefix_of_followAll {parts : List (List Char)} (onward : ['.', '.'] ∉ parts)
    {spot last : Location} (led : parts.foldlM t.follow spot = .ok last) : spot <+: last := by
  induction parts generalizing spot with
  | nil =>
    cases led
    exact List.prefix_refl _
  | cons part more ih =>
    rw [List.foldlM_cons] at led
    obtain ⟨next, step, rest⟩ := bind_eq_ok.mp led
    simp only [List.mem_cons, not_or] at onward
    have later := ih onward.2 rest
    rcases follow_onward (Ne.symm onward.1) step with ⟨-, rfl⟩ | ⟨-, rfl, -⟩
    · exact later
    · exact (List.prefix_append _ _).trans later

theorem node?_of_followAll {parts : List (List Char)} (onward : ['.', '.'] ∉ parts)
    (full : parts ≠ []) {spot last : Location} (led : parts.foldlM t.follow spot = .ok last) :
    (t.node? last).isSome = true := by
  induction parts generalizing spot with
  | nil => exact absurd rfl full
  | cons part more ih =>
    rw [List.foldlM_cons] at led
    obtain ⟨next, step, rest⟩ := bind_eq_ok.mp led
    simp only [List.mem_cons, not_or] at onward
    cases more with
    | nil =>
      cases rest
      rcases follow_onward (Ne.symm onward.1) step with ⟨-, rfl⟩ | ⟨-, -, there⟩
      · rw [directory_of_follow step]
        rfl
      · exact there
    | cons other others => exact ih onward.2 (by simp) rest

/-- A path that does not go up and that leads to a file among new directories leads to it without
them. -/
theorem followAll_back {v : FileTree} (rooted : t.Rooted) (adds : t.AddsDirectories v)
    {parts : List (List Char)} (onward : ['.', '.'] ∉ parts) {spot last : Location}
    {content : String} (led : parts.foldlM v.follow spot = .ok last)
    (file : v.node? last = some (.file content)) : parts.foldlM t.follow spot = .ok last := by
  have old := adds.file last content file
  induction parts generalizing spot with
  | nil => exact led
  | cons part more ih =>
    have way := prefix_of_followAll onward led
    rw [List.foldlM_cons] at led ⊢
    obtain ⟨next, step, rest⟩ := bind_eq_ok.mp led
    simp only [List.mem_cons, not_or] at onward
    have inner : spot ≠ last := by
      rintro rfl
      rw [directory_of_follow step] at file
      cases file
    have inside := rooted last _ old spot way inner
    refine bind_eq_ok.mpr ⟨next, ?_, ih onward.2 rest⟩
    rcases follow_onward (Ne.symm onward.1) step with ⟨rfl, rfl⟩ | ⟨name, rfl, -⟩
    · exact follow_ok_iff.mpr ⟨inside, .inl ⟨rfl, rfl⟩⟩
    · have there : (t.node? (spot ++ [String.ofList part])).isSome = true := by
        by_cases whole : spot ++ [String.ofList part] = last
        · rw [whole, old]
          rfl
        · rw [rooted last _ old _ (prefix_of_followAll onward.2 rest) whole]
          rfl
      exact follow_ok_iff.mpr ⟨inside, .inr (.inr ⟨name, rfl, there⟩)⟩

/-- A text that a path can have is no reason to fail before its parents. -/
theorem textFault?_of_missing {p : Path} (steps : p.steps.isEmpty = false)
    (missing : t.createDirectory p = .error .notFound) : textFault? p = none := by
  cases text : textFault? p with
  | none => rfl
  | some fault =>
    rcases createDirectory_error missing with bad | ⟨fine, -⟩
    · exfalso
      have empty : p.text = "" := by
        unfold textFault? at bad
        split at bad
        · cases bad
        split at bad
        · rename_i nothing
          simpa using nothing
        · split at bad <;> cases bad
      rw [Path.steps_of_empty empty] at steps
      cases steps
    · rw [text] at fine
      cases fine

theorem not_goesUp_starts {p q : Path} (starts : q.Starts p) (onward : ¬GoesUp p) : ¬GoesUp q := by
  intro up
  obtain ⟨more, -, whole⟩ := starts.hops
  apply onward
  rw [GoesUp, whole]
  exact List.mem_append_left more up

/-- Where the way to a parent is lost, so is the way to the directory, for the same cause. -/
theorem lost_of_parent {p q : Path} (starts : q.Starts p) {e : FileError}
    (lost : (hops q).foldlM t.follow (t.start q) = .error e) :
    (hops p).foldlM t.follow (t.start p) = .error e := by
  obtain ⟨more, -, whole⟩ := starts.hops
  rw [start_starts starts t] at lost
  rw [whole]
  exact followAll_error lost

/-- A path that does not go up and led nowhere leads to nothing but directories when directories are
all that is new. So where it is refused a directory, and there is none, it has lost its way. -/
theorem lost_of_refused (rooted : t.Rooted) (adds : t.AddsDirectories u) {p : Path}
    (onward : ¬GoesUp p) {e : FileError} (text : textFault? p = none)
    (missing : t.createDirectory p = .error .notFound) (refused : u.createDirectory p = .error e)
    (absent : u.isDirectory p = false) : (hops p).foldlM u.follow (u.start p) = .error e := by
  have place : u.start p = t.start p := by
    unfold start
    rw [adds.workingDirectory]
  rcases (createDirectory_error refused).resolve_left (by simp [text]) with
    ⟨-, lost | ⟨-, spot, led⟩⟩
  · exact lost
  · exfalso
    have nowhere : (hops p).foldlM t.follow (t.start p) = .error .notFound := by
      rcases (createDirectory_error missing).resolve_left (by simp [text]) with
        ⟨-, nowhere | ⟨other, -⟩⟩
      · exact nowhere
      · cases other
    have some : hops p ≠ [] := by
      intro nothing
      rw [nothing] at nowhere
      cases nowhere
    obtain ⟨node, there⟩ := Option.isSome_iff_exists.mp (node?_of_followAll onward some led)
    cases node with
    | file content =>
      rw [place] at led
      rw [followAll_back rooted adds onward led there] at nowhere
      cases nowhere
    | directory =>
      rw [isDirectory_iff.mpr ⟨text, spot, led, there⟩] at absent
      cases absent

/-- In a tree where everything stands in directories, a path that does not go up fails again for the
same cause, because it cannot be followed beyond the same part. -/
theorem go_error_onward (rooted : t.Rooted) {p : Path} (onward : ¬GoesUp p) {bound : Nat}
    {e : FileError} (failed : createWithParents.go bound t p = (.error e, u)) :
    u = t ∨ (hops p).foldlM u.follow (u.start p) = .error e ∧
      createWithParents.go bound u p = (.error e, u) := by
  induction bound generalizing p e with
  | zero => cases failed
  | succ bound ih =>
    have adds := go_adds (bound + 1) t p
    rw [failed] at adds
    obtain ⟨steps, same | ⟨missing, q, parent, tried⟩⟩ := go_error_cases failed
    · exact .inl same
    have text := textFault?_of_missing steps missing
    have starts := Path.parent?_starts parent
    rcases tried with before | ⟨made, here, absent⟩
    · refine (ih (not_goesUp_starts starts onward) before).imp id fun ⟨lostBefore, again⟩ => ?_
      have lost := lost_of_parent starts lostBefore
      obtain ⟨fault, here, -, result⟩ := go_error_of_parent steps parent again
      have same : fault = e := by
        rcases (createDirectory_error here).resolve_left (by simp [text]) with
          ⟨-, nowhere | ⟨-, spot, led⟩⟩
        · simpa [lost] using nowhere.symm
        · simp [lost] at led
      refine ⟨lost, ?_⟩
      rw [result, same, ite_self]
    · exact .inr ⟨lost_of_refused rooted adds onward text missing here absent,
        go_error_of_ready steps parent (go_ok_again made) here absent⟩

theorem pathExists_of_lost {p : Path} {e : FileError}
    (lost : (hops p).foldlM t.follow (t.start p) = .error e) : t.pathExists p = false := by
  unfold pathExists resolve
  cases textFault? p with
  | some fault => rfl
  | none =>
    rw [lost]
    rfl

/-- An export directory that is refused is refused again, and nothing new is left. The reason is the
same, unless the first attempt has created directories for a path that goes up again. -/
theorem provideExportDir_refused {p : Path} {violation : Violation}
    (refused : t.provideExportDir p = (some violation, u)) :
    ∃ again, u.provideExportDir p = (some again, u) ∧ (again = violation ∨
      u ≠ t ∧ (t.Rooted → GoesUp p) ∧ ∃ cause, violation = .exportDirNotCreated p cause) := by
  by_cases same : u = t
  · rw [same] at refused ⊢
    exact ⟨violation, refused, .inl rfl⟩
  have first := refused
  unfold provideExportDir at first
  split at first
  · exact absurd (congrArg Prod.snd first).symm same
  split at first
  · cases first
  · rename_i cause v failed
    cases first
    obtain ⟨again, fails⟩ := go_error_again failed
    have absent : u.isDirectory p = false := by
      refine Bool.eq_false_iff.mpr fun there => ?_
      rw [go_of_isDirectory there] at fails
      cases fails
    have fails : u.createWithParents p = (.error again, u) := fails
    by_cases excuse : t.Rooted → GoesUp p
    · by_cases there : u.pathExists p = true
      · exact ⟨.exportDirIsFile p, by simp [provideExportDir, there, absent],
          .inr ⟨same, excuse, cause, rfl⟩⟩
      · exact ⟨.exportDirNotCreated p again, by simp [provideExportDir, there, fails],
          .inr ⟨same, excuse, cause, rfl⟩⟩
    · rw [Classical.not_imp] at excuse
      obtain ⟨lost, still⟩ := (go_error_onward excuse.1 excuse.2 failed).resolve_left same
      have still : u.createWithParents p = (.error cause, u) := still
      exact ⟨_, by simp [provideExportDir, pathExists_of_lost lost, still], .inl rfl⟩

end FileTree
end HazardJob
