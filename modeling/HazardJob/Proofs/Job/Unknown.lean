import HazardJob.Proofs.Job.Consistency
import HazardJob.Proofs.Job.Validated
import HazardJob.Proofs.SortedMap

/-! Names that are no parameters. They are reported and dropped: no value is read from them, and
neither building nor checking a job looks at what was found before. So however many of them a draft
has, the job is the same apart from its findings, and so is what validation makes of it. -/
namespace HazardJob

namespace Job

/-- The job as it is if more was found before. -/
def after (found : List Diagnostic) (job : Job) : Job :=
  { job with diagnostics := found ++ job.diagnostics }

section After

variable (found : List Diagnostic) (job : Job)

theorem record_after (d : Diagnostic) : (job.after found).record d = (job.record d).after found := by
  simp only [record, after, List.append_assoc]

theorem dropImtList_after : (job.after found).dropImtList = job.dropImtList.after found := by
  unfold dropImtList
  rw [apply_ite (after found), ← record_after]
  rfl

theorem derivePoes_after : (job.after found).derivePoes = job.derivePoes.after found := by
  unfold derivePoes
  rw [apply_ite (after found), ← record_after]
  rfl

theorem deriveMeshSpacing_after :
    (job.after found).deriveMeshSpacing = job.deriveMeshSpacing.after found := by
  unfold deriveMeshSpacing
  rw [apply_ite (after found), ← record_after]
  rfl

end After

/-- No name was reported as unknown. -/
def NamesKnown (job : Job) : Prop := ∀ found ∈ job.diagnostics, found.code ≠ .unknownParameter

theorem NamesKnown.record {job : Job} (known : job.NamesKnown) {d : Diagnostic}
    (other : d.code ≠ .unknownParameter) : (job.record d).NamesKnown :=
  List.forall_mem_append.mpr ⟨known, List.forall_mem_singleton.mpr other⟩

/-- The traces of checks report that a parameter is ignored or derived, and nothing else. -/
theorem NamesKnown.leaves {job : Job} (known : job.NamesKnown) (c : Check) :
    (c.leaves job).NamesKnown := by
  cases c with
  | intensityMeasureTypes =>
    show job.dropImtList.NamesKnown
    unfold dropImtList
    split
    · refine NamesKnown.record known ?_
      rw [Diagnostic.ignoredParameter_eq]
      exact nofun
    · exact known
  | disaggregation =>
    show job.derivePoes.NamesKnown
    unfold derivePoes
    dsimp only
    split
    · refine NamesKnown.record known ?_
      rw [Diagnostic.derivedParameter_eq]
      exact nofun
    · exact known
  | derivedFields =>
    show job.deriveMeshSpacing.NamesKnown
    unfold deriveMeshSpacing
    dsimp only
    split
    · refine NamesKnown.record known ?_
      rw [Diagnostic.derivedParameter_eq]
      exact nofun
    · exact known
  | _ => exact known

/-- The job `right` is `left` with warnings of other unknown names: of `new` in place of `old`, after
the findings that come `first`. What was found after them is about known names. -/
def Exchanged (left : Job) (first : List Diagnostic) (old new : List String) (right : Job) : Prop :=
  let warning (name : String) : Diagnostic :=
    { severity := .warning, code := .unknownParameter, parameter := some name
      message := "The parameter '" ++ name ++ "' is unknown, ignoring" }
  ∃ rest, (∀ found ∈ rest, found.code ≠ .unknownParameter) ∧
    left.diagnostics = first ++ old.map warning ++ rest ∧
    right = { left with diagnostics := first ++ new.map warning ++ rest }

theorem exchanged_after (first : List Diagnostic) (old new : List String) {job : Job}
    (known : job.NamesKnown) : (job.after (first ++ old.map .unknownParameter)).Exchanged first old new
      (job.after (first ++ new.map .unknownParameter)) := by
  rw [funext Diagnostic.unknownParameter_eq]
  exact ⟨job.diagnostics, known, rfl, rfl⟩

end Job

namespace Workspace

/-- The workspace as it is if more was found before. -/
def after (found : List Diagnostic) (w : Workspace) : Workspace :=
  { w with job := w.job.after found }

/-- A check does not look at what was found before. -/
theorem run_after (found : List Diagnostic) (w : Workspace) (c : Check) :
    c.run (w.after found) = ((c.run w).1, (c.run w).2.after found) := by
  cases c with
  | intensityMeasureTypes =>
    have levels : (w.job.after found).levelsViolation? = w.job.levelsViolation? := rfl
    simp only [Check.run, after, levels, Job.dropImtList_after]
    cases w.job.levelsViolation? <;> rfl
  | disaggregation =>
    simp only [Check.run, after, Job.derivePoes_after]
    rfl
  | derivedFields => simp only [Check.run, after, Job.deriveMeshSpacing_after]
  | _ => rfl

theorem runChecks_after (found : List Diagnostic) (cs : List Check) (w : Workspace) :
    (w.after found).runChecks cs = ((w.runChecks cs).1, (w.runChecks cs).2.after found) := by
  induction cs generalizing w with
  | nil => rfl
  | cons check more ih =>
    rw [runChecks, runChecks, run_after]
    rcases check.run w with ⟨_ | violation, left⟩
    · exact ih left
    · rfl

theorem validate_after (found : List Diagnostic) (w : Workspace) :
    (w.after found).validate = (w.validate.1, w.validate.2.after found) := by
  unfold validate
  rw [runChecks_after]
  rcases w.runChecks Check.all with ⟨_ | _, left⟩
  · rfl
  · rfl

/-- Checking a job reports no name as unknown. -/
theorem runChecks_namesKnown (cs : List Check) {w : Workspace} (known : w.job.NamesKnown) :
    (w.runChecks cs).2.job.NamesKnown := by
  refine runChecks_keeps (P := fun v => v.job.NamesKnown) (fun c _ v before => ?_) known
  rcases c.left_of_run v with same | left
  · rwa [same]
  · rw [left]
    exact before.leaves c

theorem validate_namesKnown {w : Workspace} (known : w.job.NamesKnown) :
    w.validate.2.job.NamesKnown :=
  validate_keeps (P := fun v => v.job.NamesKnown) (fun _ left => left)
    (runChecks_namesKnown Check.all known)

end Workspace

namespace Draft

/-- The names among the settings of a draft that are no parameters. -/
def unknown (d : Draft) : List String := unknownNames d.settings.toList

/-- The draft with its parameters alone, and nothing found yet. -/
def bare (d : Draft) : Draft :=
  { d with
    settings := d.settings.filter fun name _ => (Param.ofName? name).isSome
    diagnostics := [] }

/-- Names that are no parameters give no value, and no error either. -/
theorem givenValues_known (settings : List (String × Option String)) :
    givenValues (settings.filter fun e => (Param.ofName? e.1).isSome) = givenValues settings := by
  induction settings with
  | nil => rfl
  | cons setting more ih =>
    obtain ⟨name, raw⟩ := setting
    cases known : Param.ofName? name with
    | some p =>
      rw [List.filter_cons_of_pos (by simp [known]), givenValues, givenValues, ih]
    | none =>
      rw [List.filter_cons_of_neg (by simp [known]), ih, givenValues]
      simp only [settingValue, known]
      cases givenValues more <;> rfl

theorem unknown_bare (d : Draft) : d.bare.unknown = [] := by
  apply List.filter_eq_nil_iff.mpr
  intro name member
  obtain ⟨e, kept, rfl⟩ := List.mem_map.mp member
  have known := (List.mem_filter.mp kept).2
  simpa [Option.isSome_iff_ne_none] using known

/-- Nothing is found in a draft with parameters alone before it is checked. -/
theorem diagnostics_bare (d : Draft) (params : JobParams) (tree? : Option LogicTree) :
    (d.bare.assemble params tree?).diagnostics = [] :=
  congrArg (List.map Diagnostic.unknownParameter) d.unknown_bare

theorem assemble_bare (d : Draft) (params : JobParams) (tree? : Option LogicTree) :
    d.assemble params tree? =
      (d.bare.assemble params tree?).after (d.diagnostics ++ d.unknown.map .unknownParameter) := by
  rw [Job.after, diagnostics_bare, List.append_nil]
  rfl

theorem namesKnown_bare {d : Draft} {files : FileTree} {job : Job}
    (built : d.bare.build files = .ok job) : job.NamesKnown := by
  obtain ⟨params, tree?, -, -, -, -, rfl⟩ := build_ok built
  have start : (d.bare.assemble params tree?).NamesKnown := by
    rw [Job.NamesKnown, diagnostics_bare]
    exact List.forall_mem_nil _
  exact start.leaves .disaggregation

theorem paramsOf_bare (d : Draft) :
    paramsOf d.bare.settings.toList = paramsOf d.settings.toList := by
  have given : givenValues d.bare.settings.toList = givenValues d.settings.toList :=
    givenValues_known d.settings.toList
  rw [paramsOf, given, paramsOf]

/-- A draft is built as if it had its parameters alone: what it starts with and the names that are
unknown only come before the findings. -/
theorem build_bare (d : Draft) (files : FileTree) :
    d.build files = (d.bare.build files).map
      (·.after (d.diagnostics ++ d.unknown.map .unknownParameter)) := by
  have inputs : d.bare.inputs = d.inputs := rfl
  unfold build
  rw [paramsOf_bare, inputs]
  cases paramsOf d.settings.toList with
  | error e => rfl
  | ok params =>
    cases logicTree? files d.inputs with
    | error e => rfl
    | ok tree? =>
      have checks := Workspace.runChecks_after
        (d.diagnostics ++ d.unknown.map .unknownParameter) Check.early
        ⟨files, d.bare.assemble params tree?⟩
      rw [Workspace.after, ← assemble_bare] at checks
      simp only [bind, Except.bind, checks]
      rcases (Workspace.mk files (d.bare.assemble params tree?)).runChecks Check.early with
        ⟨_ | _, left⟩
      · rfl
      · rfl

/-- The unknown names stand in ascending order, each once. -/
theorem unknown_ascending (d : Draft) : d.unknown.Pairwise (· < ·) := by
  apply List.Pairwise.filter
  exact List.pairwise_map.mpr (d.settings.ascending.imp compareOfLessAndEq_eq_lt.mp)

theorem unknown_nodup (d : Draft) : d.unknown.Nodup :=
  d.unknown_ascending.imp fun below same => absurd (same ▸ below) (lt_irrefl _)

section Unknown

variable {d : Draft} {more : List (String × Option String)}

theorem bare_setAll (unknown : ∀ e ∈ more, Param.ofName? e.1 = none) :
    (d.setAll more).bare = d.bare := by
  have out : ∀ e ∈ more, (Param.ofName? e.1).isSome = false := by
    intro e member
    rw [unknown e member]
    rfl
  have settings := SortedMap.filter_insertAll (m := d.settings)
    (p := fun name => (Param.ofName? name).isSome) out
  exact congrArg (fun settings => { d with settings, diagnostics := [] }) settings

theorem unknown_setAll (unknown : ∀ e ∈ more, Param.ofName? e.1 = none)
    (unset : ∀ e ∈ more, d.settings.contains e.1 = false) :
    (d.setAll more).unknown.Perm (d.unknown ++ (more.map (·.1)).dedup) := by
  have apart : ∀ name ∈ d.unknown, ∀ other ∈ (more.map (·.1)).dedup, name ≠ other := by
    rintro name old other new rfl
    obtain ⟨e, member, rfl⟩ := List.mem_map.mp (List.mem_dedup.mp new)
    have present := SortedMap.contains_iff_mem_keys.mpr (List.mem_of_mem_filter old)
    rw [unset e member] at present
    cases present
  have distinct : (d.unknown ++ (more.map (·.1)).dedup).Nodup :=
    List.nodup_append.mpr ⟨d.unknown_nodup, List.nodup_dedup _, apart⟩
  apply (List.perm_ext_iff_of_nodup (d.setAll more).unknown_nodup distinct).mpr
  intro name
  rw [List.mem_append, List.mem_dedup]
  constructor
  · intro found
    obtain ⟨set, none⟩ := List.mem_filter.mp found
    rcases SortedMap.mem_keys_insertAll_iff.mp set with old | new
    · exact .inl (List.mem_filter.mpr ⟨old, none⟩)
    · exact .inr new
  · rintro (old | new)
    · obtain ⟨set, none⟩ := List.mem_filter.mp old
      exact List.mem_filter.mpr ⟨SortedMap.mem_keys_insertAll_iff.mpr (.inl set), none⟩
    · obtain ⟨e, member, rfl⟩ := List.mem_map.mp new
      refine List.mem_filter.mpr ⟨SortedMap.mem_keys_insertAll_iff.mpr (.inr new), ?_⟩
      rw [unknown e member]
      rfl

/-- Names that are no parameters are inert. With any number of them added, a draft is built exactly
if it was before, and fails with the same error otherwise. The job has one warning more for each of
these names, among those of the names that were unknown already and with them in ascending order
after what the draft starts with, and nothing else that is found reports an unknown name; in all else
it is the same job. Validation then ends in the same way, with the same files, and again in jobs that
differ in these warnings only. -/
theorem build_setAll_unknown (unknown : ∀ e ∈ more, Param.ofName? e.1 = none)
    (unset : ∀ e ∈ more, d.settings.contains e.1 = false) (files : FileTree) :
    (d.setAll more).unknown.Perm (d.unknown ++ (more.map (·.1)).dedup) ∧
    (d.setAll more).unknown.Pairwise (· < ·) ∧
    (∀ e, (d.setAll more).build files = .error e ↔ d.build files = .error e) ∧
    ∀ left, d.build files = .ok left → ∃ right, (d.setAll more).build files = .ok right ∧
      left.Exchanged d.diagnostics d.unknown (d.setAll more).unknown right ∧
      ∀ later,
        let before := (Workspace.mk later left).validate
        let after := (Workspace.mk later right).validate
        after.1 = before.1 ∧ after.2.files = before.2.files ∧
          before.2.job.Exchanged d.diagnostics d.unknown (d.setAll more).unknown after.2.job := by
  have first := d.build_bare files
  have second := (d.setAll more).build_bare files
  rw [bare_setAll unknown] at second
  refine ⟨unknown_setAll unknown unset, unknown_ascending _, ?_, ?_⟩
  · intro e
    rw [first, second]
    cases d.bare.build files with
    | error other => rfl
    | ok job => simp [Except.map]
  · intro left built
    rw [first] at built
    obtain ⟨job, plain, rfl⟩ := map_eq_ok.mp built
    rw [plain] at second
    have known := namesKnown_bare plain
    refine ⟨_, second, Job.exchanged_after _ _ _ known, ?_⟩
    intro later
    have each (found : List Diagnostic) : (Workspace.mk later (job.after found)).validate = _ :=
      Workspace.validate_after found ⟨later, job⟩
    rw [each, each]
    exact ⟨rfl, rfl, Job.exchanged_after _ _ _ (Workspace.validate_namesKnown known)⟩

end Unknown

/-- A scenario with a misspelt name. -/
def misspelt : Draft := scenario.set "poses" (some "0.1")

/-- Two more names that are no parameters. -/
def strays : List (String × Option String) := [("site", none), ("export", some "out")]

theorem build_misspelt : ∃ left right, misspelt.build ⟨[], []⟩ = .ok left ∧
    (misspelt.setAll strays).build ⟨[], []⟩ = .ok right ∧
    left.diagnostics =
      [{ severity := .warning, code := .unknownParameter, parameter := some "poses"
         message := "The parameter 'poses' is unknown, ignoring" }] ∧
    right = { left with diagnostics :=
      [{ severity := .warning, code := .unknownParameter, parameter := some "export"
         message := "The parameter 'export' is unknown, ignoring" },
       { severity := .warning, code := .unknownParameter, parameter := some "poses"
         message := "The parameter 'poses' is unknown, ignoring" },
       { severity := .warning, code := .unknownParameter, parameter := some "site"
         message := "The parameter 'site' is unknown, ignoring" }] } ∧
    right.warnings = right.diagnostics := by
  have computed : ((misspelt.build ⟨[], []⟩).toOption.any fun job =>
      decide (job.diagnostics.length = 1)) = true := by decide +kernel
  obtain ⟨left, built, found⟩ := any_toOption_iff.mp computed
  have single : left.diagnostics.length = 1 := of_decide_eq_true found
  have unknown : ∀ e ∈ strays, Param.ofName? e.1 = none := by decide +kernel
  have unset : ∀ e ∈ strays, misspelt.settings.contains e.1 = false := by decide +kernel
  obtain ⟨-, -, -, same⟩ := build_setAll_unknown unknown unset ⟨[], []⟩
  obtain ⟨right, builtToo, ⟨rest, -, stands, exchanged⟩, -⟩ := same left built
  have before : misspelt.unknown = ["poses"] := by decide +kernel
  have after : (misspelt.setAll strays).unknown = ["export", "poses", "site"] := by decide +kernel
  have start : misspelt.diagnostics = [] := rfl
  rw [start, before] at stands
  rw [start, after] at exchanged
  obtain rfl : rest = [] := by simpa [stands] using single
  refine ⟨left, right, built, builtToo, stands, exchanged, ?_⟩
  subst exchanged
  simp [Job.warnings, Diagnostic.isWarning_iff]

end Draft
end HazardJob
