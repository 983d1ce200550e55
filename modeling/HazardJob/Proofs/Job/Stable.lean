import HazardJob.Proofs.Files.Onward
import HazardJob.Proofs.Job.Launch

/-! Validating a job twice. A check leaves nothing where it has left its trace already, and no check
undoes the trace of another; so the second validation finds what the first one found and leaves the
job as it is, wherever the first one ended. -/
namespace HazardJob

namespace Check

/-- The check leaves the job as it is. -/
def Idle (c : Check) (job : Job) : Prop :=
  match c with
  | intensityMeasureTypes => job.params.imtLevels.isSome = true → job.params.imtList = []
  | disaggregation => job.PoesSettled
  | derivedFields => job.params.complexFaultMeshSpacing.isSome = true
  | _ => True

/-- No trace of a check is undone by another one. -/
theorem Idle.leaves {c : Check} {job : Job} (idle : c.Idle job) (d : Check) :
    c.Idle (d.leaves job) := by
  cases d with
  | intensityMeasureTypes =>
    show c.Idle job.dropImtList
    unfold Job.dropImtList
    split
    · cases c with
      | intensityMeasureTypes => exact fun _ => rfl
      | _ => exact idle
    · exact idle
  | disaggregation =>
    show c.Idle job.derivePoes
    unfold Job.derivePoes
    dsimp only
    split
    · rename_i derives
      cases c with
      | disaggregation => exact fun _ targets => targets
      | _ => exact idle
    · exact idle
  | derivedFields =>
    show c.Idle job.deriveMeshSpacing
    unfold Job.deriveMeshSpacing
    dsimp only
    split
    · cases c with
      | derivedFields => rfl
      | _ => exact idle
    · exact idle
  | _ => exact idle

variable {c : Check} {w : Workspace}

theorem run_of_idle (noFiles : c ≠ .exportDir) (idle : c.Idle w.job) : (c.run w).2 = w := by
  cases c with
  | exportDir => exact absurd rfl noFiles
  | intensityMeasureTypes =>
    have kept : w.job.dropImtList = w.job := Job.dropImtList_of_oneSource idle
    simp only [run, kept]
    split <;> rfl
  | disaggregation =>
    have kept : w.job.derivePoes = w.job := Job.derivePoes_of_settled idle
    simp only [run, kept]
  | derivedFields =>
    have kept : w.job.deriveMeshSpacing = w.job := Job.deriveMeshSpacing_of_given idle
    simp only [run, kept]
  | _ => rfl

/-- After its own run a check is idle. -/
theorem idle_run (c : Check) (w : Workspace) : c.Idle (c.run w).2.job := by
  cases c with
  | intensityMeasureTypes =>
    simp only [run]
    split
    · rename_i violation found
      intro levels
      unfold Job.levelsViolation? at found
      split at found
      · rename_i missing
        simp only [Bool.and_eq_true] at missing
        rw [Option.isNone_iff_eq_none.mp missing.2] at levels
        cases levels
      · cases found
    · exact w.job.oneImtSource_dropImtList
  | disaggregation => exact w.job.derivePoes_settled
  | derivedFields => exact w.job.meshSpacing_deriveMeshSpacing
  | _ => trivial

theorem Idle.run (idle : c.Idle w.job) (d : Check) : c.Idle (d.run w).2.job := by
  rcases d.left_of_run w with same | left
  · rwa [same]
  · rw [left]
    exact idle.leaves d

end Check

namespace Job

/-- What validation may change: it drops the list of intensity measures where levels are set, gives
complex faults the mesh spacing of ruptures if they have none, and adds findings and the mark. -/
structure Settles (before after : Job) : Prop where
  core : before.core = after.core
  imtList : after.params.imtList = before.params.imtList ∨
    before.params.imtLevels.isSome = true ∧ after.params.imtList = []
  meshSpacing : after.params.complexFaultMeshSpacing = before.params.complexFaultMeshSpacing ∨
    before.params.complexFaultMeshSpacing = none ∧
      after.params.complexFaultMeshSpacing = some before.params.ruptureMeshSpacing
  diagnostics : before.diagnostics <+: after.diagnostics

theorem Settles.refl (job : Job) : job.Settles job :=
  ⟨rfl, .inl rfl, .inl rfl, List.prefix_refl _⟩

theorem Settles.trans {a b c : Job} (first : a.Settles b) (second : b.Settles c) : a.Settles c := by
  have levels : a.params.imtLevels = b.params.imtLevels := congrArg (·.params.imtLevels) first.core
  have spacing : a.params.ruptureMeshSpacing = b.params.ruptureMeshSpacing :=
    congrArg (·.params.ruptureMeshSpacing) first.core
  refine ⟨first.core.trans second.core, ?_, ?_, first.diagnostics.trans second.diagnostics⟩
  · rcases second.imtList with same | ⟨given, dropped⟩
    · rw [same]
      exact first.imtList
    · exact .inr ⟨levels ▸ given, dropped⟩
  · rcases second.meshSpacing with same | ⟨missing, derived⟩
    · rw [same]
      exact first.meshSpacing
    · have given : a.params.complexFaultMeshSpacing = none := by
        rcases first.meshSpacing with same | ⟨nothing, -⟩
        · rw [← same, missing]
        · exact nothing
      exact .inr ⟨given, by rw [derived, spacing]⟩

/-- Validation may drop a list of measures, but not one that counts. -/
theorem Settles.measuresOf {a b : Job} (settles : a.Settles b) :
    Draft.measuresOf b.params = Draft.measuresOf a.params := by
  have levels : a.params.imtLevels = b.params.imtLevels := congrArg (·.params.imtLevels) settles.core
  unfold Draft.measuresOf
  rw [← levels]
  cases given : a.params.imtLevels with
  | some spec => rfl
  | none =>
    rcases settles.imtList with same | ⟨some, -⟩
    · rw [same]
    · rw [given] at some
      cases some

/-- What a check leaves of a settled job. -/
theorem settles_leaves {job : Job} (settled : job.PoesSettled) (c : Check) :
    job.Settles (c.leaves job) := by
  cases c with
  | intensityMeasureTypes =>
    show job.Settles job.dropImtList
    unfold dropImtList
    split
    · rename_i drops
      simp only [Bool.and_eq_true] at drops
      exact ⟨rfl, .inr ⟨drops.1, rfl⟩, .inl rfl, List.prefix_append _ _⟩
    · exact .refl job
  | disaggregation =>
    show job.Settles job.derivePoes
    rw [derivePoes_of_settled settled]
    exact .refl job
  | derivedFields =>
    show job.Settles job.deriveMeshSpacing
    unfold deriveMeshSpacing
    dsimp only
    split
    · rename_i missing
      exact ⟨rfl, .inl rfl, .inr ⟨Option.isNone_iff_eq_none.mp missing, rfl⟩, List.prefix_append _ _⟩
    · exact .refl job
  | _ => exact .refl job

/-- What can be made of a job: it is validated, whatever files are around, its regions are replaced, and
the measures of a risk model are added, each any number of times. -/
inductive Reached (job : Job) : Job → Prop where
  | start : Reached job job
  | validate {j : Job} (files : FileTree) : Reached job j →
      Reached job (Workspace.mk files j).validate.2.job
  | setRegions {j : Job} (regions : RegionSet) : Reached job j → Reached job (j.setRegions regions)
  | setRiskImts {j : Job} (risk : ImtLevels) : Reached job j → Reached job (j.setRiskImts risk).2

theorem Reached.grows {job j : Job} (reached : job.Reached j) (settled : job.PoesSettled) :
    job.Grows j := by
  induction reached with
  | start => exact .of_core rfl
  | validate files _ ih =>
    have core := Workspace.validate_core (w := ⟨files, _⟩) (ih.settled settled)
    exact ih.trans (.of_core core.symm)
  | setRegions regions _ ih => exact ih.trans (setRegions_grows _ regions)
  | setRiskImts risk _ ih => exact ih.trans (setRiskImts_grows _ risk)

theorem Reached.settled {job j : Job} (reached : job.Reached j) (settled : job.PoesSettled) :
    j.PoesSettled := (reached.grows settled).settled settled

end Job

namespace Workspace

open Check

theorem runChecks_settles (cs : List Check) {w : Workspace} (settled : w.job.PoesSettled) :
    w.job.Settles (w.runChecks cs).2.job := by
  refine runChecks_keeps (P := fun v => w.job.Settles v.job) (fun c _ v before => ?_) (.refl w.job)
  rcases c.left_of_run v with same | left
  · rwa [same]
  · rw [left]
    exact before.trans (Job.settles_leaves (settled.of_core before.core) c)

theorem validate_settles {w : Workspace} (settled : w.job.PoesSettled) :
    w.job.Settles w.validate.2.job :=
  validate_keeps (P := fun v => w.job.Settles v.job)
    (fun _ left => ⟨left.core, left.imtList, left.meshSpacing, left.diagnostics⟩)
    (runChecks_settles Check.all settled)

theorem runChecks_idle (cs : List Check) {c : Check} {w : Workspace} (idle : c.Idle w.job) :
    c.Idle (w.runChecks cs).2.job :=
  runChecks_keeps (P := fun v => c.Idle v.job) (fun check _ _ before => before.run check) idle

/-- Checks that do not look at files find the same again, and leave nothing where they have left their
traces. -/
theorem runChecks_again {cs : List Check} (noFiles : .exportDir ∉ cs) {w v x : Workspace}
    {r : Except JobError Unit} (settled : w.job.PoesSettled) (ran : w.runChecks cs = (r, v))
    (core : x.job.core = w.job.core) (idle : ∀ c : Check, c.Idle v.job → c.Idle x.job) :
    x.runChecks cs = (r, x) := by
  induction cs generalizing w with
  | nil =>
    cases ran
    rfl
  | cons check more ih =>
    simp only [List.mem_cons, not_or] at noFiles
    have other : check ≠ .exportDir := Ne.symm noFiles.1
    have finding : (check.run x).1 = (check.run w).1 := finding_core core fun first => absurd first other
    have own := idle_run check w
    have kept := run_core settled check
    rw [runChecks] at ran ⊢
    split at ran
    · rename_i left found
      rw [found] at finding own kept
      have later := runChecks_idle more own
      rw [ran] at later
      have result : check.run x = (none, x) := Prod.ext finding (run_of_idle other (idle check later))
      rw [result]
      exact ih noFiles.2 (settled.of_core kept.symm) ran (core.trans kept.symm)
    · rename_i violation left found
      cases ran
      rw [found] at finding own
      have result : check.run x = (some violation, x) :=
        Prod.ext finding (run_of_idle other (idle check own))
      rw [result]

theorem validate_error {w v : Workspace} {e : JobError}
    (ran : w.runChecks Check.all = (.error e, v)) : w.validate = (.error e, v) := by
  unfold validate
  rw [ran]

theorem validate_ok {w v : Workspace} (ran : w.runChecks Check.all = (.ok (), v)) :
    w.validate = (.ok (), v.markValidated) := by
  unfold validate
  rw [ran]

/-- The checks after the first run where the export directory is provided. -/
theorem runChecks_provided {w : Workspace} {files : FileTree}
    (provided : w.files.provideExportDir w.job.params.exportDir = (none, files)) :
    w.runChecks Check.all = (Workspace.mk files w.job).runChecks Check.all.tail := by
  have all : Check.all = .exportDir :: Check.all.tail := rfl
  have first : Check.exportDir.run w = (none, ⟨files, w.job⟩) := by
    simp only [Check.run, provided]
  rw [all, runChecks, first]
  rfl

theorem runChecks_refused {w : Workspace} {files : FileTree} {violation : Violation}
    (refused : w.files.provideExportDir w.job.params.exportDir = (some violation, files)) :
    w.runChecks Check.all = (.error (.violation .exportDir violation), ⟨files, w.job⟩) := by
  have all : Check.all = .exportDir :: Check.all.tail := rfl
  have first : Check.exportDir.run w = (some violation, ⟨files, w.job⟩) := by
    simp only [Check.run, refused]
  rw [all, runChecks, first]

/-- Where the export directory is provided, the checks find the same in what they have left, and in
whatever differs from it only where no check looks. -/
theorem runChecks_provided_again {w left x : Workspace} {files : FileTree}
    {result : Except JobError Unit} (settled : w.job.PoesSettled)
    (provided : w.files.provideExportDir w.job.params.exportDir = (none, files))
    (ran : (Workspace.mk files w.job).runChecks Check.all.tail = (result, left))
    (sameFiles : x.files = left.files) (sameCore : x.job.core = left.job.core)
    (idle : ∀ c : Check, c.Idle left.job → c.Idle x.job) : x.runChecks Check.all = (result, x) := by
  have noFiles : Check.exportDir ∉ Check.all.tail := by decide
  have core : left.job.core = w.job.core := by
    have kept := runChecks_core Check.all.tail (w := ⟨files, w.job⟩) settled
    rwa [ran] at kept
  have leftFiles : left.files = files := by
    have kept := runChecks_files noFiles (Workspace.mk files w.job)
    rwa [ran] at kept
  have exportDir : x.job.params.exportDir = w.job.params.exportDir :=
    congrArg (·.params.exportDir) (sameCore.trans core)
  have ready : x.files.provideExportDir x.job.params.exportDir = (none, x.files) := by
    rw [sameFiles, leftFiles, exportDir]
    exact FileTree.provideExportDir_again provided
  rw [runChecks_provided ready]
  exact runChecks_again noFiles (w := ⟨files, w.job⟩) settled ran (sameCore.trans core) idle

/-- A job whose probabilities of exceedance are settled is left as it is by a second validation, which
also finds what the first one found, but for the reason to refuse an export directory. -/
theorem validate_twice {w v : Workspace} {r : Except JobError Unit} (settled : w.job.PoesSettled)
    (ran : w.validate = (r, v)) : ∃ again, v.validate = (again, v) ∧ (again = r ∨
      v.files ≠ w.files ∧ (w.files.Rooted → FileTree.GoesUp w.job.params.exportDir) ∧
        ∃ cause violation,
          r = .error (.violation .exportDir (.exportDirNotCreated w.job.params.exportDir cause)) ∧
          again = .error (.violation .exportDir violation)) := by
  cases provided : w.files.provideExportDir w.job.params.exportDir with
  | mk violation? files =>
  cases violation? with
  | some violation =>
    rw [validate_error (runChecks_refused provided)] at ran
    cases ran
    obtain ⟨again, refused, form⟩ := FileTree.provideExportDir_refused provided
    refine ⟨_, validate_error (runChecks_refused (w := ⟨files, w.job⟩) refused), ?_⟩
    rcases form with rfl | ⟨changed, excuse, cause, rfl⟩
    · exact .inl rfl
    · exact .inr ⟨changed, excuse, cause, again, rfl, rfl⟩
  | none =>
    have passed := runChecks_provided provided
    cases rest : (Workspace.mk files w.job).runChecks Check.all.tail with
    | mk result left =>
    rw [rest] at passed
    cases result with
    | ok =>
      rw [validate_ok passed] at ran
      cases ran
      -- Where the first validation ends well the second one starts from the marked job.
      have marked : left.markValidated.runChecks Check.all = (.ok (), left.markValidated) :=
        runChecks_provided_again settled provided rest rfl rfl fun c idle => by cases c <;> exact idle
      exact ⟨.ok (), validate_ok (v := left.markValidated) marked, .inl rfl⟩
    | error e =>
      rw [validate_error passed] at ran
      cases ran
      have same := runChecks_provided_again settled provided rest rfl rfl fun _ idle => idle
      exact ⟨.error e, validate_error same, .inl rfl⟩

/-- Whatever was made of a job since it was built, validating it settles it and changes nothing else;
validating it once more changes nothing at all. The result is the same both times, unless the
export directory could not be created, directories were left of the attempt, and its path goes up
again; then it is refused the second time as well. -/
theorem validate_stable {d : Draft} {files : FileTree} {job j : Job} (built : d.build files = .ok job)
    (reached : job.Reached j) (later : FileTree) {v : Workspace} {r : Except JobError Unit}
    (ran : (Workspace.mk later j).validate = (r, v)) :
    j.Settles v.job ∧ ∃ again, v.validate = (again, v) ∧ (again = r ∨
      v.files ≠ later ∧ (later.Rooted → FileTree.GoesUp j.params.exportDir) ∧
        ∃ cause violation,
          r = .error (.violation .exportDir (.exportDirNotCreated j.params.exportDir cause)) ∧
          again = .error (.violation .exportDir violation)) := by
  have settled : (Workspace.mk later j).job.PoesSettled := reached.settled (Draft.build_settled built)
  have settles := validate_settles settled
  rw [ran] at settles
  exact ⟨settles, validate_twice settled ran⟩

/-- A scenario that has levels besides a list of measures, and no sites. -/
def unsited : Draft := Draft.empty.setAll [("calculation_mode", some "scenario"),
  ("gsim", some "BooreAtkinson2008"), ("intensity_measure_types", some "PGA"),
  ("intensity_measure_types_and_levels", some "\x7b'PGA': [0.1, 0.2]\x7d"),
  ("reference_vs30_type", some "measured"), ("reference_vs30_value", some "760")]

/-- What validating the scenario for a region leaves: the list is dropped before the sites are missed. -/
theorem unsited_stable : ∃ job e v, unsited.build ⟨[], []⟩ = .ok job ∧
    (Workspace.mk ⟨[], []⟩ (job.setRegions (SortedSet.ofList ["Volcanic"]))).validate = (.error e, v) ∧
    job.params.imtList ≠ [] ∧ v.job.params.imtList = [] ∧
    (job.setRegions (SortedSet.ofList ["Volcanic"])).Settles v.job ∧ v.validate = (.error e, v) := by
  have computed : ((unsited.build ⟨[], []⟩).toOption.any fun job =>
      let left := (Workspace.mk ⟨[], []⟩ (job.setRegions (SortedSet.ofList ["Volcanic"]))).validate
      !left.1.isOk && decide (left.2.files = ⟨[], []⟩) && !job.params.imtList.isEmpty &&
        left.2.job.params.imtList.isEmpty) = true := by decide +kernel
  obtain ⟨job, built, found⟩ := (Option.any_eq_true _ _).mp computed
  simp only [Bool.and_eq_true, Bool.not_eq_true', decide_eq_true_eq, List.isEmpty_iff,
    List.isEmpty_eq_false_iff] at found
  obtain ⟨⟨⟨failed, files⟩, listed⟩, dropped⟩ := found
  have built := toOption_eq_some.mp built
  cases ran : (Workspace.mk ⟨[], []⟩ (job.setRegions (SortedSet.ofList ["Volcanic"]))).validate with
  | mk r v =>
  rw [ran] at failed files dropped
  cases r with
  | ok => cases failed
  | error e =>
    obtain ⟨settles, again, repeated, same | ⟨changed, -⟩⟩ :=
      validate_stable built (.setRegions _ .start) ⟨[], []⟩ ran
    · exact ⟨job, e, v, built, ran, listed, dropped, settles, same ▸ repeated⟩
    · exact absurd files changed

/-- A scenario whose export directory goes up again from a directory that is to be created, and a file
that stands there. -/
def detour : Draft := Draft.scenario.set "export_dir" (some "out/../taken")

def occupied : FileTree := ⟨[], [(["taken"], .file "")]⟩

/-- The export directory cannot be created in the place of a file; the attempt leaves the directory that
its path goes up from, so that the path leads to the file from then on. -/
theorem validate_detour : ¬∀ (d : Draft) (files : FileTree) (job j : Job), d.build files = .ok job →
    job.Reached j → ∀ later : FileTree,
      (Workspace.mk later j).validate.2.validate.1 = (Workspace.mk later j).validate.1 := by
  intro claim
  have computed : ((detour.build occupied).toOption.any fun job =>
      let left := (Workspace.mk occupied job).validate
      decide (left.2.validate.1.mapError JobError.message ≠ left.1.mapError JobError.message)) =
        true := by decide +kernel
  obtain ⟨job, built, differs⟩ := (Option.any_eq_true _ _).mp computed
  have same := claim detour occupied job job (toOption_eq_some.mp built) .start occupied
  simp [same] at differs

end Workspace
end HazardJob
