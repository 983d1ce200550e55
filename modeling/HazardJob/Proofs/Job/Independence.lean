import HazardJob.Job.Draft

/-! No check disturbs another. The checks run in sequence and leave traces, but once the
probabilities of exceedance of a disaggregation are settled no trace changes what a later check
reads: a run passes if each check passes on the job as it stands. -/
namespace HazardJob

namespace Job

/-- The part of a job that checks read: not the findings, not the mark, and not the two fields
that a check drops or fills in without another check looking at them. -/
def core (job : Job) : Job :=
  { job with
    params := { job.params with imtList := [], complexFaultMeshSpacing := none }
    diagnostics := []
    validated := false }

/-- A disaggregation with target probabilities has probabilities of exceedance. -/
def PoesSettled (job : Job) : Prop :=
  job.mode = .disaggregation → job.params.poesDisagg ≠ [] → job.params.poes ≠ []

theorem PoesSettled.of_core {a b : Job} (same : a.core = b.core) (settled : a.PoesSettled) :
    b.PoesSettled := by
  have mode : a.mode = b.mode := congrArg (·.params.calculationMode) same
  have targets : a.params.poesDisagg = b.params.poesDisagg := congrArg (·.params.poesDisagg) same
  have poes : a.params.poes = b.params.poes := congrArg (·.params.poes) same
  simpa only [PoesSettled, mode, targets, poes] using settled

theorem derivePoes_of_settled {job : Job} (settled : job.PoesSettled) : job.derivePoes = job := by
  unfold derivePoes
  dsimp only
  split
  · rename_i derives
    simp only [Bool.and_eq_true, beq_iff_eq, Bool.not_eq_true', List.isEmpty_eq_false_iff,
      List.isEmpty_iff] at derives
    exact absurd derives.2 (settled derives.1.1 derives.1.2)
  · rfl

theorem derivePoes_settled (job : Job) : job.derivePoes.PoesSettled := by
  unfold derivePoes
  dsimp only
  split
  · rename_i derives
    intro _ targets
    exact targets
  · rename_i keeps
    intro mode targets poes
    exact keeps (by simp [mode, poes, targets])

theorem oneImtSource_dropImtList (job : Job) : job.dropImtList.params.imtLevels.isSome = true →
    job.dropImtList.params.imtList = [] := by
  unfold dropImtList
  split
  · exact fun _ => rfl
  · rename_i kept
    intro levels
    simpa [levels] using kept

theorem dropImtList_of_oneSource {job : Job}
    (oneSource : job.params.imtLevels.isSome = true → job.params.imtList = []) :
    job.dropImtList = job := by
  unfold dropImtList
  rw [if_neg]
  simp only [Bool.and_eq_true, not_and]
  intro levels
  simp [oneSource levels]

theorem meshSpacing_deriveMeshSpacing (job : Job) :
    job.deriveMeshSpacing.params.complexFaultMeshSpacing.isSome = true := by
  unfold deriveMeshSpacing
  dsimp only
  split
  · rfl
  · rename_i given
    simpa [Option.isSome_iff_ne_none] using given

theorem deriveMeshSpacing_of_given {job : Job}
    (given : job.params.complexFaultMeshSpacing.isSome = true) : job.deriveMeshSpacing = job := by
  obtain ⟨spacing, some⟩ := Option.isSome_iff_exists.mp given
  simp [deriveMeshSpacing, some]

theorem core_dropImtList (job : Job) : job.dropImtList.core = job.core := by
  unfold dropImtList
  split <;> rfl

theorem core_deriveMeshSpacing (job : Job) : job.deriveMeshSpacing.core = job.core := by
  unfold deriveMeshSpacing
  dsimp only
  split <;> rfl

end Job

namespace Check

theorem mem_all (c : Check) : c ∈ all := by cases c <;> decide

/-- No check changes the core of a settled job. -/
theorem run_core {w : Workspace} (settled : w.job.PoesSettled) (c : Check) :
    (c.run w).2.job.core = w.job.core := by
  cases c with
  | intensityMeasureTypes =>
    simp only [run]
    split
    · rfl
    · exact w.job.core_dropImtList
  | disaggregation => exact congrArg Job.core (Job.derivePoes_of_settled settled)
  | derivedFields => exact w.job.core_deriveMeshSpacing
  | _ => rfl

/-- A check finds the same in two jobs with one core; only the first one looks at the files. -/
theorem finding_core {w v : Workspace} (same : w.job.core = v.job.core) {c : Check}
    (files : c = .exportDir → w.files = v.files) : (c.run w).1 = (c.run v).1 := by
  have reads (u : Workspace) : (c.run u).1 = (c.run ⟨u.files, u.job.core⟩).1 := by
    cases c with
    | intensityMeasureTypes =>
      have levels : u.job.levelsViolation? = u.job.core.levelsViolation? := rfl
      have imts : u.job.imtsViolation? = u.job.core.imtsViolation? := rfl
      simp only [run, levels, imts]
      split <;> rfl
    | _ => rfl
  rw [reads w, reads v, same]
  cases c with
  | exportDir => rw [files rfl]
  | intensityMeasureTypes => simp only [run]; split <;> rfl
  | _ => rfl

end Check

namespace Workspace

/-- The run of checks that do not look at files passes if each of them passes where it starts. -/
theorem runChecks_ok_iff (cs : List Check) (noFiles : .exportDir ∉ cs) {w : Workspace}
    (settled : w.job.PoesSettled) :
    (w.runChecks cs).1 = .ok () ↔ ∀ c ∈ cs, (c.run w).1 = none := by
  induction cs generalizing w with
  | nil => simp [runChecks]
  | cons check more ih =>
    simp only [List.mem_cons, not_or] at noFiles
    have core := Check.run_core settled check
    have later := ih noFiles.2 (settled.of_core core.symm)
    have unmoved : ∀ c ∈ more, (c.run (check.run w).2).1 = (c.run w).1 := fun c member =>
      Check.finding_core core fun first => absurd (first ▸ member) noFiles.2
    rw [runChecks]
    split
    · rename_i left found
      rw [found] at later unmoved
      rw [later, List.forall_mem_cons, found]
      simp only [true_and]
      exact forall₂_congr fun c member => by rw [unmoved c member]
    · rename_i left found
      simp [found]

theorem validate_fst (w : Workspace) : w.validate.1 = (w.runChecks Check.all).1 := by
  unfold validate
  split
  · rename_i passed; rw [passed]
  · rfl

/-- Validation of a settled job passes if every check passes on the job as it stands. -/
theorem validate_ok_iff {w : Workspace} (settled : w.job.PoesSettled) :
    w.validate.1 = .ok () ↔ ∀ c : Check, (c.run w).1 = none := by
  have later := runChecks_ok_iff Check.all.tail (by decide)
    (w := (Check.exportDir.run w).2) settled
  have unmoved : ∀ c ∈ Check.all.tail, (c.run (Check.exportDir.run w).2).1 = (c.run w).1 :=
    fun c member => Check.finding_core (Check.run_core settled .exportDir) fun first =>
      absurd member (first ▸ by decide)
  have all : Check.all = .exportDir :: Check.all.tail := rfl
  rw [validate_fst, all, runChecks]
  split
  · rename_i left found
    rw [found] at later unmoved
    rw [later]
    constructor
    · intro passed c
      rcases List.mem_cons.mp (all ▸ c.mem_all) with first | member
      · rw [first, found]
      · rw [← unmoved c member]; exact passed c member
    · intro passed c member
      rw [unmoved c member]; exact passed c
  · rename_i violation left found
    simp only [reduceCtorEq, false_iff]
    intro passed
    simpa [found] using passed .exportDir

end Workspace
end HazardJob
