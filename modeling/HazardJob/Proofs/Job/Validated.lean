import HazardJob.Proofs.Files.Directory
import HazardJob.Proofs.Job.Independence

/-! What validation leaves of a job and of the files around it. A job that passes is the job as it
was built with three fields settled, and it passes again. -/
namespace HazardJob

namespace Check

/-- What the check leaves of a job that passes it. -/
def leaves (c : Check) (job : Job) : Job :=
  match c with
  | intensityMeasureTypes => job.dropImtList
  | disaggregation => job.derivePoes
  | derivedFields => job.deriveMeshSpacing
  | _ => job

theorem job_of_run {c : Check} {w v : Workspace} (passed : c.run w = (none, v)) :
    v.job = c.leaves w.job := by
  have left : (c.run w).2 = v := congrArg Prod.snd passed
  cases c with
  | intensityMeasureTypes =>
    simp only [run] at passed
    split at passed
    · cases passed
    · cases congrArg Prod.snd passed
      rfl
  | _ => exact left ▸ rfl

/-- A check leaves the job as it is, or leaves its trace. -/
theorem left_of_run (c : Check) (w : Workspace) :
    (c.run w).2.job = w.job ∨ (c.run w).2.job = c.leaves w.job := by
  cases c with
  | intensityMeasureTypes =>
    simp only [run]
    split
    · exact .inl rfl
    · exact .inr rfl
  | _ => exact .inr rfl

end Check

namespace Workspace

theorem job_of_runChecks {cs : List Check} {w v : Workspace}
    (passed : w.runChecks cs = (.ok (), v)) : v.job = cs.foldl (fun job c => c.leaves job) w.job := by
  induction cs generalizing w with
  | nil =>
    cases passed
    rfl
  | cons check more ih =>
    rw [runChecks] at passed
    split at passed
    · rename_i left found
      rw [List.foldl_cons, ← Check.job_of_run found]
      exact ih passed
    · cases passed

/-- A job that passes is marked, and it is complete. -/
theorem job_of_validate {w v : Workspace} (passed : w.validate = (.ok (), v)) :
    v.job = { w.job.dropImtList.derivePoes.deriveMeshSpacing with validated := true } := by
  unfold validate at passed
  split at passed
  · rename_i left ran
    cases passed
    exact congrArg (fun job : Job => { job with validated := true }) (job_of_runChecks ran)
  · rename_i failed
    cases failed _ passed

/-- What every check keeps is kept by a run of checks, wherever it ends. -/
theorem runChecks_keeps {P : Workspace → Prop} {cs : List Check}
    (step : ∀ c ∈ cs, ∀ v, P v → P (c.run v).2) {w : Workspace} (start : P w) :
    P (w.runChecks cs).2 := by
  induction cs generalizing w with
  | nil => exact start
  | cons check more ih =>
    have here := step check List.mem_cons_self w start
    rw [runChecks]
    split
    · rename_i left found
      rw [found] at here
      exact ih (fun c member => step c (List.mem_cons_of_mem _ member)) here
    · rename_i left found
      rw [found] at here
      exact here

theorem runChecks_core (cs : List Check) {w : Workspace} (settled : w.job.PoesSettled) :
    (w.runChecks cs).2.job.core = w.job.core :=
  runChecks_keeps (P := fun v => v.job.core = w.job.core)
    (fun c _ _ same => (Check.run_core (settled.of_core same.symm) c).trans same) rfl

theorem runChecks_files {cs : List Check} (noFiles : .exportDir ∉ cs) (w : Workspace) :
    (w.runChecks cs).2.files = w.files := by
  refine runChecks_keeps (P := fun v => v.files = w.files) (fun c member v same => ?_) rfl
  cases c with
  | exportDir => exact absurd member noFiles
  | intensityMeasureTypes => simp only [Check.run]; split <;> exact same
  | _ => exact same

/-- What the run of the checks leaves and the mark keeps is left by validation. -/
theorem validate_keeps {P : Workspace → Prop} {w : Workspace} (mark : ∀ v, P v → P v.markValidated)
    (checked : P (w.runChecks Check.all).2) : P w.validate.2 := by
  unfold validate
  split
  · rename_i left passed
    rw [passed] at checked
    exact mark left checked
  · exact checked

theorem validate_core {w : Workspace} (settled : w.job.PoesSettled) :
    w.validate.2.job.core = w.job.core :=
  validate_keeps (P := fun v => v.job.core = w.job.core) (fun _ same => same)
    (runChecks_core Check.all settled)

/-- Validation touches the files only to provide the export directory. -/
theorem validate_files (w : Workspace) :
    w.validate.2.files = (w.files.provideExportDir w.job.params.exportDir).2 := by
  have checked : (w.runChecks Check.all).2.files =
      (w.files.provideExportDir w.job.params.exportDir).2 := by
    have all : Check.all = .exportDir :: Check.all.tail := rfl
    rw [all, runChecks]
    split
    · rename_i left found
      rw [runChecks_files (by decide)]
      exact congrArg (·.2.files) found.symm
    · rename_i left found
      exact congrArg (·.2.files) found.symm
  exact validate_keeps (P := fun v => v.files = _) (fun _ same => same) checked

/-- What passes once passes again, whatever the first run has left. -/
theorem validate_again {w v : Workspace} (settled : w.job.PoesSettled)
    (passed : w.validate = (.ok (), v)) : v.validate.1 = .ok () := by
  have core : v.job.core = w.job.core := by
    rw [← validate_core settled, passed]
  have exportDir : v.job.params.exportDir = w.job.params.exportDir :=
    congrArg (·.params.exportDir) core
  have files := validate_files w
  rw [passed] at files
  have each := (validate_ok_iff settled).mp (congrArg Prod.fst passed)
  refine (validate_ok_iff (settled.of_core core.symm)).mpr fun c => ?_
  by_cases first : c = .exportDir
  · subst first
    have provided : w.files.provideExportDir w.job.params.exportDir = (none, v.files) :=
      Prod.ext (each .exportDir) files.symm
    show (v.files.provideExportDir v.job.params.exportDir).1 = none
    rw [exportDir, FileTree.provideExportDir_again provided]
  · rw [Check.finding_core core fun same => absurd same first]
    exact each c

end Workspace
end HazardJob
