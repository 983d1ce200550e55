import HazardJob.Proofs.Job.RiskMeasures

/-! Levels of a job. Those that a job is built with increase strictly, and no operation changes levels
once they are in effect; a risk model however brings levels that nothing has looked at. So the levels
of a job increase for as long as those do that risk models bring for measures not yet in effect. -/
namespace HazardJob

namespace ImtLevels

/-- Levels that are proper as far as there are any. -/
def Sound (levels : List Binary64) : Prop := levels = [] ∨ Ascending levels

instance (levels : List Binary64) : Decidable (Sound levels) := instDecidableOr

/-- After several extensions the first map that knows a key decides. -/
theorem get?_extendAll (spec : ImtLevels) (risks : List ImtLevels) (imt : Imt) :
    (risks.foldl SortedMap.extend spec).get? imt =
      (spec.get? imt).or (risks.findSome? (·.get? imt)) := by
  induction risks generalizing spec with
  | nil => simp
  | cons risk more ih =>
    rw [List.foldl_cons, ih, SortedMap.get?_extend, Option.or_assoc, List.findSome?_cons]
    cases risk.get? imt <;> rfl

theorem mem_values_iff {spec : ImtLevels} {levels : List Binary64} :
    levels ∈ spec.values ↔ ∃ imt, spec.get? imt = some levels := by
  simp only [SortedMap.get?_eq_some_iff, SortedMap.values, List.mem_map, Prod.exists,
    exists_eq_right]

end ImtLevels

namespace Draft

open ImtLevels

/-- Levels that a job is built with have been read, and so are proper. -/
theorem sound_built {d : Draft} {files : FileTree} {job : Job} (built : d.build files = .ok job) :
    ∀ levels ∈ job.measures.values, Sound levels := by
  intro levels member
  rw [measures_built built, measuresOf] at member
  cases stands : job.params.imtLevels with
  | none =>
    rw [stands] at member
    obtain ⟨e, listed, rfl⟩ := List.mem_map.mp (SortedMap.mem_values_ofList member)
    obtain ⟨imt, -, rfl⟩ := List.mem_map.mp listed
    exact .inl rfl
  | some spec =>
    rw [stands] at member
    have value : job.params.get? .imtLevels = some (.imtLevels spec) := by
      simp [JobParams.get?, stands]
    rcases (sourced_built built).rule_read value with null | ⟨text, read⟩
    · cases null
    · obtain ⟨other, found, equal⟩ := fmap_eq_ok.mp read
      cases equal
      exact .inr (proper_of_ofText (mapError_eq_ok.mp found) levels member).ascending

end Draft

namespace Workspace

open ImtLevels

/-- The risk model that an operation brings. -/
def Operation.risk? {σ : Type} : Operation σ → Option ImtLevels
  | setRiskImts risk => some risk
  | _ => none

section Operations

variable {σ : Type}

theorem reached_ensureValidated {job : Job} {w : Workspace} (reached : job.Reached w.job) :
    job.Reached w.ensureValidated.2.job := by
  unfold ensureValidated
  split
  · exact reached
  · exact reached.validate w.files

theorem reached_perform {job : Job} {w : Workspace} (reached : job.Reached w.job)
    (op : Operation σ) (s : σ) : job.Reached (op.perform w s).1.job := by
  cases op with
  | validate => exact reached.validate w.files
  | setRegions regions => exact reached.setRegions regions
  | setRiskImts risk => exact reached.setRiskImts risk
  | launch calculator id =>
    simp only [Operation.perform, launch_job]
    exact reached_ensureValidated reached

theorem reached_performAll {job : Job} {w : Workspace} (reached : job.Reached w.job)
    (ops : List (Operation σ)) (s : σ) : job.Reached (performAll ops w s).1.job := by
  induction ops generalizing w s with
  | nil => exact reached
  | cons op more ih => exact ih (reached_perform reached op s) _

theorem measures_ensureValidated {w : Workspace} (settled : w.job.PoesSettled) :
    w.ensureValidated.2.job.measures = w.job.measures := by
  unfold ensureValidated
  split
  · rfl
  · exact congrArg (·.measures) (validate_core settled)

/-- Only risk models add measures. -/
theorem measures_perform {w : Workspace} (settled : w.job.PoesSettled) (op : Operation σ) (s : σ) :
    (op.perform w s).1.job.measures = op.risk?.toList.foldl SortedMap.extend w.job.measures := by
  cases op with
  | validate => exact congrArg (·.measures) (validate_core settled)
  | setRegions regions => rfl
  | setRiskImts risk => exact Job.measures_setRiskImts w.job risk
  | launch calculator id =>
    simp only [Operation.perform, launch_job]
    exact measures_ensureValidated settled

theorem measures_performAll {job : Job} {w : Workspace} (reached : job.Reached w.job)
    (settled : job.PoesSettled) (ops : List (Operation σ)) (s : σ) :
    (performAll ops w s).1.job.measures =
      (ops.filterMap Operation.risk?).foldl SortedMap.extend w.job.measures := by
  induction ops generalizing w s with
  | nil => rfl
  | cons op more ih =>
    have here := measures_perform (reached.settled settled) op s
    have later := ih (reached_perform reached op s) (op.perform w s).2
    rw [here] at later
    apply later.trans
    cases brought : op.risk? with
    | none => simp [brought]
    | some risk => simp [brought]

end Operations

/-- After any operations on a job that was built, its levels are proper, those in effect and those in
its parameters, exactly if those are that a risk model was the first one to bring. -/
theorem levels_sound_iff {σ : Type} {d : Draft} {files : FileTree} {job : Job}
    (built : d.build files = .ok job) (later : FileTree) (ops : List (Operation σ)) (s : σ) :
    ((∀ levels ∈ (performAll ops ⟨later, job⟩ s).1.job.measures.values, Sound levels) ∧
        ∀ spec, (performAll ops ⟨later, job⟩ s).1.job.params.imtLevels = some spec →
          ∀ levels ∈ spec.values, Sound levels) ↔
      ∀ imt levels, job.measures.contains imt = false →
        (ops.filterMap Operation.risk?).findSome? (·.get? imt) = some levels → Sound levels := by
  have settled := Draft.build_settled built
  have reached := reached_performAll (w := ⟨later, job⟩) .start ops s
  have measures := measures_performAll (w := ⟨later, job⟩) .start settled ops s
  have within := (reached.aligned settled (Job.aligned_built built)).within
  generalize (performAll ops ⟨later, job⟩ s).1.job = left at measures within
  constructor
  · rintro ⟨inEffect, -⟩ imt levels new brought
    have unknown : job.measures.get? imt = none := by simpa [SortedMap.contains] using new
    apply inEffect levels
    rw [mem_values_iff, measures]
    exact ⟨imt, by rw [get?_extendAll, unknown, brought]; rfl⟩
  · intro sound
    have inEffect : ∀ levels ∈ left.measures.values, Sound levels := by
      intro levels member
      obtain ⟨imt, stands⟩ := mem_values_iff.mp member
      rw [measures, get?_extendAll] at stands
      cases known : job.measures.get? imt with
      | some own =>
        rw [known] at stands
        cases stands
        exact Draft.sound_built built levels (mem_values_iff.mpr ⟨imt, known⟩)
      | none =>
        rw [known] at stands
        exact sound imt levels (by simp [SortedMap.contains, known]) stands
    refine ⟨inEffect, ?_⟩
    intro spec given levels member
    obtain ⟨imt, stands⟩ := mem_values_iff.mp member
    apply inEffect levels
    have said : Draft.measuresOf left.params = spec := by simp [Draft.measuresOf, given]
    exact mem_values_iff.mpr ⟨imt, within imt levels (by rw [said]; exact stands)⟩

/-- A scenario with levels for one measure. -/
def levelled : Draft :=
  Draft.scenario.set "intensity_measure_types_and_levels" (some "\x7b'PGA': [0.1, 0.2]\x7d")

/-- A risk model for ground velocity, with two levels in tenths. -/
def velocityRisk (first second : Nat) : ImtLevels :=
  SortedMap.ofList [(.scalar .pgv, [.ofDecimal false first (-1), .ofDecimal false second (-1)])]

/-- Validating a job, and making it fit for a risk model. -/
def validateFor (risk : ImtLevels) : List (Operation Unit) := [.validate, .setRiskImts risk]

theorem levels_velocity : ∃ job, levelled.build ⟨[], []⟩ = .ok job ∧
    let left := (performAll (validateFor (velocityRisk 1 3)) ⟨⟨[], []⟩, job⟩ ()).1.job
    left.params.imtLevels = some left.measures ∧ left.measures.size = 2 ∧
      ∀ levels ∈ left.measures.values, Sound levels := by
  have computed : ((levelled.build ⟨[], []⟩).toOption.any fun job =>
      let left := (performAll (validateFor (velocityRisk 1 3)) ⟨⟨[], []⟩, job⟩ ()).1.job
      decide (left.params.imtLevels = some left.measures ∧ left.measures.size = 2)) = true := by
    decide +kernel
  obtain ⟨job, built, found⟩ := any_toOption_iff.mp computed
  obtain ⟨taken, size⟩ := of_decide_eq_true found
  have brought : (validateFor (velocityRisk 1 3)).filterMap Operation.risk? = [velocityRisk 1 3] := rfl
  have each : ∀ levels ∈ (velocityRisk 1 3).values, Sound levels := by decide +kernel
  refine ⟨job, built, taken, size, ?_⟩
  apply ((levels_sound_iff built ⟨[], []⟩ (validateFor (velocityRisk 1 3)) ()).mpr ?_).1
  intro imt levels _ first
  rw [brought, List.findSome?_singleton] at first
  exact each levels (mem_values_iff.mpr ⟨imt, first⟩)

/-- A risk model may bring levels that decrease, and they are taken over. -/
theorem levels_decreasing : ¬∀ (d : Draft) (files : FileTree) (job j : Job),
    d.build files = .ok job → job.Reached j →
      (∀ levels ∈ j.measures.values, Sound levels) ∧
        ∀ spec, j.params.imtLevels = some spec → ∀ levels ∈ spec.values, Sound levels := by
  intro claim
  have computed : ((levelled.build ⟨[], []⟩).toOption.any fun job =>
      decide (¬∀ levels ∈ (job.setRiskImts (velocityRisk 3 1)).2.measures.values, Sound levels)) =
        true := by decide +kernel
  obtain ⟨job, built, unsound⟩ := any_toOption_iff.mp computed
  have sound := claim levelled ⟨[], []⟩ job _ built
    (.setRiskImts (velocityRisk 3 1) .start)
  exact of_decide_eq_true unsound sound.1

end Workspace
end HazardJob
