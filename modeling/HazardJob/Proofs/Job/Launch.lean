import HazardJob.Calculator
import HazardJob.Proofs.Job.Consistency
import HazardJob.Proofs.Job.Validated
import HazardJob.Proofs.SortedMap

/-! What a calculator is handed. The mark of a validated job outlives the operations that replace
its regions and add measures, so that of all conditions of validation four can fail on a job that a
calculator runs on, and the others cannot. -/
namespace HazardJob

namespace Job

/-- The part of a job that no operation changes. -/
def frame (job : Job) : Job :=
  { job.core with
    params := { job.core.params with imtLevels := none }
    regions := ∅
    measures := ∅ }

theorem frame_of_core {a b : Job} (same : a.core = b.core) : a.frame = b.frame := by
  unfold frame
  rw [same]

/-- No condition looks at what validation derives, findings or the mark. -/
theorem consistent_core {files : FileTree} {job : Job} :
    Consistent files job.core ↔ Consistent files job :=
  ⟨fun consistent => { consistent with }, fun consistent => { consistent with }⟩

/-- Measures are added, and none is taken away. -/
structure Grows (a b : Job) : Prop where
  frame : a.frame = b.frame
  contains : ∀ imt, a.measures.contains imt = true → b.measures.contains imt = true
  isEmpty : a.measures.isEmpty = false → b.measures.isEmpty = false

theorem Grows.of_core {a b : Job} (same : a.core = b.core) : Grows a b where
  frame := frame_of_core same
  contains := by
    have measures : a.measures = b.measures := congrArg (·.measures) same
    simp [measures]
  isEmpty := by
    have measures : a.measures = b.measures := congrArg (·.measures) same
    simp [measures]

theorem Grows.settled {a b : Job} (grows : Grows a b) (settled : a.PoesSettled) : b.PoesSettled := by
  have mode : a.mode = b.mode := congrArg (·.params.calculationMode) grows.frame
  have targets : a.params.poesDisagg = b.params.poesDisagg :=
    congrArg (·.params.poesDisagg) grows.frame
  have poes : a.params.poes = b.params.poes := congrArg (·.params.poes) grows.frame
  simpa only [PoesSettled, mode, targets, poes] using settled

theorem lasting_frame {files : FileTree} {job : Job} :
    Lasting files { job.frame with measures := job.measures } ↔ Lasting files job :=
  ⟨fun lasting => { lasting with }, fun lasting => { lasting with }⟩

theorem Grows.lasting {files : FileTree} {a b : Job} (grows : Grows a b)
    (lasting : a.Lasting files) : b.Lasting files := by
  have framed := lasting_frame.mpr lasting
  rw [grows.frame] at framed
  have inputs : a.inputs = b.inputs := congrArg (·.inputs) grows.frame
  have imlDisagg : a.params.imlDisagg = b.params.imlDisagg :=
    congrArg (·.params.imlDisagg) grows.frame
  have calculation : a.params.hazardCalculationId = b.params.hazardCalculationId :=
    congrArg (·.params.hazardCalculationId) grows.frame
  refine lasting_frame.mp { framed with
    measures := fun risk id => grows.isEmpty (lasting.measures ?_ ?_)
    imlDisagg := fun imt key => grows.contains imt (lasting.imlDisagg imt ?_) }
  · rw [inputs]; exact risk
  · rw [calculation]; exact id
  · rw [imlDisagg]; exact key

theorem Grows.trans {a b c : Job} (first : Grows a b) (second : Grows b c) : Grows a c where
  frame := first.frame.trans second.frame
  contains imt given := second.contains imt (first.contains imt given)
  isEmpty given := second.isEmpty (first.isEmpty given)

theorem setRegions_grows (job : Job) (regions : RegionSet) : Grows job (job.setRegions regions) :=
  ⟨rfl, fun _ given => given, id⟩

theorem addMeasures_grows (job : Job) (risk : ImtLevels) : Grows job (job.addMeasures risk) := by
  refine ⟨rfl, ?_, ?_⟩ <;> unfold addMeasures <;> dsimp only
  · intro imt
    generalize risk.toList = entries
    generalize job.measures = measures
    induction entries generalizing measures with
    | nil => exact id
    | cons e more ih =>
      intro given
      refine ih _ ?_
      unfold SortedMap.contains at given ⊢
      rw [SortedMap.get?_insertNew]
      split
      · rfl
      · exact given
  · generalize risk.toList = entries
    generalize job.measures = measures
    induction entries generalizing measures with
    | nil => exact id
    | cons e more ih =>
      intro given
      exact ih _ (SortedMap.isEmpty_insertNew measures e.1 e.2 given)

theorem syncParams_grows (job : Job) : Grows job job.syncParams := by
  unfold syncParams
  split
  · exact ⟨rfl, fun _ given => given, id⟩
  split
  · exact ⟨rfl, fun _ given => given, id⟩
  · exact ⟨rfl, fun _ given => given, id⟩

theorem setRiskImts_grows (job : Job) (risk : ImtLevels) : Grows job (job.setRiskImts risk).2 := by
  have checked (j : Job) : Grows j j.checkSpectrum.2 := by
    unfold checkSpectrum
    repeat' split
    all_goals exact ⟨rfl, fun _ given => given, id⟩
  exact ((job.addMeasures_grows risk).trans (syncParams_grows _)).trans (checked _)

theorem setRiskImts_validated (job : Job) (risk : ImtLevels) :
    (job.setRiskImts risk).2.validated = job.validated := by
  have synced (j : Job) : j.syncParams.validated = j.validated := by
    unfold syncParams
    repeat' split
    all_goals rfl
  have checked (j : Job) : j.checkSpectrum.2.validated = j.validated := by
    unfold checkSpectrum
    repeat' split
    all_goals rfl
  exact (checked _).trans (synced _)

end Job

namespace Workspace

theorem runChecks_validated (cs : List Check) (w : Workspace) :
    (w.runChecks cs).2.job.validated = w.job.validated := by
  refine runChecks_keeps (P := fun v => v.job.validated = w.job.validated)
    (fun c _ v unmarked => ?_) rfl
  rw [← unmarked]
  cases c with
  | intensityMeasureTypes =>
    simp only [Check.run, Job.dropImtList]
    repeat' split
    all_goals rfl
  | disaggregation =>
    simp only [Check.run, Job.derivePoes]
    split <;> rfl
  | derivedFields =>
    simp only [Check.run, Job.deriveMeshSpacing]
    split <;> rfl
  | _ => rfl

/-- A job that has passed validation is consistent with the files that were around it. -/
theorem consistent_of_validate {w v : Workspace} (settled : w.job.PoesSettled)
    (passed : w.validate = (.ok (), v)) : v.job.Consistent w.files := by
  have consistent := (validate_ok_iff_consistent settled).mp (congrArg Prod.fst passed)
  have core := validate_core settled
  rw [passed] at core
  exact Job.consistent_core.mp (core ▸ Job.consistent_core.mpr consistent)

/-- A job is marked if it passes, and keeps an earlier mark if it does not. -/
theorem validate_validated (w : Workspace) :
    w.validate.2.job.validated = true ↔ w.validate.1 = .ok () ∨ w.job.validated = true := by
  have unmarked := runChecks_validated Check.all w
  unfold validate
  split
  · simp [markValidated]
  · rename_i failed
    rw [unmarked]
    cases result : (w.runChecks Check.all).1 with
    | ok => exact (failed _ (Prod.ext result rfl)).elim
    | error e => simp

/-- What holds of a job after any operations: once it is marked, the conditions that no operation
upsets hold, and its export directory is there. -/
structure Upheld (w : Workspace) : Prop where
  settled : w.job.PoesSettled
  lasting : w.job.validated = true → w.job.Lasting w.files
  ready : w.job.validated = true →
    w.files.provideExportDir w.job.params.exportDir = (none, w.files)

theorem Upheld.grow {w : Workspace} (upheld : w.Upheld) {job : Job} (grows : w.job.Grows job)
    (mark : job.validated = w.job.validated) : Upheld { w with job } where
  settled := grows.settled upheld.settled
  lasting marked := grows.lasting (upheld.lasting (mark ▸ marked))
  ready marked := by
    have exportDir : w.job.params.exportDir = job.params.exportDir :=
      congrArg (·.params.exportDir) grows.frame
    simpa only [exportDir] using upheld.ready (mark ▸ marked)

theorem Upheld.validate {w : Workspace} (upheld : w.Upheld) : Upheld w.validate.2 := by
  have core := validate_core upheld.settled
  have exportDir : w.validate.2.job.params.exportDir = w.job.params.exportDir :=
    congrArg (·.params.exportDir) core
  have settled := upheld.settled.of_core core.symm
  have provided (marked : w.validate.2.job.validated = true) :
      w.job.Lasting w.files ∧
        w.files.provideExportDir w.job.params.exportDir = (none, w.validate.2.files) := by
    rw [validate_files]
    rcases w.validate_validated.mp marked with passed | before
    · have consistent := (validate_ok_iff_consistent upheld.settled).mp passed
      exact ⟨consistent.toLasting,
        Prod.ext ((w.files.provides_iff _).mpr consistent.exportDir) rfl⟩
    · exact ⟨upheld.lasting before, by rw [upheld.ready before]⟩
  refine ⟨settled, fun marked => ?_, fun marked => ?_⟩
  · obtain ⟨lasting, ready⟩ := provided marked
    have again := FileTree.provideExportDir_again ready
    have grown := (Job.Grows.of_core core.symm).lasting lasting
    exact { grown with
      exportDir := exportDir ▸ (FileTree.provides_iff _ _).mp (congrArg Prod.fst again) }
  · rw [exportDir]
    exact FileTree.provideExportDir_again (provided marked).2

theorem Upheld.ensureValidated {w : Workspace} (upheld : w.Upheld) :
    Upheld w.ensureValidated.2 := by
  unfold Workspace.ensureValidated
  split
  · exact upheld
  · exact upheld.validate

/-- Of a marked job four conditions decide if it would still pass. -/
theorem Upheld.validate_ok_iff {w : Workspace} (upheld : w.Upheld)
    (marked : w.job.validated = true) :
    w.validate.1 = .ok () ↔ w.job.CoversRegions ∧ w.job.HasLevels ∧ w.job.GsimsAccept ∧
      w.job.CorrelationAccepts := by
  rw [validate_ok_iff_consistent upheld.settled]
  constructor
  · intro consistent
    exact ⟨consistent.coversRegions, consistent.hasLevels, consistent.gsimsAccept,
      consistent.correlationAccepts⟩
  · rintro ⟨coversRegions, hasLevels, gsimsAccept, correlationAccepts⟩
    exact { upheld.lasting marked with coversRegions, hasLevels, gsimsAccept, correlationAccepts }

/-- What can be done to a job once it is built. -/
inductive Operation (σ : Type) where
  | validate
  | setRegions (regions : RegionSet)
  | setRiskImts (risk : ImtLevels)
  | launch (calculator : Calculator σ) (id : CalculationId)

/-- What an operation leaves, be it a success or not. -/
def Operation.perform {σ : Type} (op : Operation σ) (w : Workspace) (s : σ) : Workspace × σ :=
  match op with
  | validate => (w.validate.2, s)
  | setRegions regions => ({ w with job := w.job.setRegions regions }, s)
  | setRiskImts risk => ({ w with job := (w.job.setRiskImts risk).2 }, s)
  | launch calculator id => (w.launch calculator id s).2

/-- What operations in turn leave. -/
def performAll {σ : Type} (ops : List (Operation σ)) (w : Workspace) (s : σ) : Workspace × σ :=
  ops.foldl (fun left op => op.perform left.1 left.2) (w, s)

theorem launch_job {σ : Type} (w : Workspace) (calculator : Calculator σ)
    (id : CalculationId) (s : σ) : (w.launch calculator id s).2.1 = w.ensureValidated.2 := by
  unfold launch
  split <;> rename_i result <;> rw [result]

/-- A launch that is not refused runs the calculator, on the job that it leaves. -/
theorem launch_ran {σ : Type} {w handed : Workspace} {calculator : Calculator σ}
    {id : CalculationId} {s t : σ} {result : Except LaunchError Unit}
    (launched : w.launch calculator id s = (result, handed, t))
    (started : ∀ e, result ≠ .error (.notStarted id e)) :
    w.ensureValidated = (.ok (), handed) ∧
      calculator.run handed.job id s = ((calculator.run handed.job id s).1, t) ∧
      result = (calculator.run handed.job id s).1.mapError (.failed id) := by
  unfold launch at launched
  split at launched
  · rename_i e left refused
    simp only [Prod.mk.injEq] at launched
    exact absurd launched.1.symm (started e)
  · rename_i left passed
    simp only [Prod.mk.injEq] at launched
    obtain ⟨rfl, rfl, rfl⟩ := launched
    exact ⟨passed, rfl, rfl⟩

theorem Upheld.perform {σ : Type} (op : Operation σ) {w : Workspace} (upheld : w.Upheld) (s : σ) :
    Upheld (op.perform w s).1 := by
  cases op with
  | validate => exact upheld.validate
  | setRegions regions => exact upheld.grow (w.job.setRegions_grows regions) rfl
  | setRiskImts risk =>
    exact upheld.grow (w.job.setRiskImts_grows risk) (w.job.setRiskImts_validated risk)
  | launch calculator id =>
    simp only [Operation.perform, launch_job]
    exact upheld.ensureValidated

theorem Upheld.performAll {σ : Type} (ops : List (Operation σ)) {w : Workspace}
    (upheld : w.Upheld) (s : σ) : Upheld (performAll ops w s).1 := by
  induction ops generalizing w s with
  | nil => exact upheld
  | cons op more ih => exact ih (upheld.perform op s) _

theorem ensureValidated_marked {w handed : Workspace}
    (passed : w.ensureValidated = (.ok (), handed)) : handed.job.validated = true := by
  unfold ensureValidated at passed
  split at passed
  · rename_i marked
    cases passed
    exact marked
  · have left : w.validate.2 = handed := congrArg Prod.snd passed
    rw [← left, validate_validated]
    exact .inl (congrArg Prod.fst passed)

theorem upheld_built {d : Draft} {files : FileTree} {job : Job} (built : d.build files = .ok job)
    (later : FileTree) : Upheld ⟨later, job⟩ := by
  have unmarked : job.validated = false := by
    obtain ⟨params, tree?, -, -, -, -, rfl⟩ := Draft.build_ok built
    unfold Job.derivePoes
    dsimp only
    split <;> rfl
  exact ⟨Draft.build_settled built, fun marked => by simp [unmarked] at marked,
    fun marked => by simp [unmarked] at marked⟩

/-- When a calculator is started, after any operations on a job that was built, it runs on the job
that the launch leaves, and validating that job again passes exactly if its maximum distance covers
its regions, it has the levels that it needs, and its models accept its measures. -/
theorem launched_valid_iff {σ : Type} {d : Draft} {files : FileTree} {job : Job}
    (built : d.build files = .ok job) (later : FileTree) (ops : List (Operation σ)) (s : σ)
    {calculator : Calculator σ} {id : CalculationId} {result : Except LaunchError Unit}
    {handed : Workspace} {t : σ}
    (launched : (performAll ops ⟨later, job⟩ s).1.launch calculator id
      (performAll ops ⟨later, job⟩ s).2 = (result, handed, t))
    (started : ∀ e, result ≠ .error (.notStarted id e)) :
    result = (calculator.run handed.job id (performAll ops ⟨later, job⟩ s).2).1.mapError
        (.failed id) ∧
      (handed.validate.1 = .ok () ↔ handed.job.CoversRegions ∧ handed.job.HasLevels ∧
        handed.job.GsimsAccept ∧ handed.job.CorrelationAccepts) := by
  obtain ⟨passed, -, ran⟩ := launch_ran launched started
  refine ⟨ran, Upheld.validate_ok_iff ?_ (ensureValidated_marked passed)⟩
  have upheld := ((upheld_built built later).performAll ops s).ensureValidated
  rwa [passed] at upheld

/-- A calculator that does nothing. -/
def idle : Calculator Unit := ⟨fun _ _ s => (.ok (), s)⟩

/-- A scenario with a maximum distance for one region. -/
def volcanic : Draft := Draft.scenario.set "maximum_distance" (some "\x7b'Volcanic': 200\x7d")

/-- Validating a job, and replacing its regions. -/
def toRegion (region : String) : List (Operation Unit) :=
  [.validate, .setRegions (SortedSet.ofList [region])]

/-- What comes of launching the idle calculator on the scenario after its regions are replaced, and
of validating the job again. -/
def relaunched (region : String) : Option (Bool × Bool) :=
  (volcanic.build ⟨[], []⟩).toOption.map fun job =>
    let (result, handed, _) :=
      (performAll (toRegion region) ⟨⟨[], []⟩, job⟩ ()).1.launch idle ⟨0⟩ ()
    (result.isOk, handed.validate.1.isOk)

theorem relaunched_eq_some {region : String} {valid : Bool}
    (computed : relaunched region = some (true, valid)) :
    ∃ job handed, volcanic.build ⟨[], []⟩ = .ok job ∧
      (performAll (toRegion region) ⟨⟨[], []⟩, job⟩ ()).1.launch idle ⟨0⟩ () =
        (.ok (), handed, ()) ∧ handed.validate.1.isOk = valid := by
  unfold relaunched at computed
  cases built : volcanic.build ⟨[], []⟩ with
  | error e => simp [built, Except.toOption] at computed
  | ok job =>
    rw [built] at computed
    simp only [Except.toOption, Option.map_some, Option.some.injEq, Prod.mk.injEq] at computed
    exact ⟨job, _, rfl, Prod.ext (isOk_iff.mp computed.1) rfl, computed.2⟩

/-- A calculator is started on a job that would not pass any more. -/
theorem launched_invalid : ¬ ∀ (d : Draft) (files : FileTree) (job : Job),
    d.build files = .ok job → ∀ (ops : List (Operation Unit)) (calculator : Calculator Unit)
      (id : CalculationId) (result : Except LaunchError Unit) (handed : Workspace) (t : Unit),
      (performAll ops ⟨files, job⟩ ()).1.launch calculator id (performAll ops ⟨files, job⟩ ()).2 =
        (result, handed, t) →
      (∀ e, result ≠ .error (.notStarted id e)) → handed.validate.1 = .ok () := by
  intro claim
  have computed : relaunched "Induced" = some (true, false) := by decide +kernel
  obtain ⟨job, handed, built, launched, refused⟩ := relaunched_eq_some computed
  have passes := claim volcanic ⟨[], []⟩ job built (toRegion "Induced") idle ⟨0⟩ (.ok ()) handed ()
    launched (fun e => by simp)
  simp [passes, Except.isOk, Except.toBool] at refused

theorem launched_valid :
    ∃ job handed, volcanic.build ⟨[], []⟩ = .ok job ∧
      (performAll (toRegion "Volcanic") ⟨⟨[], []⟩, job⟩ ()).1.launch idle ⟨0⟩ () =
        (.ok (), handed, ()) ∧
      handed.validate.1 = .ok () ∧ handed.job.CoversRegions ∧ handed.job.HasLevels ∧
        handed.job.GsimsAccept ∧ handed.job.CorrelationAccepts := by
  have computed : relaunched "Volcanic" = some (true, true) := by decide +kernel
  obtain ⟨job, handed, built, launched, valid⟩ := relaunched_eq_some computed
  have passes := isOk_iff.mp valid
  have conditions := (launched_valid_iff built ⟨[], []⟩ (toRegion "Volcanic") () launched
    (fun e => by simp)).2.mp passes
  exact ⟨job, handed, built, launched, passes, conditions⟩

end Workspace
end HazardJob
