import HazardJob.Proofs.Gsim.Registry
import HazardJob.Proofs.Job.Complete
import HazardJob.Proofs.Job.Stable

/-! The models that predict ground motion for a validated job. Validation asks the signatures that are
known by name; a model checks the measures again, by its own signature, before it computes. -/
namespace HazardJob

namespace Job

theorem Reached.registry {job j : Job} (reached : job.Reached j) (settled : job.PoesSettled) :
    j.registry = job.registry :=
  (congrArg (·.registry) (reached.grows settled).frame).symm

/-- A job that is consistent with the files around it asks no model for measures that what is known of the
model does not accept. -/
theorem Consistent.accepted {files : FileTree} {job : Job} (consistent : job.Consistent files)
    {name : String} (selected : name ∈ job.gsims) {s : GsimSignature}
    (known : job.registry.get? name = some s) {m : GroundMotionModel}
    (same : s.Matches m.signature) :
    ∀ c gsim imt, m.signature.checkInputs c job.measures.imts ≠ .error (.unsupportedImt gsim imt) := by
  intro c gsim imt refused
  obtain ⟨member, refuses⟩ := GsimSignature.accepts_of_unsupported refused
  have accepts := consistent.gsimsAccept name selected s known imt member
  rw [same.accepts, refuses] at accepts
  cases accepts

end Job

namespace Workspace

/-- A model computes what validation has seen, exactly if no declaration of something else came last under
its name. Then a model that is selected for a validated job never refuses a measure of the job, whatever
the context. -/
theorem predicted_as_validated {start : GsimRegistry} (origin : start = .empty ∨ start = .builtin)
    (changes : List GsimRegistry.Change) {name : String} {m : GroundMotionModel}
    (computes : (start.after changes).model? name = some m) :
    ((∃ s, (start.after changes).get? name = some s ∧ s.Matches m.signature) ↔
        GsimRegistry.Faithful name changes m) ∧
      ∀ (d : Draft) (files later : FileTree) (job j : Job) (v : Workspace),
        d.registry = start.after changes → d.build files = .ok job → job.Reached j →
        (Workspace.mk later j).validate = (.ok (), v) → name ∈ v.job.gsims →
        GsimRegistry.Faithful name changes m →
        ∀ c gsim imt, m.signature.checkInputs c v.job.measures.imts ≠
          .error (.unsupportedImt gsim imt) := by
  have none : ∀ name, start.model? name = none := by
    rcases origin with rfl | rfl
    · exact fun _ => rfl
    · exact GsimRegistry.model?_builtin
  have known := GsimRegistry.get?_matches_iff none computes
  refine ⟨known, ?_⟩
  intro d files later job j v registry built reached passed selected faithful
  obtain ⟨s, found, same⟩ := known.mpr faithful
  have settled := reached.settled (Draft.build_settled built)
  have consistent := (validate_ok_iff_consistent (w := ⟨later, j⟩) settled).mp (congrArg Prod.fst passed)
  have core := validate_core (w := ⟨later, j⟩) settled
  rw [passed] at core
  have measures : v.job.measures = j.measures := congrArg (·.measures) core
  have gsims : v.job.gsims = j.gsims := congrArg (·.gsims) core
  have kept : j.registry = start.after changes := by
    obtain ⟨params, tree?, -, -, -, -, same⟩ := Draft.build_ok built
    obtain ⟨poes, diagnostics, derived⟩ := (d.assemble params tree?).derivePoes_eq
    rw [reached.registry (Draft.build_settled built), ← registry, same, derived]
    rfl
  rw [measures]
  rw [gsims] at selected
  exact consistent.accepted selected (by rw [kept]; exact found) same

section Ours

open GsimRegistry (Change)

/-- A model of its own that needs no parameters. -/
def ours (families : List String) : GsimSignature :=
  ⟨"Ours", "Volcanic", families, .rotD50, [], [], []⟩

/-- A scenario with the model, for one measure. -/
def oursScenario (changes : List Change) (measure : String) : Draft :=
  (Draft.scenario.setAll [("gsim", some "Ours"), ("intensity_measure_types", some measure)]).withRegistry
    (GsimRegistry.empty.after changes)

theorem exists_validated (d : Draft) (files : FileTree) (p : Job → Bool)
    (passes : ((d.build files).toOption.any fun job =>
      let left := (Workspace.mk files job).validate
      left.1.isOk && p left.2.job) = true) :
    ∃ job v, d.build files = .ok job ∧ (Workspace.mk files job).validate = (.ok (), v) ∧
      p v.job = true := by
  obtain ⟨job, built, good⟩ := (Option.any_eq_true _ _).mp passes
  obtain ⟨valid, good⟩ := (Bool.and_eq_true _ _).mp good
  exact ⟨job, _, toOption_eq_some.mp built, Prod.ext (isOk_iff.mp valid) rfl, good⟩

/-- A model that takes the place of a declaration. -/
def replaced : List Change := [.declare (ours ["PGV"]), .register (.still (ours ["PGA"]))]

theorem predicted_replaced : ∃ job v, (oursScenario replaced "PGA").build ⟨[], []⟩ = .ok job ∧
    (Workspace.mk ⟨[], []⟩ job).validate = (.ok (), v) ∧ "Ours" ∈ v.job.gsims ∧
    ∀ c gsim imt, (ours ["PGA"]).checkInputs c v.job.measures.imts ≠
      .error (.unsupportedImt gsim imt) := by
  obtain ⟨job, v, built, passed, selected⟩ := exists_validated (oursScenario replaced "PGA") ⟨[], []⟩
    (fun job => job.gsims.contains "Ours") (by decide +kernel)
  have selected : "Ours" ∈ v.job.gsims := List.contains_iff_mem.mp selected
  have computes : (GsimRegistry.empty.after replaced).model? "Ours" =
      some (.still (ours ["PGA"])) := by rfl
  have faithful : GsimRegistry.Faithful "Ours" replaced (.still (ours ["PGA"])) := by
    intro declared last
    have model : GsimRegistry.lastChange? "Ours" replaced = some (.register (.still (ours ["PGA"]))) := by
      rfl
    rw [model] at last
    cases last
  obtain ⟨-, validated⟩ := predicted_as_validated (.inl rfl) replaced computes
  exact ⟨job, v, built, passed, selected,
    validated _ _ _ _ _ _ rfl built .start passed selected faithful⟩

/-- A declaration that takes the place of a model, which computes still. -/
def redeclared : List Change := [.register (.still (ours ["PGA"])), .declare (ours ["PGV"])]

/-- A model of a validated job refuses a measure of the job. -/
theorem predicted_redeclared :
    (GsimRegistry.empty.after redeclared).model? "Ours" = some (.still (ours ["PGA"])) ∧
      (GsimRegistry.empty.after redeclared).get? "Ours" = some (ours ["PGV"]) ∧
      ∃ job v, (oursScenario redeclared "PGV").build ⟨[], []⟩ = .ok job ∧
        (Workspace.mk ⟨[], []⟩ job).validate = (.ok (), v) ∧ "Ours" ∈ v.job.gsims ∧
        (ours ["PGA"]).checkInputs ⟨∅, ∅, ∅⟩ v.job.measures.imts =
          .error (.unsupportedImt "Ours" (.scalar .pgv)) := by
  refine ⟨by rfl, by rfl, ?_⟩
  obtain ⟨job, v, built, passed, found⟩ := exists_validated (oursScenario redeclared "PGV") ⟨[], []⟩
    (fun job => job.gsims.contains "Ours" && decide (job.measures.imts = [.scalar .pgv]))
    (by decide +kernel)
  obtain ⟨selected, measures⟩ := (Bool.and_eq_true _ _).mp found
  have measures : v.job.measures.imts = [.scalar .pgv] := of_decide_eq_true measures
  exact ⟨job, v, built, passed, List.contains_iff_mem.mp selected, by rw [measures]; rfl⟩

end Ours

end Workspace
end HazardJob
