import HazardJob.Proofs.Job.Complete

/-! Numbers in the parameters of a job. The rules that read single numbers, lists and points take
finite ones only, and so does the rule for levels. A maximum distance and the numbers that go with
measures are literals, which may be infinite or no number at all, and no rule asks about the second
argument of a measure. Whether every number of a job is finite rests with these alone. -/
namespace HazardJob

/-- The distance for all regions, or those for each. -/
def MaximumDistance.distances : MaximumDistance → List Binary64
  | uniform distance => [distance]
  | byRegion distances => distances.values

namespace ParamValue

/-- The numbers of a value, those apart that are arguments of its measures. -/
def numbers : ParamValue → List Binary64
  | float x => [x]
  | floats xs => xs
  | points places => places.flatMap fun place => [place.lon, place.lat]
  | distance d => d.distances
  | imtLevels spec => spec.values.flatten
  | imtFloats values => values.values
  | _ => []

/-- The measures that a value names. -/
def measures : ParamValue → List Imt
  | imtLevels spec => spec.imts
  | imts listed => listed
  | imtFloats values => values.keys
  | _ => []

/-- Every number of the value is finite. -/
def Finite (v : ParamValue) : Prop := ∀ x ∈ v.numbers, x.isFinite = true

instance (v : ParamValue) : Decidable v.Finite :=
  inferInstanceAs (Decidable (∀ x ∈ v.numbers, x.isFinite = true))

end ParamValue

/-- Only the second argument of a measure can be other than finite. -/
theorem Imt.finiteArguments_iff {imt : Imt} :
    imt.FiniteArguments ↔ ∀ x, imt.secondary = some x → x.isFinite = true := by
  have period (p : Period) : p.value.isFinite = true := by simp [Period.value, Binary64.isFinite, p.finite]
  have signless (x : Binary64) : x.withoutMinusZero.isFinite = x.isFinite := by
    unfold Binary64.withoutMinusZero
    split <;> rfl
  cases imt with
  | scalar measure => simp [FiniteArguments, numbers, secondary]
  | spectral family p => simp [FiniteArguments, numbers, secondary, period]
  | inelastic p strength => simp [FiniteArguments, numbers, secondary, period, signless]

namespace Rule

/-- The rules that take a number for what its literal says. -/
def TakesLiterals (rule : Rule) : Prop := rule = .maximumDistance ∨ rule = .imtFloats

section Read

variable {text : String} {v : ParamValue}

/-- A single number is finite, whatever else is asked of it. -/
theorem finite_number {x : Binary64} (number : numberOf text = .ok x) :
    (ParamValue.float x).Finite := by
  intro y member
  cases List.mem_singleton.mp member
  exact numberOf_ok number

theorem finite_probabilities (read : probabilities.read text = .ok v) : v.Finite := by
  obtain ⟨xs, found, rfl⟩ := fmap_eq_ok.mp read
  intro x member
  obtain ⟨item, -, number⟩ := mem_mapM_ok found member
  exact (probabilityOf_ok number).1

theorem finite_points {places : List Point} (found : pointsOf text = .ok places) :
    (ParamValue.points places).Finite := by
  intro x member
  obtain ⟨place, inside, part⟩ := List.mem_flatMap.mp member
  have globe := pointsOf_ok found place inside
  simp only [List.mem_cons, List.not_mem_nil, or_false] at part
  rcases part with rfl | rfl
  · exact globe.lonFinite
  · exact globe.latFinite

theorem finite_imtLevels (read : imtLevels.read text = .ok v) : v.Finite := by
  obtain ⟨spec, found, rfl⟩ := fmap_eq_ok.mp read
  intro x member
  obtain ⟨levels, inside, level⟩ := List.mem_flatten.mp member
  exact (ImtLevels.proper_of_ofText (mapError_eq_ok.mp found) levels inside).finite x level

/-- What a rule reads is finite, unless the rule takes literals. -/
theorem finite_of_read {rule : Rule} (careful : ¬rule.TakesLiterals)
    (read : rule.read text = .ok v) : v.Finite := by
  have nothing {w : ParamValue} (none : w.numbers = []) : w.Finite := by
    intro x member
    rw [none] at member
    cases member
  cases rule with
  | positiveFloat | nonNegativeFloat =>
    obtain ⟨x, number, -, rfl⟩ := unless_eq_ok.mp read
    exact finite_number number
  | probabilities => exact finite_probabilities read
  | imtLevels => exact finite_imtLevels read
  | coordinates =>
    obtain ⟨places, found, rfl⟩ := fmap_eq_ok.mp read
    exact finite_points found
  | polygon =>
    obtain ⟨places, found, -, rfl⟩ := unless_eq_ok.mp read
    exact finite_points found
  | imtFloats => exact absurd (.inr rfl) careful
  | maximumDistance => exact absurd (.inl rfl) careful
  | positiveInt =>
    obtain ⟨n, -, -, rfl⟩ := unless_eq_ok.mp read
    exact nothing rfl
  | utf8 =>
    cases read
    exact nothing rfl
  | boolean | nonNegativeInt | nameList | choices allowed | imtList | gsim =>
    obtain ⟨_, -, rfl⟩ := fmap_eq_ok.mp read
    exact nothing rfl
  | correlationModel | calculationMode | vs30Type | path =>
    simp only [Rule.read] at read
    split at read <;> cases read
    exact nothing rfl

end Read

end Rule

namespace Draft

theorem finite_of_sourced {p : JobParams} (sourced : p.Sourced) {q : Param}
    (careful : ¬q.rule.TakesLiterals) {v : ParamValue} (given : p.get? q = some v) : v.Finite := by
  rcases sourced.rule_read given with rfl | ⟨text, read⟩
  · exact fun x member => absurd member List.not_mem_nil
  · exact Rule.finite_of_read careful read

/-- Every number in the parameters of a job that was built is finite exactly if the maximum distances
are, and the numbers that go with measures as minimum intensities and as targets of a disaggregation.
The arguments of the measures that it names are finite exactly if the second ones are. -/
theorem numbers_finite_iff {d : Draft} {files : FileTree} {job : Job}
    (built : d.build files = .ok job) :
    ((∀ q v, job.params.get? q = some v → v.Finite) ↔
      (∀ distance, job.params.maximumDistance = some distance →
        ∀ x ∈ distance.distances, x.isFinite = true) ∧
      (∀ x ∈ job.params.minimumIntensity.values, x.isFinite = true) ∧
      ∀ x ∈ job.params.imlDisagg.values, x.isFinite = true) ∧
    ((∀ q v, job.params.get? q = some v → ∀ imt ∈ v.measures, imt.FiniteArguments) ↔
      ∀ q v, job.params.get? q = some v → ∀ imt ∈ v.measures, ∀ x, imt.secondary = some x →
        x.isFinite = true) := by
  constructor
  · constructor
    · intro finite
      refine ⟨?_, finite .minimumIntensity _ rfl, finite .imlDisagg _ rfl⟩
      intro distance given
      exact finite .maximumDistance (.distance distance) (by simp [JobParams.get?, given])
    · rintro ⟨distances, intensities, targets⟩ q v given
      by_cases careful : q.rule.TakesLiterals
      · -- Three parameters are read by such rules.
        cases q
        case maximumDistance =>
          obtain ⟨distance, stands, rfl⟩ := Option.map_eq_some_iff.mp given
          exact distances distance stands
        case minimumIntensity =>
          cases given
          exact intensities
        case imlDisagg =>
          cases given
          exact targets
        all_goals rcases careful with rule | rule <;> cases rule
      · exact finite_of_sourced (sourced_built built) careful given
  · simp only [Imt.finiteArguments_iff]

/-- A scenario with a maximum distance and a minimum intensity. -/
def bounded (distance intensity : String) : Draft :=
  Draft.scenario.setAll [("maximum_distance", some distance), ("minimum_intensity", some intensity)]

theorem numbers_bounded : ∃ job, (bounded "200" "\x7b'PGA': 0.1\x7d").build ⟨[], []⟩ = .ok job ∧
    ∀ q v, job.params.get? q = some v → v.Finite := by
  have computed : (((bounded "200" "\x7b'PGA': 0.1\x7d").build ⟨[], []⟩).toOption.any fun job =>
      decide ((∀ distance ∈ job.params.maximumDistance, ∀ x ∈ distance.distances, x.isFinite = true) ∧
        (∀ x ∈ job.params.minimumIntensity.values, x.isFinite = true) ∧
        ∀ x ∈ job.params.imlDisagg.values, x.isFinite = true)) = true := by decide +kernel
  obtain ⟨job, built, found⟩ := any_toOption_iff.mp computed
  exact ⟨job, built, (numbers_finite_iff built).1.mpr (of_decide_eq_true found)⟩

/-- A minimum intensity may be no number at all. -/
theorem numbers_not_finite : ¬∀ (d : Draft) (files : FileTree) (job : Job),
    d.build files = .ok job → ∀ q v, job.params.get? q = some v → v.Finite := by
  intro claim
  have computed : (((bounded "200" "\x7b'PGA': nan\x7d").build ⟨[], []⟩).toOption.any fun job =>
      job.params.minimumIntensity.values.any (!·.isFinite)) = true := by decide +kernel
  obtain ⟨job, built, found⟩ := any_toOption_iff.mp computed
  obtain ⟨x, member, infinite⟩ := List.any_eq_true.mp found
  have finite := claim _ ⟨[], []⟩ job built .minimumIntensity _ rfl x member
  rw [finite] at infinite
  cases infinite

end Draft
end HazardJob
