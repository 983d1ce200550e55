import HazardJob.Proofs.Input

/-! Parameters that a job file carries over: each is read from its text as it was, and its lines
stay what they are in a document. -/
namespace HazardJob

/-- Every argument of the measure is a finite number. -/
def Imt.FiniteArguments (imt : Imt) : Prop :=
  ∀ xs ∈ imt.numbers, ∀ x ∈ xs, x.isFinite = true

instance (imt : Imt) : Decidable imt.FiniteArguments :=
  inferInstanceAs (Decidable (∀ xs ∈ imt.numbers, ∀ x ∈ xs, x.isFinite = true))

theorem Imt.FiniteArguments.readable {imt : Imt} (finite : imt.FiniteArguments) : imt.Readable := by
  cases imt with
  | scalar measure => trivial
  | spectral family period => trivial
  | inelastic period strength =>
    rintro rfl
    have strength := finite _ rfl (Binary64.infinity true) (by simp)
    rw [Binary64.isFinite_infinity] at strength
    cases strength

/-- No line of a text has white space at its ends, and none after the first is empty or looks like
a comment. -/
def Document.PlainLines (text : String) : Prop :=
  (∀ line ∈ valueLines text, Text.Bare Text.isBlank line) ∧
    ∀ line ∈ (valueLines text).tail, Continues line

instance (text : String) : Decidable (Document.PlainLines text) := instDecidableAnd

/-- No region of the mapping, if it is one, has a double quote in its name. -/
def MaximumDistance.Quotable : MaximumDistance → Prop
  | uniform _ => True
  | byRegion distances => ∀ key ∈ distances.keys, '"' ∉ key.toList

instance (d : MaximumDistance) : Decidable d.Quotable := by
  unfold MaximumDistance.Quotable
  cases d <;> infer_instance

namespace JobParams

/-- Parameters that mean the same in a job file in any directory. -/
structure Portable (p : JobParams) : Prop where
  exportDir : p.exportDir.Settled
  regions : ∀ d ∈ p.maximumDistance, d.Quotable
  minimumIntensity : ∀ e ∈ p.minimumIntensity.toList, e.1.FiniteArguments ∧ e.2.isFinite = true
  imlDisagg : ∀ e ∈ p.imlDisagg.toList, e.1.FiniteArguments ∧ e.2.isFinite = true
  imtLevels : ∀ spec ∈ p.imtLevels, ∀ imt ∈ spec.imts, imt.FiniteArguments
  imtList : ∀ imt ∈ p.imtList, imt.FiniteArguments
  exports : p.exports ≠ ["None"]
  gsim : p.gsim ≠ some "None"
  lines : ∀ e ∈ p.entries, Document.PlainLines e.2.raw

instance (p : JobParams) : Decidable p.Portable :=
  decidable_of_iff (p.exportDir.Settled ∧ (∀ d ∈ p.maximumDistance, d.Quotable) ∧
      (∀ e ∈ p.minimumIntensity.toList, e.1.FiniteArguments ∧ e.2.isFinite = true) ∧
      (∀ e ∈ p.imlDisagg.toList, e.1.FiniteArguments ∧ e.2.isFinite = true) ∧
      (∀ spec ∈ p.imtLevels, ∀ imt ∈ spec.imts, imt.FiniteArguments) ∧
      (∀ imt ∈ p.imtList, imt.FiniteArguments) ∧ p.exports ≠ ["None"] ∧ p.gsim ≠ some "None" ∧
      ∀ e ∈ p.entries, Document.PlainLines e.2.raw)
    ⟨fun ⟨exportDir, regions, minimumIntensity, imlDisagg, imtLevels, imtList, exports, gsim, lines⟩ =>
      { exportDir, regions, minimumIntensity, imlDisagg, imtLevels, imtList, exports, gsim, lines },
    fun p => ⟨p.exportDir, p.regions, p.minimumIntensity, p.imlDisagg, p.imtLevels, p.imtList,
      p.exports, p.gsim, p.lines⟩⟩

theorem readableEntry_of_finite {e : Imt × Binary64}
    (finite : e.1.FiniteArguments ∧ e.2.isFinite = true) :
    Rule.ReadableEntry e ∧ e.2 ≠ .nan := by
  refine ⟨⟨finite.1.readable, fun infinite => ?_⟩, Binary64.ne_nan_of_isFinite finite.2⟩
  rw [infinite, Binary64.isFinite_infinity] at finite
  cases finite.2

theorem Portable.legible {p : JobParams} (portable : p.Portable) {q : Param} {v : ParamValue}
    (given : p.get? q = some v) : v.Legible := by
  cases q
  case maximumDistance =>
    obtain ⟨distance, stands, rfl⟩ := Option.map_eq_some_iff.mp given
    have quotable := portable.regions distance stands
    cases distance with
    | uniform d => trivial
    | byRegion distances => exact quotable
  case imtLevels =>
    obtain ⟨spec, stands, rfl⟩ := Option.map_eq_some_iff.mp given
    exact fun e member =>
      (portable.imtLevels spec stands e.1 (List.mem_map_of_mem member)).readable
  case imtList =>
    obtain ⟨-, rfl⟩ := imts_eq_some given
    exact fun imt member => (portable.imtList imt member).readable
  case minimumIntensity =>
    cases given
    exact fun e member => readableEntry_of_finite (portable.minimumIntensity e member)
  case imlDisagg =>
    cases given
    exact fun e member => readableEntry_of_finite (portable.imlDisagg e member)
  case referenceVs30Type | referenceVs30Value | referenceDepthTo1pt0 | referenceDepthTo2pt5 =>
    rcases referenceValue_eq_some given with rfl | ⟨x, rfl⟩ <;> trivial
  all_goals first
    | cases given; trivial
    | obtain ⟨x, -, rfl⟩ := Option.map_eq_some_iff.mp given; trivial

/-- A text that is read as it stands never says that there is no value. -/
theorem text_ne_none {q : Param} (rule : q.rule = .utf8) {raw s : String}
    (read : q.coerce (some raw) = .ok (.text s)) : s ≠ "None" := by
  rw [Param.coerce_eq_ok, rule] at read
  rcases Rule.coerce_ok read with null | ⟨text, -, some, read⟩
  · cases null
  · cases read
    exact some

/-- No choice of outputs says that there is no value. -/
theorem outputs_ne_none {raw : String} {names : List String}
    (read : Param.disaggOutputs.coerce (some raw) = .ok (.texts names)) : names ≠ ["None"] := by
  rcases Rule.coerce_ok (Param.coerce_eq_ok.mp read) with null | ⟨text, -, -, read⟩
  · cases null
  · obtain ⟨listed, found, same⟩ := fmap_eq_ok.mp read
    cases same
    obtain ⟨rfl, allowed⟩ := Rule.namesOf_ok found
    intro none
    have named := allowed "None" (none ▸ List.mem_cons_self)
    cases named

/-- Where a text stands in a record. -/
theorem text_of_get? {p : JobParams} {q : Param} {s : String} (given : p.get? q = some (.text s)) :
    q.rule = .utf8 ∨ q = .gsim ∧ p.gsim = some s := by
  cases q
  case description | hazardCalculationId => exact .inl rfl
  case gsim =>
    obtain ⟨name, stands, same⟩ := Option.map_eq_some_iff.mp given
    cases same
    exact .inr ⟨rfl, stands⟩
  case imtList => cases (imts_eq_some given).2
  case referenceVs30Type | referenceVs30Value | referenceDepthTo1pt0 | referenceDepthTo2pt5 =>
    rcases referenceValue_eq_some given with same | ⟨x, same⟩ <;> cases same
  all_goals first
    | cases given
    | obtain ⟨x, -, same⟩ := Option.map_eq_some_iff.mp given; cases same

/-- Where a list of names stands in a record. -/
theorem texts_of_get? {p : JobParams} {q : Param} {names : List String}
    (given : p.get? q = some (.texts names)) :
    q = .exports ∧ p.exports = names ∨ q = .disaggOutputs := by
  cases q
  case exports => exact .inl ⟨rfl, ParamValue.texts.inj (Option.some.inj given)⟩
  case disaggOutputs => exact .inr rfl
  case imtList => cases (imts_eq_some given).2
  case referenceVs30Type | referenceVs30Value | referenceDepthTo1pt0 | referenceDepthTo2pt5 =>
    rcases referenceValue_eq_some given with same | ⟨x, same⟩ <;> cases same
  all_goals first
    | cases given
    | obtain ⟨x, -, same⟩ := Option.map_eq_some_iff.mp given; cases same

/-- A value of a portable record is renderable if it was read from a text. -/
theorem Portable.renderable {p : JobParams} (portable : p.Portable) {q : Param} {v : ParamValue}
    (given : p.get? q = some v) {raw : String} (read : q.coerce (some raw) = .ok v) :
    v.Renderable := by
  refine ⟨portable.legible given, ?_, ?_⟩
  · rintro rfl
    rcases text_of_get? given with rule | ⟨-, stands⟩
    · exact text_ne_none rule read rfl
    · exact portable.gsim stands
  · rintro rfl
    rcases texts_of_get? given with ⟨-, stands⟩ | rfl
    · exact portable.exports stands
    · exact outputs_ne_none read rfl

section Sourced

variable {p : JobParams} (portable : p.Portable) (sourced : p.Sourced)
include portable sourced

/-- The value of a portable record is read from its text as it was. -/
theorem Portable.coerce_raw {q : Param} {v : ParamValue} (given : p.get? q = some v) :
    q.coerce (some v.raw) = .ok v := by
  obtain ⟨raw, read⟩ := (sourced q).read v given
  exact Param.coerce_raw read (portable.renderable given read)

theorem Portable.value_beq {q : Param} {v : ParamValue} (given : p.get? q = some v) :
    (v == v) = true := by
  obtain ⟨raw, read⟩ := (sourced q).read v given
  exact (Rule.coerce_raw q.rule_proper (Param.coerce_eq_ok.mp read)
    (portable.renderable given read)).2

theorem Portable.beq_self : (p == p) = true := by
  refine beq_of_get? fun q => ?_
  cases given : p.get? q with
  | none => rfl
  | some v => exact portable.value_beq sourced given

/-- The entry of a parameter is read back from a document. -/
theorem Portable.plainEntry {e : Param × ParamValue} (member : e ∈ p.entries) :
    Document.PlainEntry (e.1.name, e.2.raw) := by
  obtain ⟨raw, read⟩ := (sourced e.1).read e.2 (mem_entries.mp member)
  obtain ⟨bare, continues⟩ := portable.lines e member
  exact ⟨plainKey_name e.1, Rule.bare_raw e.1.rule_proper (Param.coerce_eq_ok.mp read), bare,
    continues⟩

end Sourced

end JobParams
end HazardJob
