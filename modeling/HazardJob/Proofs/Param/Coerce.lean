import HazardJob.Param.Coerce
import HazardJob.Proofs.Param.Rule

/-! Values of parameters and the texts that job files give for them. A value that was read from a
text comes back from its own text, up to equality, exactly if it is renderable. -/
namespace HazardJob

/-- The text of the value is legible, and it does not stand for the absence of a value. -/
structure ParamValue.Renderable (v : ParamValue) : Prop where
  legible : v.Legible
  notText : v ≠ .text "None"
  notTexts : v ≠ .texts ["None"]

namespace Rule

/-- The choices of a rule can stand in a list. -/
def Proper : Rule → Prop
  | choices allowed => ∀ name ∈ allowed, ∀ c ∈ name.toList, c ≠ '[' ∧ c ≠ ']'
  | _ => True

/-- Every value that a rule reads is bound to its text, rule by rule. -/
theorem returns_of_read {rule : Rule} (proper : rule.Proper) {text : String} {v : ParamValue}
    (bare : Text.Bare Text.isBlank text.toList) (some : text ≠ "None")
    (read : rule.read text = .ok v) : Returns rule v := by
  cases rule with
  | boolean =>
    obtain ⟨b, -, rfl⟩ := fmap_eq_ok.mp read
    exact boolean_returns b
  | positiveInt =>
    obtain ⟨n, -, positive, rfl⟩ := unless_eq_ok.mp read
    exact positiveInt_returns positive
  | nonNegativeInt =>
    obtain ⟨n, -, rfl⟩ := fmap_eq_ok.mp read
    exact nonNegativeInt_returns n
  | positiveFloat =>
    obtain ⟨x, number, positive, rfl⟩ := unless_eq_ok.mp read
    exact positiveFloat_returns (numberOf_ok number) positive
  | nonNegativeFloat =>
    obtain ⟨x, number, positive, rfl⟩ := unless_eq_ok.mp read
    exact nonNegativeFloat_returns (numberOf_ok number) positive
  | probabilities =>
    obtain ⟨xs, each, rfl⟩ := fmap_eq_ok.mp read
    refine probabilities_returns fun x member => ?_
    obtain ⟨_, -, found⟩ := mem_mapM_ok each member
    exact probabilityOf_ok found
  | utf8 =>
    cases read
    exact utf8_returns bare
  | nameList =>
    obtain ⟨names, found, rfl⟩ := fmap_eq_ok.mp read
    obtain ⟨rfl, all⟩ := namesOf_ok found
    exact names_returns (fun _ => rfl)
      (fun name member => plainItem_of_listItems member (isPlainName_bracket (all name member))) all
  | choices allowed =>
    obtain ⟨names, found, rfl⟩ := fmap_eq_ok.mp read
    obtain ⟨rfl, all⟩ := namesOf_ok found
    exact names_returns (fun _ => rfl) (fun name member => plainItem_of_listItems member
      (proper name (List.contains_iff_mem.mp (all name member)))) all
  | imtLevels =>
    obtain ⟨spec, found, rfl⟩ := fmap_eq_ok.mp read
    have levels := ImtLevels.proper_of_ofText (mapError_eq_ok.mp found)
    exact imtLevels_returns fun e member => levels e.2 (List.mem_map_of_mem member)
  | imtList =>
    obtain ⟨measures, -, rfl⟩ := fmap_eq_ok.mp read
    exact imtList_returns measures
  | imtFloats =>
    obtain ⟨values, -, rfl⟩ := fmap_eq_ok.mp read
    exact imtFloats_returns values
  | maximumDistance =>
    obtain ⟨d, found, rfl⟩ := fmap_eq_ok.mp read
    exact maximumDistance_returns (positive_of_distanceOf found)
  | coordinates =>
    obtain ⟨points, found, rfl⟩ := fmap_eq_ok.mp read
    exact coordinates_returns (pointsOf_ok found)
  | polygon =>
    obtain ⟨points, found, corners, rfl⟩ := unless_eq_ok.mp read
    exact polygon_returns (pointsOf_ok found) corners
  | gsim =>
    obtain ⟨name, found, rfl⟩ := fmap_eq_ok.mp read
    exact gsim_returns (gsimOf_ok found)
  | correlationModel =>
    simp only [Rule.read] at read
    split at read
    · cases read
      exact correlationModel_returns _
    · cases read
  | calculationMode =>
    simp only [Rule.read] at read
    split at read
    · cases read
      exact calculationMode_returns _
    · cases read
  | vs30Type =>
    simp only [Rule.read] at read
    split at read
    · cases read
      exact vs30Type_returns _
    · cases read
  | path =>
    simp only [Rule.read] at read
    split at read
    · cases read
    · rename_i inhabited
      cases read
      exact path_returns bare (Bool.eq_false_iff.mpr inhabited) some

theorem coerce_of_bare (rule : Rule) {text : String} (bare : Text.Bare Text.isBlank text.toList)
    (some : text ≠ "None") : rule.coerce (.some text) = rule.read text := by
  simp only [coerce, Text.trim, bare.trimBy, String.ofList_toList, beq_iff_eq, some, if_false]

/-- What is given for a parameter is no value, or it is read from a trimmed text. -/
theorem coerce_ok {rule : Rule} {raw : String} {v : ParamValue}
    (read : rule.coerce (some raw) = .ok v) : v = .null ∨ ∃ text : String,
      Text.Bare Text.isBlank text.toList ∧ text ≠ "None" ∧ rule.read text = .ok v := by
  simp only [coerce, beq_iff_eq] at read
  split at read
  · cases read
    exact .inl rfl
  · rename_i some
    refine .inr ⟨_, ?_, some, read⟩
    rw [String.toList_ofList]
    exact Text.bare_trimBy _ _

theorem coerce_none (rule : Rule) : rule.coerce (some "None") = .ok .null := rfl

/-- A renderable value is read from its text as it was. -/
theorem coerce_raw {rule : Rule} (proper : rule.Proper) {raw : String} {v : ParamValue}
    (read : rule.coerce (some raw) = .ok v) (renderable : v.Renderable) :
    rule.coerce (some v.raw) = .ok v ∧ (v == v) = true := by
  rcases coerce_ok read with rfl | ⟨text, bare, some, read⟩
  · exact ⟨coerce_none rule, rfl⟩
  · have returns := returns_of_read proper bare some read
    have notNull : v.raw ≠ "None" := fun same =>
      (returns.null same).elim renderable.notText renderable.notTexts
    exact ⟨(coerce_of_bare rule returns.bare notNull).trans (returns.read renderable.legible),
      returns.equal renderable.legible⟩

/-- The text of a value that was read is trimmed. -/
theorem bare_raw {rule : Rule} (proper : rule.Proper) {raw : String} {v : ParamValue}
    (read : rule.coerce (some raw) = .ok v) : Text.Bare Text.isBlank v.raw.toList := by
  rcases coerce_ok read with rfl | ⟨text, bare, some, read⟩
  · exact .of_all rfl
  · exact (returns_of_read proper bare some read).bare

/-- Nothing equal to a value that is not renderable is read from its text. -/
theorem coerce_raw_other {rule : Rule} (proper : rule.Proper) {raw : String} {v w : ParamValue}
    (read : rule.coerce (some raw) = .ok v) (again : rule.coerce (some v.raw) = .ok w)
    (equal : (w == v) = true) : v.Renderable := by
  rcases coerce_ok read with rfl | ⟨text, bare, some, read⟩
  · exact ⟨trivial, nofun, nofun⟩
  · have returns := returns_of_read proper bare some read
    have notNull : v.raw ≠ "None" := by
      intro same
      rw [same, coerce_none] at again
      cases again
      rcases returns.null same with rfl | rfl <;> cases equal
    rw [coerce_of_bare rule returns.bare notNull] at again
    refine ⟨?_, fun same => notNull (by rw [same]; rfl), fun same => notNull (by rw [same]; rfl)⟩
    refine Classical.not_not.mp fun illegible => ?_
    rw [returns.other illegible w again] at equal
    cases equal

end Rule

namespace Param

theorem rule_proper (p : Param) : p.rule.Proper := by
  cases p with
  | disaggOutputs =>
    have plain : (disaggregationOutputs.all fun name =>
        name.toList.all fun c => c != '[' && c != ']') = true := rfl
    intro name member c inside
    have kept := List.all_eq_true.mp (List.all_eq_true.mp plain name member) c inside
    simpa using kept
  | _ => trivial

theorem coerce_eq_ok {p : Param} {raw : Option String} {v : ParamValue} :
    p.coerce raw = .ok v ↔ p.rule.coerce raw = .ok v := mapError_eq_ok

/-- A renderable value of a parameter is read from its text as it was. -/
theorem coerce_raw {p : Param} {raw : String} {v : ParamValue}
    (read : p.coerce (some raw) = .ok v) (renderable : v.Renderable) :
    p.coerce (some v.raw) = .ok v :=
  coerce_eq_ok.mpr (Rule.coerce_raw p.rule_proper (coerce_eq_ok.mp read) renderable).1

/-- The value of a parameter comes back from its text, up to equality, exactly if it is
renderable. -/
theorem coerce_raw_iff {p : Param} {raw : String} {v : ParamValue}
    (read : p.coerce (some raw) = .ok v) :
    (∃ w, p.coerce (some v.raw) = .ok w ∧ (w == v) = true) ↔ v.Renderable := by
  constructor
  · rintro ⟨w, again, equal⟩
    exact Rule.coerce_raw_other p.rule_proper (coerce_eq_ok.mp read) (coerce_eq_ok.mp again) equal
  · intro renderable
    obtain ⟨again, equal⟩ := Rule.coerce_raw p.rule_proper (coerce_eq_ok.mp read) renderable
    exact ⟨v, coerce_eq_ok.mpr again, equal⟩

theorem coerce_raw_exports : exports.coerce (some "[csv, geojson]") = .ok (.texts ["csv", "geojson"]) ∧
    ∃ w, exports.coerce (some (ParamValue.texts ["csv", "geojson"]).raw) = .ok w ∧
      (w == .texts ["csv", "geojson"]) = true := by
  have read : exports.coerce (some "[csv, geojson]") = .ok (.texts ["csv", "geojson"]) := rfl
  exact ⟨read, (coerce_raw_iff read).mpr ⟨trivial, nofun,
    fun same => absurd (ParamValue.texts.inj same) (by decide)⟩⟩

/-- Brackets let a ground motion model be named like the absence of a value; its text then stands
for that. -/
theorem coerce_gsim_lost : ∃ v, gsim.coerce (some "[None]") = .ok v ∧
    ∀ w, gsim.coerce (some v.raw) = .ok w → (w == v) = false := by
  refine ⟨.text "None", rfl, fun w again => ?_⟩
  cases again
  rfl

end Param
end HazardJob
