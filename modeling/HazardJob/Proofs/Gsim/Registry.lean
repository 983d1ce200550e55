import HazardJob.Gsim.Builtin
import Mathlib.Data.List.Induction

/-! Registries of ground motion models as a history of changes makes them. What is known of a name is
what the last change under it brings; only a declaration that comes after a model can bring
something else than the model itself. -/
namespace HazardJob

/-- Both know the same families of measures and need the same parameters. -/
structure GsimSignature.Matches (s t : GsimSignature) : Prop where
  families : s.families = t.families
  sites : s.sites = t.sites
  rupture : s.rupture = t.rupture
  distances : s.distances = t.distances

instance (s t : GsimSignature) : Decidable (s.Matches t) :=
  decidable_of_iff (s.families = t.families ∧ s.sites = t.sites ∧ s.rupture = t.rupture ∧
    s.distances = t.distances)
    ⟨fun ⟨families, sites, rupture, distances⟩ => ⟨families, sites, rupture, distances⟩,
      fun same => ⟨same.families, same.sites, same.rupture, same.distances⟩⟩

namespace GsimSignature

theorem Matches.refl (s : GsimSignature) : s.Matches s := ⟨rfl, rfl, rfl, rfl⟩

theorem Matches.accepts {s t : GsimSignature} (same : s.Matches t) (imt : Imt) :
    s.accepts imt = t.accepts imt := by
  rw [GsimSignature.accepts, GsimSignature.accepts, same.families]

/-- A check that finds a measure unsupported comes from one that the model does not accept. -/
theorem accepts_of_unsupported {s : GsimSignature} {c : GmfContext} {imts : List Imt} {gsim : String}
    {imt : Imt} (refused : s.checkInputs c imts = .error (.unsupportedImt gsim imt)) :
    imt ∈ imts ∧ s.accepts imt = false := by
  unfold checkInputs at refused
  dsimp only at refused
  split at refused
  · cases refused
  split at refused
  · rename_i other found
    cases refused
    exact ⟨List.mem_of_find?_eq_some found, by simpa using List.find?_some found⟩
  · cases refused

end GsimSignature

namespace GsimRegistry

/-- A change to a registry. -/
inductive Change where
  | declare (signature : GsimSignature)
  | register (model : GroundMotionModel)

namespace Change

/-- The signature that a change brings, under its own name. -/
def signature : Change → GsimSignature
  | declare s => s
  | register m => m.signature

def apply (r : GsimRegistry) : Change → GsimRegistry
  | declare s => r.declare s
  | register m => r.register m

end Change

/-- The registry after changes in turn. -/
def after (r : GsimRegistry) (changes : List Change) : GsimRegistry := changes.foldl Change.apply r

/-- The last change under a name. -/
def lastChange? (name : String) (changes : List Change) : Option Change :=
  changes.reverse.find? fun c => c.signature.name == name

section Step

variable (r : GsimRegistry) (c : Change) (name : String)

theorem get?_apply : (c.apply r).get? name =
    if name = c.signature.name then some c.signature else r.get? name := by
  by_cases same : name = c.signature.name
  · rw [if_pos same, same]
    cases c <;> simp [Change.apply, declare, register, get?, SortedMap.get?_insert, Change.signature]
  · rw [if_neg same]
    cases c with
    | declare s =>
      have apart : name ≠ s.name := same
      simp [Change.apply, declare, get?, SortedMap.get?_insert, apart]
    | register m =>
      have apart : name ≠ m.signature.name := same
      simp [Change.apply, register, get?, SortedMap.get?_insert, apart]

theorem model?_apply_other (other : name ≠ c.signature.name) :
    (c.apply r).model? name = r.model? name := by
  cases c with
  | declare s => rfl
  | register m =>
    have apart : name ≠ m.signature.name := other
    simp [Change.apply, register, model?, SortedMap.get?_insert, apart]

theorem model?_register (m : GroundMotionModel) :
    (r.register m).model? m.signature.name = some m := by
  simp [register, model?, SortedMap.get?_insert]

end Step

section Run

variable {r : GsimRegistry} {changes : List Change} {name : String}

theorem after_append (c : Change) : r.after (changes ++ [c]) = c.apply (r.after changes) := by
  simp [after]

theorem lastChange?_append (c : Change) : lastChange? name (changes ++ [c]) =
    if c.signature.name = name then some c else lastChange? name changes := by
  simp only [lastChange?, List.reverse_append, List.reverse_singleton, List.singleton_append,
    List.find?_cons]
  by_cases same : c.signature.name = name
  · simp [same]
  · simp [same, beq_eq_false_iff_ne.mpr same]

/-- A name is known by the last change under it. -/
theorem get?_after (r : GsimRegistry) (changes : List Change) (name : String) :
    (r.after changes).get? name =
      ((lastChange? name changes).map Change.signature).or (r.get? name) := by
  induction changes using List.reverseRecOn with
  | nil => rfl
  | append_singleton before c ih =>
    rw [after_append, get?_apply, lastChange?_append]
    by_cases same : c.signature.name = name
    · simp [same]
    · simp [same, Ne.symm same, ih]

/-- A model computes under a name only if it was registered, and it is the one that the last change
under the name brings, unless that is a declaration. -/
theorem model?_after {m : GroundMotionModel} (none : ∀ name, r.model? name = none)
    (computes : (r.after changes).model? name = some m) :
    ∃ c, lastChange? name changes = some c ∧ ∀ other, c = .register other → other = m := by
  induction changes using List.reverseRecOn with
  | nil =>
    have nothing : r.model? name = some m := computes
    rw [none] at nothing
    cases nothing
  | append_singleton before c ih =>
    rw [after_append] at computes
    rw [lastChange?_append]
    by_cases same : c.signature.name = name
    · refine ⟨c, by rw [if_pos same], ?_⟩
      rintro other rfl
      have brought : (r.after before |>.register other).model? name = some other := by
        rw [← same]
        exact model?_register _ other
      exact Option.some.inj (brought.symm.trans computes)
    · rw [if_neg same]
      rw [model?_apply_other _ _ _ (Ne.symm same)] at computes
      exact ih computes

/-- Under the name of a model, no declaration of something else is the last change. -/
def Faithful (name : String) (changes : List Change) (m : GroundMotionModel) : Prop :=
  ∀ declared, lastChange? name changes = some (.declare declared) → declared.Matches m.signature

/-- What is known of the name of a model is what the model declares, exactly if no declaration of something
else came last. -/
theorem get?_matches_iff {m : GroundMotionModel} (none : ∀ name, r.model? name = none)
    (computes : (r.after changes).model? name = some m) :
    (∃ s, (r.after changes).get? name = some s ∧ s.Matches m.signature) ↔
      Faithful name changes m := by
  obtain ⟨c, last, own⟩ := model?_after none computes
  have known : (r.after changes).get? name = some c.signature := by
    rw [get?_after, last]
    rfl
  rw [known, Faithful, last]
  constructor
  · rintro ⟨s, found, same⟩ declared last
    cases last
    cases found
    exact same
  · intro faithful
    refine ⟨c.signature, rfl, ?_⟩
    cases c with
    | declare declared => exact faithful declared rfl
    | register other =>
      rw [own other rfl]
      exact .refl _

end Run

/-- None of the known signatures computes. -/
theorem model?_builtin (name : String) : builtin.model? name = none := rfl

end GsimRegistry
end HazardJob
