import HazardJob.Proofs.Job.Consistency
import HazardJob.Proofs.Param.Given
import HazardJob.Proofs.SortedMap

/-! Settings that say what holds without them: the text that stands in for a parameter, or explicitly no value
for one that may stay unset. A draft is built alike with such settings and without them, into the same job or to
the same error. A parameter that is explicitly without a value is assigned where the other run passes it over,
so the values of the two runs are compared as lists, one of which is padded. -/
namespace HazardJob

/-- A raw value that stands for no value: none at all, or the word for it. -/
def NoValue (raw : Option String) : Prop :=
  ∀ text, raw = some text → String.ofList (Text.trim text.toList) = ParamValue.null.raw

namespace Param

/-- A parameter that may be left out, and of which no value leaves nothing in a record. -/
def IsClearable (q : Param) : Prop := q.fallback = .unspecified ∧ q.isReference = false

instance (q : Param) : Decidable q.IsClearable :=
  inferInstanceAs (Decidable (q.fallback = .unspecified ∧ q.isReference = false))

/-- A raw value that gives a parameter what it has without any. -/
inductive Restates (q : Param) : Option String → Prop
  | text {text : String} : q.fallback = .raw text → Restates q (some text)
  | cleared {raw : Option String} : q.IsClearable → NoValue raw → Restates q raw

variable {q : Param}

theorem coerce_noValue {raw : Option String} (nothing : NoValue raw) : q.coerce raw = .ok .null := by
  rw [coerce_eq_ok]
  cases raw with
  | none => rfl
  | some text =>
    rw [Rule.coerce, nothing text rfl]
    rfl

/-- Only the analysis has to be given; every text that stands in for a parameter has a value. -/
theorem absent_ok (given : q ≠ .calculationMode) : ∃ v?, q.absent = .ok v? := by
  have listed : ∀ q ∈ all, q ≠ .calculationMode → q.absent.isOk = true := by decide +kernel
  have read := listed q q.mem_all given
  cases value : q.absent with
  | error e => rw [value] at read; cases read
  | ok v? => exact ⟨v?, rfl⟩

/-- What restates a parameter has the value that holds without it, or none where none holds. -/
theorem Restates.coerce {raw : Option String} (restates : q.Restates raw) :
    ∃ v, q.coerce raw = .ok v ∧
      (q.absent = .ok (some v) ∨ q.IsClearable ∧ q.absent = .ok none ∧ v = .null) := by
  cases restates with
  | @text text fallback =>
    have stands : q.absent = (q.coerce (some text)).map some := by rw [absent, fallback]
    obtain ⟨v?, value⟩ := absent_ok (q := q) (by rintro rfl; cases fallback)
    obtain ⟨v, read, rfl⟩ := map_eq_ok.mp (stands.symm.trans value)
    exact ⟨v, read, .inl value⟩
  | cleared clearable nothing =>
    have unset : q.absent = .ok none := by rw [absent, clearable.1]
    exact ⟨.null, coerce_noValue nothing, .inr ⟨clearable, unset, rfl⟩⟩

end Param

/-- To put no value in for a parameter that has none changes nothing. -/
theorem JobParams.set?_null {p : JobParams} {q : Param} (clearable : q.IsClearable)
    (unset : p.get? q = none) : p.set? q .null = some p := by
  obtain ⟨r, set⟩ : ∃ r, p.set? q .null = some r := by
    have free := clearable.1
    cases q <;> first | exact ⟨_, rfl⟩ | cases free
  have kept : q.kept .null = none := by
    have other : q ≠ .description := by
      rintro rfl
      cases clearable.1
    rw [Param.kept, if_neg other, if_neg (by rw [clearable.2]; exact Bool.false_ne_true)]
  have same : r = p := ext_get? fun other => by
    by_cases here : other = q
    · rw [here, get?_set?_self set, kept, unset]
    · exact get?_set?_other set here
  rw [set, same]

namespace Draft

/-- The values `padded` are `values`, and among them parameters that are explicitly without one. -/
inductive Padded : Values → Values → Prop
  | nil : Padded [] []
  | value {e : Param × ParamValue} {values padded : Values} : Padded values padded →
      Padded (e :: values) (e :: padded)
  | null {q : Param} {values padded : Values} : q.IsClearable → Padded values padded →
      Padded values ((q, .null) :: padded)

section Values

variable {values padded : Values}

theorem modeOf_padded (pads : Padded values padded) : modeOf padded = modeOf values := by
  have found : padded.lookup .calculationMode = values.lookup .calculationMode := by
    induction pads with
    | nil => rfl
    | @value e values padded _ ih => rw [List.lookup_cons, List.lookup_cons, ih]
    | @null q values padded clearable _ ih =>
      have other : (Param.calculationMode == q) = false := by
        refine beq_eq_false_iff_ne.mpr ?_
        rintro rfl
        cases clearable.1
      rw [List.lookup_cons, other, ih]
  rw [modeOf, found, modeOf]

/-- Where the record has no value, assigning none explicitly makes no difference. -/
theorem assignAll_padded {p : JobParams} (pads : Padded values padded)
    (distinct : (padded.map (·.1)).Nodup)
    (unset : ∀ e ∈ padded, e.1.IsClearable → p.get? e.1 = none) :
    assignAll p padded = assignAll p values := by
  induction pads generalizing p with
  | nil => rfl
  | @value e values padded _ ih =>
    obtain ⟨q, v⟩ := e
    obtain ⟨new, distinct⟩ := List.nodup_cons.mp distinct
    rw [assignAll, assignAll]
    cases assigned : p.assign q.name v with
    | error e => rfl
    | ok r =>
      refine ih distinct fun e member clearable => ?_
      have apart : e.1 ≠ q := fun same => new (List.mem_map.mpr ⟨e, member, same⟩)
      rw [JobParams.get?_set?_other (JobParams.assign_eq_ok.mp assigned) apart]
      exact unset e (List.mem_cons_of_mem _ member) clearable
  | @null q values padded clearable _ ih =>
    obtain ⟨-, distinct⟩ := List.nodup_cons.mp distinct
    have kept := JobParams.set?_null clearable (unset _ List.mem_cons_self clearable)
    rw [assignAll, JobParams.assign_eq_ok.mpr kept]
    exact ih distinct fun e member => unset e (List.mem_cons_of_mem _ member)

/-- Two runs in which a parameter has the same value, or is without one, explicitly in the second. -/
def Alike (given restated : Values) (q : Param) : Prop :=
  valueOf restated q = valueOf given q ∨
    q.IsClearable ∧ valueOf given q = .ok none ∧ valueOf restated q = .ok (some .null)

theorem allValues_alike {given restated : Values} {qs : List Param}
    (alike : ∀ q ∈ qs, Alike given restated q) :
    (∃ e, allValues given qs = .error e ∧ allValues restated qs = .error e) ∨
      ∃ values padded, allValues given qs = .ok values ∧ allValues restated qs = .ok padded ∧
        Padded values padded ∧ (padded.map (·.1)).Sublist qs := by
  induction qs with
  | nil => exact .inr ⟨[], [], rfl, rfl, .nil, .slnil⟩
  | cons q more ih =>
    have here := alike q List.mem_cons_self
    have later := ih fun other member => alike other (List.mem_cons_of_mem _ member)
    simp only [allValues]
    rcases here with same | ⟨clearable, nothing, null⟩
    · rw [same]
      cases valueOf given q with
      | error e => exact .inl ⟨e, rfl, rfl⟩
      | ok v? =>
        rcases later with ⟨e, first, second⟩ | ⟨values, padded, first, second, pads, listed⟩
        · exact .inl ⟨e, by rw [first]; rfl, by rw [second]; rfl⟩
        · rw [first, second]
          refine .inr ⟨_, _, rfl, rfl, ?_⟩
          cases v? with
          | none => exact ⟨pads, listed.cons q⟩
          | some v => exact ⟨pads.value, listed.cons_cons q⟩
    · rw [nothing, null]
      rcases later with ⟨e, first, second⟩ | ⟨values, padded, first, second, pads, listed⟩
      · exact .inl ⟨e, by rw [first]; rfl, by rw [second]; rfl⟩
      · rw [first, second]
        exact .inr ⟨_, _, rfl, rfl, .null clearable pads, listed.cons_cons q⟩

end Values

section Settings

/-- A name that is not among those of new settings. -/
def isOld (more : List (String × Option String)) (name : String) : Bool := !(more.map (·.1)).contains name

theorem isOld_eq_false {more : List (String × Option String)} {name : String} :
    isOld more name = false ↔ name ∈ more.map (·.1) := by
  simp [isOld]

variable {settings : List (String × Option String)}

/-- Settings that are read leave the error of the others as it is. -/
theorem givenValues_error {keep : String → Bool}
    (read : ∀ e ∈ settings, keep e.1 = false → ∃ given?, settingValue e.1 e.2 = .ok given?)
    (e : ParamError) :
    givenValues settings = .error e ↔
      givenValues (settings.filter fun setting => keep setting.1) = .error e := by
  induction settings with
  | nil => rfl
  | cons setting more ih =>
    obtain ⟨name, raw⟩ := setting
    have later := ih fun other member => read other (List.mem_cons_of_mem _ member)
    have prefixed (given? : Option (Param × ParamValue)) (rest : Except ParamError Values) :
        (rest >>= fun rest => pure (given?.toList ++ rest)) = .error e ↔ rest = .error e := by
      cases rest <;> simp [bind, Except.bind, pure, Except.pure]
    cases kept : keep name with
    | true =>
      rw [List.filter_cons_of_pos (by simp [kept]), givenValues, givenValues]
      cases settingValue name raw with
      | error other => rfl
      | ok given? => exact (prefixed given? _).trans (later.trans (prefixed given? _).symm)
    | false =>
      obtain ⟨given?, here⟩ := read _ List.mem_cons_self kept
      rw [List.filter_cons_of_neg (by simp [kept]), givenValues, here]
      exact (prefixed given? _).trans later

variable {d : Draft} {more : List (String × Option String)}
  (restated : ∀ e ∈ more, ∃ q : Param, e.1 = q.name ∧ q.Restates e.2)
  (unset : ∀ e ∈ more, d.settings.contains e.1 = false)

section New

include unset

/-- A name among the new settings has a value from them, and had none before. -/
theorem get?_setAll_new {name : String} (new : name ∈ more.map (·.1)) :
    d.settings.get? name = none ∧
      ∃ raw, (d.setAll more).settings.get? name = some raw ∧ (name, raw) ∈ more := by
  have vacant : d.settings.get? name = none := by
    obtain ⟨e, member, rfl⟩ := List.mem_map.mp new
    simpa [SortedMap.contains] using unset e member
  have present : name ∈ (d.settings.insertAll more).keys := SortedMap.mem_keys_insertAll_iff.mpr (.inr new)
  obtain ⟨raw, found⟩ := Option.isSome_iff_exists.mp (SortedMap.contains_iff_mem_keys.mpr present)
  refine ⟨vacant, raw, found, ?_⟩
  refine (SortedMap.mem_insertAll (SortedMap.get?_eq_some_iff.mp found)).resolve_left fun old => ?_
  rw [SortedMap.get?_eq_some_iff.mpr old] at vacant
  cases vacant

/-- Without the new settings, the settings are those from before. -/
theorem filter_setAll :
    (d.setAll more).settings.toList.filter (fun e => isOld more e.1) = d.settings.toList := by
  have out : ∀ e ∈ more, isOld more e.1 = false := fun e member =>
    isOld_eq_false.mpr (List.mem_map_of_mem (f := (·.1)) member)
  have all : d.settings.toList.filter (fun e => isOld more e.1) = d.settings.toList := by
    refine List.filter_eq_self.mpr fun e member => ?_
    by_contra new
    obtain ⟨vacant, -⟩ := get?_setAll_new unset (isOld_eq_false.mp (Bool.eq_false_iff.mpr new))
    have stands : d.settings.get? e.1 = some e.2 := SortedMap.get?_eq_some_iff.mpr member
    rw [vacant] at stands
    cases stands
  exact (congrArg SortedMap.toList (SortedMap.filter_insertAll (m := d.settings) out)).trans all

end New

include restated unset

/-- The settings of the second run are those of the first and some that are read. -/
theorem givenValues_restated (e : ParamError) :
    givenValues (d.setAll more).settings.toList = .error e ↔
      givenValues d.settings.toList = .error e := by
  have read : ∀ e ∈ (d.setAll more).settings.toList, isOld more e.1 = false →
      ∃ given?, settingValue e.1 e.2 = .ok given? := by
    intro e member new
    obtain ⟨-, raw, found, added⟩ := get?_setAll_new unset (isOld_eq_false.mp new)
    have same : some e.2 = some raw := (SortedMap.get?_eq_some_iff.mpr member).symm.trans found
    cases same
    obtain ⟨q, name, restates⟩ := restated _ added
    obtain ⟨v, value, -⟩ := restates.coerce
    exact ⟨some (q, v), by rw [name, settingValue, q.ofName?_name]; simp only [value]; rfl⟩
  rw [givenValues_error read, filter_setAll unset]

theorem alike_restated {given again : Values} (first : givenValues d.settings.toList = .ok given)
    (second : givenValues (d.setAll more).settings.toList = .ok again) (q : Param) :
    Alike given again q := by
  unfold Alike
  rw [valueOf_of_givenValues first, valueOf_of_givenValues second, settledValue, settledValue,
    SortedMap.lookup_toList, SortedMap.lookup_toList]
  by_cases new : q.name ∈ more.map (·.1)
  · -- The parameter is set in the second run only, by one of the new settings.
    obtain ⟨vacant, raw, found, added⟩ := get?_setAll_new unset new
    obtain ⟨other, name, restates⟩ := restated _ added
    obtain rfl : q = other := Param.name_injective name
    obtain ⟨v, value, holds⟩ := restates.coerce
    rw [vacant, found]
    dsimp only
    rw [value]
    rcases holds with same | ⟨clearable, nothing, rfl⟩
    · exact .inl same.symm
    · exact .inr ⟨clearable, nothing, rfl⟩
  · have same : (d.setAll more).settings.get? q.name = d.settings.get? q.name :=
      SortedMap.get?_insertAll_other fun e member name =>
        new (name ▸ List.mem_map_of_mem (f := (·.1)) member)
    exact .inl (by rw [same])

theorem paramsOf_restated :
    paramsOf (d.setAll more).settings.toList = paramsOf d.settings.toList := by
  have errors := givenValues_restated restated unset
  unfold paramsOf
  cases first : givenValues d.settings.toList with
  | error e => rw [(errors e).mpr first]
  | ok given =>
    cases second : givenValues (d.setAll more).settings.toList with
    | error e =>
      rw [(errors e).mp second] at first
      cases first
    | ok again =>
      have alike (q : Param) := alike_restated restated unset first second q
      show ((allValues again Param.all).mapError JobError.param >>= _) =
        ((allValues given Param.all).mapError JobError.param >>= _)
      rcases allValues_alike fun q (_ : q ∈ Param.all) => alike q with
        ⟨e, fails, fails'⟩ | ⟨values, padded, found, found', pads, listed⟩
      · rw [fails, fails']
      · rw [found, found']
        show ((modeOf padded).mapError JobError.assign >>= _) =
          ((modeOf values).mapError JobError.assign >>= _)
        rw [modeOf_padded pads]
        cases modeOf values with
        | error e => rfl
        | ok mode =>
          have distinct : (padded.map (·.1)).Nodup := Param.all_nodup.sublist listed
          exact congrArg (Except.mapError JobError.assign) (assignAll_padded pads distinct
            fun e _ clearable => get?_blank mode clearable.1)

omit unset in
theorem unknownNames_restated :
    unknownNames (d.setAll more).settings.toList = unknownNames d.settings.toList := by
  have names (m : SortedMap String (Option String)) : unknownNames m.toList =
      (m.filter fun name _ => (Param.ofName? name).isNone).keys := by
    rw [unknownNames, List.filter_map]
    rfl
  have known : ∀ e ∈ more, (Param.ofName? e.1).isNone = false := by
    intro e member
    obtain ⟨q, name, -⟩ := restated e member
    rw [name, q.ofName?_name]
    rfl
  rw [names, names]
  exact congrArg SortedMap.keys (SortedMap.filter_insertAll (m := d.settings)
    (p := fun name => (Param.ofName? name).isNone) known)

end Settings

/-- A parameter that is left out has the value that is declared for this case. Whichever parameters without a
setting are set to the text that stands in for them, and whichever of those that may stay unset, but for the
reference parameters, are explicitly set to no value, the draft is built into the same job, findings included, or
to the same error. -/
theorem build_setAll_restated {d : Draft} {more : List (String × Option String)}
    (restated : ∀ e ∈ more, ∃ q : Param, e.1 = q.name ∧ q.Restates e.2)
    (unset : ∀ e ∈ more, d.settings.contains e.1 = false) (files : FileTree) :
    (d.setAll more).build files = d.build files := by
  have inputs : (d.setAll more).inputs = d.inputs := rfl
  have assembled (params : JobParams) (tree? : Option LogicTree) :
      (d.setAll more).assemble params tree? = d.assemble params tree? := by
    simp only [assemble, unknownNames_restated restated]
    rfl
  unfold build
  rw [paramsOf_restated restated unset, inputs]
  simp only [assembled]

/-- What holds of a scenario that says nothing about it: two texts, and two parameters without a value. -/
def unsaid : List (String × Option String) :=
  [("export_dir", some "."), ("truncation_level", none), ("poes", some ""), ("region", some " None")]

theorem build_unsaid : ∃ job, scenario.build ⟨[], []⟩ = .ok job ∧
    (scenario.setAll unsaid).build ⟨[], []⟩ = .ok job := by
  have spelt : NoValue (some " None") := fun text same => Option.some.inj same ▸ rfl
  have restated : ∀ e ∈ unsaid, ∃ q : Param, e.1 = q.name ∧ q.Restates e.2 := by
    simp only [unsaid, List.forall_mem_cons]
    exact ⟨⟨.exportDir, rfl, .text rfl⟩, ⟨.truncationLevel, rfl, .cleared (by decide) nofun⟩,
      ⟨.poes, rfl, .text rfl⟩, ⟨.region, rfl, .cleared (by decide) spelt⟩, nofun⟩
  have unset : ∀ e ∈ unsaid, scenario.settings.contains e.1 = false := by decide +kernel
  have passes : (scenario.build ⟨[], []⟩).toOption.any (fun _ => true) = true := by decide +kernel
  obtain ⟨job, built, -⟩ := any_toOption_iff.mp passes
  exact ⟨job, built, (build_setAll_restated restated unset _).trans built⟩

end Draft
end HazardJob
