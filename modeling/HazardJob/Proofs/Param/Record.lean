import HazardJob.Job.Draft
import HazardJob.Proofs.Param.Coerce

/-! The parameters of a job as a record: a value that is put in is taken out again, and no other
value changes. Assigning all values of a record gives that record, and what a job is built with
holds only values that texts give. -/
namespace HazardJob

namespace Param

theorem mem_all (q : Param) : q ∈ all := by cases q <;> decide

theorem all_nodup : all.Nodup := by decide

theorem ofName?_name (q : Param) : ofName? q.name = some q := by
  have listed : ∀ q ∈ all, ofName? q.name = some q := by decide +kernel
  exact listed q q.mem_all

theorem name_injective {q other : Param} (same : q.name = other.name) : q = other :=
  Option.some.inj (q.ofName?_name.symm.trans (same ▸ other.ofName?_name))

/-- A parameter that may stand explicitly without a value. -/
def isReference (q : Param) : Bool :=
  q ∈ [referenceVs30Type, referenceVs30Value, referenceDepthTo1pt0, referenceDepthTo2pt5]

/-- What stands in a record once a value is put in for the parameter. No value makes the description
empty, stands as such for a reference parameter, and otherwise leaves nothing, as does an empty list
of intensity measures. -/
def kept (q : Param) : ParamValue → Option ParamValue
  | .null =>
    if q = .description then some (.text "")
    else if q.isReference then some .null
    else none
  | .imts [] => none
  | v => some v

end Param

namespace JobParams

section Fields

theorem map_inj {α : Type} {wrap : α → ParamValue} (injective : ∀ x y, wrap x = wrap y → x = y)
    {a b : Option α} : a.map wrap = b.map wrap ↔ a = b :=
  Option.map_inj_right injective

theorem referenceValue_inj {α : Type} {wrap : α → ParamValue}
    (injective : ∀ x y, wrap x = wrap y → x = y) (some : ∀ x, wrap x ≠ .null) {a b : Reference α} :
    referenceValue wrap a = referenceValue wrap b ↔ a = b := by
  refine ⟨fun same => ?_, congrArg _⟩
  cases a <;> cases b
  all_goals simp only [referenceValue, Option.some.injEq, reduceCtorEq] at same
  · rfl
  · rfl
  · exact absurd same.symm (some _)
  · exact absurd same (some _)
  · rw [injective _ _ same]

theorem imts_inj {a b : List Imt} :
    (if a.isEmpty then none else some (ParamValue.imts a)) =
      (if b.isEmpty then none else some (.imts b)) ↔ a = b := by
  cases a <;> cases b <;> simp

/-- Records with the same values are the same. -/
theorem ext_get? {p r : JobParams} (same : ∀ q, p.get? q = r.get? q) : p = r := by
  have each : ∀ q ∈ Param.all, p.get? q = r.get? q := fun q _ => same q
  simp only [Param.all, List.forall_mem_cons, List.not_mem_nil, false_implies, implies_true,
    and_true, get?, Option.some.injEq, ParamValue.mode.injEq, ParamValue.text.injEq,
    ParamValue.int.injEq, ParamValue.path.injEq, ParamValue.texts.injEq, ParamValue.float.injEq,
    ParamValue.points.injEq, ParamValue.bool.injEq, ParamValue.imtFloats.injEq,
    ParamValue.floats.injEq, imts_inj, map_inj fun _ _ => ParamValue.text.inj,
    map_inj fun _ _ => ParamValue.float.inj, map_inj fun _ _ => ParamValue.int.inj,
    map_inj fun _ _ => ParamValue.points.inj, map_inj fun _ _ => ParamValue.imtLevels.inj,
    map_inj fun _ _ => ParamValue.distance.inj, map_inj fun _ _ => ParamValue.correlation.inj,
    referenceValue_inj (fun _ _ => ParamValue.float.inj) nofun,
    referenceValue_inj (fun _ _ => ParamValue.vs30Type.inj) nofun] at each
  cases p
  cases r
  rw [mk.injEq]
  exact each

theorem map_beq {α : Type} [BEq α] (wrap : α → ParamValue)
    (kept : ∀ x y, (wrap x == wrap y) = (x == y)) (a b : Option α) :
    (a.map wrap == b.map wrap) = (a == b) := by
  cases a <;> cases b <;> simp [kept]

theorem referenceValue_beq {α : Type} [BEq α] (wrap : α → ParamValue)
    (kept : ∀ x y, (wrap x == wrap y) = (x == y))
    (some : ∀ x, (wrap x == .null) = false ∧ (.null == wrap x) = false) (a b : Reference α) :
    (referenceValue wrap a == referenceValue wrap b) = (a == b) := by
  cases a <;> cases b <;> simp [referenceValue, kept, some] <;> rfl

theorem imts_beq (a b : List Imt) :
    ((if a.isEmpty then none else some (ParamValue.imts a)) ==
      (if b.isEmpty then none else some (.imts b))) = (a == b) := by
  cases a <;> cases b <;> simp
  rfl

/-- Records with equal values are equal. -/
theorem beq_of_get? {p r : JobParams} (same : ∀ q, (p.get? q == r.get? q) = true) :
    (p == r) = true := by
  have each : ∀ q ∈ Param.all, (p.get? q == r.get? q) = true := fun q _ => same q
  have texts := map_beq ParamValue.text fun _ _ => rfl
  have ints := map_beq ParamValue.int fun _ _ => rfl
  have floats := map_beq ParamValue.float fun _ _ => rfl
  have points := map_beq ParamValue.points fun _ _ => rfl
  have levels := map_beq ParamValue.imtLevels fun _ _ => rfl
  have distances := map_beq ParamValue.distance fun _ _ => rfl
  have models := map_beq ParamValue.correlation fun _ _ => rfl
  have references := referenceValue_beq ParamValue.float (fun _ _ => rfl) fun _ => ⟨rfl, rfl⟩
  have kinds := referenceValue_beq ParamValue.vs30Type (fun _ _ => rfl) fun _ => ⟨rfl, rfl⟩
  simp only [Param.all, List.forall_mem_cons, List.not_mem_nil, false_implies, implies_true,
    and_true, get?, texts, ints, floats, points, levels, distances, models, references, kinds,
    imts_beq] at each
  cases p
  cases r
  show instBEqJobParams.beq _ _ = true
  unfold instBEqJobParams.beq
  simp only [Bool.and_eq_true]
  exact each

end Fields

section Laws

variable {p r : JobParams} {q : Param} {v : ParamValue}

/-- Setting a parameter changes no other. -/
theorem get?_set?_other (set : p.set? q v = some r) {other : Param} (apart : other ≠ q) :
    r.get? other = p.get? other := by
  cases q <;> cases v <;> cases set <;> cases other <;> first | rfl | exact absurd rfl apart

theorem referenceValue_eq_some {α : Type} {wrap : α → ParamValue} {a : Reference α}
    (given : referenceValue wrap a = some v) : v = .null ∨ ∃ x, v = wrap x := by
  cases a with
  | unspecified => cases given
  | null => exact .inl (Option.some.inj given).symm
  | value x => exact .inr ⟨x, (Option.some.inj given).symm⟩

theorem imts_eq_some {imts : List Imt}
    (given : (if imts.isEmpty then none else some (ParamValue.imts imts)) = some v) :
    imts ≠ [] ∧ v = .imts imts := by
  split at given
  · cases given
  · rename_i some
    exact ⟨by simpa using some, (Option.some.inj given).symm⟩

/-- A value that is taken out of one record can be put into any. -/
theorem set?_get? (given : r.get? q = some v) (p : JobParams) :
    ∃ s, p.set? q v = some s ∧ s.get? q = some v := by
  cases q
  case imtList =>
    obtain ⟨some, rfl⟩ := imts_eq_some given
    exact ⟨_, rfl, by simp [get?, some]⟩
  case referenceVs30Type | referenceVs30Value | referenceDepthTo1pt0 | referenceDepthTo2pt5 =>
    rcases referenceValue_eq_some given with rfl | ⟨x, rfl⟩
    · exact ⟨_, rfl, rfl⟩
    · exact ⟨_, rfl, rfl⟩
  all_goals first
    | cases given; exact ⟨_, rfl, rfl⟩
    | obtain ⟨x, -, rfl⟩ := Option.map_eq_some_iff.mp given; exact ⟨_, rfl, rfl⟩

/-- What is taken out is what was put in, as far as the parameter keeps it. -/
theorem get?_set?_self (set : p.set? q v = some r) : r.get? q = q.kept v := by
  cases q <;> cases v <;> cases set
  case imtList.imts imts => cases imts <;> rfl
  all_goals rfl

/-- What is taken out is what was put in; only the description has a text for no value. -/
theorem get?_set? (set : p.set? q v = some r) {w : ParamValue} (given : r.get? q = some w) :
    w = v ∨ q = .description ∧ w = .text "" := by
  rw [get?_set?_self set] at given
  unfold Param.kept at given
  split at given
  · split at given
    · rename_i description
      exact .inr ⟨description, (Option.some.inj given).symm⟩
    · split at given
      · exact .inl (Option.some.inj given).symm
      · cases given
  · cases given
  · exact .inl (Option.some.inj given).symm

/-- Only a parameter that a job may go without is left without a value. -/
theorem fallback_of_set? (set : p.set? q v = some r) (nothing : r.get? q = none) :
    q.fallback = .unspecified := by
  cases q <;> cases v <;> cases set <;> first | rfl | cases nothing

end Laws

theorem assign_eq_ok {p r : JobParams} {q : Param} {v : ParamValue} :
    p.assign q.name v = .ok r ↔ p.set? q v = some r := by
  rw [assign, Param.ofName?_name, Option.bind_some]
  cases p.set? q v <;> simp

end JobParams

namespace Draft

theorem assignAll_cons {p r : JobParams} {q : Param} {v : ParamValue} {more : Values} :
    assignAll p ((q, v) :: more) = .ok r ↔
      ∃ s, p.set? q v = some s ∧ assignAll s more = .ok r := by
  rw [assignAll, bind_eq_ok]
  simp only [JobParams.assign_eq_ok]

section Entries

/-- The values of parameters, as far as they have any. -/
def valuesOf (value? : Param → Option ParamValue) (qs : List Param) : Values :=
  qs.filterMap fun q => (value? q).map (q, ·)

theorem valuesOf_cons (value? : Param → Option ParamValue) (q : Param) (more : List Param) :
    valuesOf value? (q :: more) = ((value? q).map (q, ·)).toList ++ valuesOf value? more := by
  unfold valuesOf
  cases given : value? q <;> simp [given]

/-- Assigning values of one record to another moves these, and no others. -/
theorem assignAll_valuesOf {p r : JobParams} {qs : List Param} (distinct : qs.Nodup)
    (vacant : ∀ q ∈ qs, r.get? q = none → p.get? q = none) :
    ∃ s, assignAll p (valuesOf r.get? qs) = .ok s ∧
      ∀ q, s.get? q = if q ∈ qs then r.get? q else p.get? q := by
  induction qs generalizing p with
  | nil => exact ⟨p, rfl, by simp⟩
  | cons q more ih =>
    obtain ⟨new, distinct⟩ := List.nodup_cons.mp distinct
    rw [valuesOf_cons]
    cases given : r.get? q with
    | none =>
      obtain ⟨s, assigned, values⟩ := ih distinct fun other member =>
        vacant other (List.mem_cons_of_mem _ member)
      refine ⟨s, assigned, fun other => ?_⟩
      rw [values other]
      by_cases same : other = q
      · subst same
        simp [new, given, vacant other List.mem_cons_self given]
      · simp [same]
    | some v =>
      obtain ⟨t, set, stored⟩ := JobParams.set?_get? given p
      obtain ⟨s, assigned, values⟩ := ih (p := t) distinct fun other member nothing => by
        have apart : other ≠ q := fun same => new (same ▸ member)
        rw [JobParams.get?_set?_other set apart]
        exact vacant other (List.mem_cons_of_mem _ member) nothing
      refine ⟨s, assignAll_cons.mpr ⟨t, set, assigned⟩, fun other => ?_⟩
      rw [values other]
      by_cases same : other = q
      · subst same
        simp [new, stored, given]
      · simp [same, JobParams.get?_set?_other set same]

/-- A record is what assigning all its values to a blank one gives. -/
theorem assignAll_entries (p : JobParams) :
    assignAll (.blank p.calculationMode) p.entries = .ok p := by
  obtain ⟨s, assigned, values⟩ := assignAll_valuesOf (p := .blank p.calculationMode) (r := p)
    Param.all_nodup fun q _ nothing => by
      cases q <;> first | rfl | cases nothing
  have same : s = p := JobParams.ext_get? fun q => by simp [values q, q.mem_all]
  rwa [same] at assigned

end Entries

end Draft

/-- A value that some text gives for the parameter, or none for one that a job may go without. -/
structure Param.Admits (q : Param) (v? : Option ParamValue) : Prop where
  read : ∀ v, v? = some v → ∃ raw, q.coerce (some raw) = .ok v
  absent : v? = none → q.fallback = .unspecified

/-- Parameters that are read alike admit the same values. -/
theorem Param.Admits.of_rule {q other : Param} {v : ParamValue} (admits : q.Admits (some v))
    (rule : q.rule = other.rule) : other.Admits (some v) where
  read w given := by
    obtain ⟨raw, read⟩ := admits.read w given
    rw [coerce_eq_ok, rule] at read
    exact ⟨raw, coerce_eq_ok.mpr read⟩
  absent := nofun

/-- Every value of the record is one that a text gives, and only what may be missing is. -/
def JobParams.Sourced (p : JobParams) : Prop := ∀ q : Param, q.Admits (p.get? q)

/-- A value of the record has been read by the rule of its parameter, if it is not null. -/
theorem JobParams.Sourced.rule_read {p : JobParams} (sourced : p.Sourced) {q : Param} {v : ParamValue}
    (given : p.get? q = some v) : v = .null ∨ ∃ text, q.rule.read text = .ok v := by
  obtain ⟨raw, read⟩ := (sourced q).read v given
  rcases Rule.coerce_ok (Param.coerce_eq_ok.mp read) with null | ⟨text, -, -, read⟩
  · exact .inl null
  · exact .inr ⟨text, read⟩

namespace Draft

section Sources

theorem coerce_some_of_ok {q : Param} {raw : Option String} {v : ParamValue}
    (read : q.coerce raw = .ok v) : ∃ text, q.coerce (some text) = .ok v := by
  cases raw with
  | none =>
    cases read
    exact ⟨"None", rfl⟩
  | some text => exact ⟨text, read⟩

theorem admits_of_set? {p r : JobParams} {q : Param} {v : ParamValue}
    (read : ∃ raw, q.coerce (some raw) = .ok v) (set : p.set? q v = some r) :
    q.Admits (r.get? q) where
  read w given := by
    rcases JobParams.get?_set? set given with rfl | ⟨rfl, rfl⟩
    · exact read
    · exact ⟨"", rfl⟩
  absent := JobParams.fallback_of_set? set

/-- Values that texts give make a sourced record of one that is sourced everywhere else. -/
theorem sourced_of_assignAll {p r : JobParams} {values : Values}
    (assigned : assignAll p values = .ok r)
    (read : ∀ e ∈ values, ∃ raw, e.1.coerce (some raw) = .ok e.2)
    (others : ∀ q, q ∉ values.map (·.1) → q.Admits (p.get? q)) : r.Sourced := by
  induction values generalizing p with
  | nil =>
    cases assigned
    exact fun q => others q List.not_mem_nil
  | cons e more ih =>
    obtain ⟨q, v⟩ := e
    obtain ⟨s, set, assigned⟩ := assignAll_cons.mp assigned
    refine ih assigned (fun f member => read f (List.mem_cons_of_mem _ member)) fun other later => ?_
    by_cases same : other = q
    · subst same
      have source : ∃ raw, other.coerce (some raw) = .ok v := read (other, v) List.mem_cons_self
      exact admits_of_set? source set
    · rw [JobParams.get?_set?_other set same]
      exact others other (by simpa [same] using later)

theorem settingValue_ok {name : String} {raw : Option String} {given? : Option (Param × ParamValue)}
    (read : settingValue name raw = .ok given?) :
    ∀ e ∈ given?, ∃ text, e.1.coerce (some text) = .ok e.2 := by
  intro e given
  cases given
  unfold settingValue at read
  split at read
  · cases read
  · obtain ⟨v, found, same⟩ := map_eq_ok.mp read
    cases same
    exact coerce_some_of_ok found

theorem givenValues_ok {settings : List (String × Option String)} {given : Values}
    (read : givenValues settings = .ok given) :
    ∀ e ∈ given, ∃ text, e.1.coerce (some text) = .ok e.2 := by
  induction settings generalizing given with
  | nil =>
    cases read
    exact fun e member => absurd member List.not_mem_nil
  | cons setting more ih =>
    obtain ⟨name, raw⟩ := setting
    obtain ⟨first, here, read⟩ := bind_eq_ok.mp read
    obtain ⟨others, later, read⟩ := bind_eq_ok.mp read
    cases read
    intro e member
    rcases List.mem_append.mp member with inFirst | inOthers
    · exact settingValue_ok here e (by simpa using inFirst)
    · exact ih later e inOthers

theorem valueOf_admits {given : Values} (read : ∀ e ∈ given, ∃ text, e.1.coerce (some text) = .ok e.2)
    {q : Param} {v? : Option ParamValue} (found : valueOf given q = .ok v?) : q.Admits v? := by
  unfold valueOf at found
  split at found
  · rename_i v stands
    cases found
    have member : (q, v) ∈ given := by
      obtain ⟨before, after, rfl, -⟩ := List.lookup_eq_some_iff.mp stands
      simp
    exact ⟨fun w same => by cases same; exact read _ member, nofun⟩
  · unfold Param.absent at found
    split at found
    · cases found
    · rename_i without
      cases found
      exact ⟨nofun, fun _ => without⟩
    · obtain ⟨w, filled, rfl⟩ := map_eq_ok.mp found
      exact ⟨fun v same => by cases same; exact ⟨_, filled⟩, nofun⟩

theorem allValues_of {given : Values} {value? : Param → Option ParamValue} {qs : List Param}
    (each : ∀ q ∈ qs, valueOf given q = .ok (value? q)) :
    allValues given qs = .ok (valuesOf value? qs) := by
  induction qs with
  | nil => rfl
  | cons q more ih =>
    rw [allValues, each q List.mem_cons_self, valuesOf_cons]
    show (allValues given more >>= _) = _
    rw [ih fun other member => each other (List.mem_cons_of_mem _ member)]
    rfl

theorem valueOf_of_allValues {given values : Values} {qs : List Param}
    (found : allValues given qs = .ok values) {q : Param} (member : q ∈ qs) :
    ∃ v?, valueOf given q = .ok v? := by
  induction qs generalizing values with
  | nil => cases member
  | cons first more ih =>
    obtain ⟨v?, here, found⟩ := bind_eq_ok.mp found
    obtain ⟨others, later, -⟩ := bind_eq_ok.mp found
    rcases List.mem_cons.mp member with rfl | member
    · exact ⟨v?, here⟩
    · exact ih later member

theorem mem_valuesOf {value? : Param → Option ParamValue} {qs : List Param} {q : Param}
    {v : ParamValue} : (q, v) ∈ valuesOf value? qs ↔ q ∈ qs ∧ value? q = some v := by
  simp only [valuesOf, List.mem_filterMap, Option.map_eq_some_iff, Prod.mk.injEq]
  constructor
  · rintro ⟨_, member, _, given, rfl, rfl⟩
    exact ⟨member, given⟩
  · rintro ⟨member, given⟩
    exact ⟨q, member, v, given, rfl, rfl⟩

theorem get?_blank (mode : CalculationMode) {q : Param} (free : q.fallback = .unspecified) :
    (JobParams.blank mode).get? q = none := by
  cases q <;> first | rfl | cases free

/-- What a job is built with is assigned, parameter by parameter, from what its settings give. -/
theorem paramsOf_ok {settings : List (String × Option String)} {p : JobParams}
    (made : paramsOf settings = .ok p) :
    ∃ given value? mode, givenValues settings = .ok given ∧
      (∀ q, valueOf given q = .ok (value? q)) ∧
      assignAll (.blank mode) (valuesOf value? Param.all) = .ok p := by
  obtain ⟨given, read, made⟩ := bind_eq_ok.mp made
  obtain ⟨values, found, made⟩ := bind_eq_ok.mp made
  obtain ⟨mode, -, made⟩ := bind_eq_ok.mp made
  choose value? each using fun q : Param =>
    valueOf_of_allValues (mapError_eq_ok.mp found) q.mem_all
  have listed := allValues_of fun q (_ : q ∈ Param.all) => each q
  rw [mapError_eq_ok.mp found] at listed
  cases listed
  exact ⟨given, value?, mode, mapError_eq_ok.mp read, each, mapError_eq_ok.mp made⟩

/-- What a job is built with is sourced. -/
theorem paramsOf_sourced {settings : List (String × Option String)} {p : JobParams}
    (made : paramsOf settings = .ok p) : p.Sourced := by
  obtain ⟨given, value?, mode, read, each, assigned⟩ := paramsOf_ok made
  have admits (q : Param) : q.Admits (value? q) := valueOf_admits (givenValues_ok read) (each q)
  refine sourced_of_assignAll assigned (fun e member => ?_) fun q without => ?_
  · exact (admits e.1).read e.2 (mem_valuesOf.mp member).2
  · have nothing : value? q = none := by
      cases stands : value? q with
      | none => rfl
      | some v =>
        exact absurd (List.mem_map_of_mem (mem_valuesOf.mpr ⟨q.mem_all, stands⟩)) without
    have free := (admits q).absent nothing
    rw [get?_blank mode free]
    exact ⟨nofun, fun _ => free⟩

end Sources

section Settings

/-- Settings give a record if each gives the value that stands there. -/
def Give (settings : List (String × Option String)) (p : JobParams) : Prop :=
  ∀ e ∈ settings, ∃ q v, e.1 = Param.name q ∧ p.get? q = some v ∧ q.coerce e.2 = .ok v

theorem givenValues_of {p : JobParams} {settings : List (String × Option String)}
    (give : Give settings p) : ∃ given, givenValues settings = .ok given ∧
      ∀ q : Param, given.lookup q = if q.name ∈ settings.map (·.1) then p.get? q else none := by
  induction settings with
  | nil => exact ⟨[], rfl, fun q => by simp⟩
  | cons e more ih =>
    obtain ⟨name, raw⟩ := e
    obtain ⟨q, v, rfl, stands, read⟩ := give _ List.mem_cons_self
    obtain ⟨given, later, values⟩ := ih fun f member => give f (List.mem_cons_of_mem _ member)
    have here : settingValue q.name raw = .ok (some (q, v)) := by
      simp only [settingValue, q.ofName?_name, read]
      rfl
    refine ⟨(q, v) :: given, ?_, fun other => ?_⟩
    · rw [givenValues, here]
      show (givenValues more >>= _) = _
      rw [later]
      rfl
    · by_cases same : other = q
      · subst same
        simp [stands]
      · have differs : (other == q) = false := beq_eq_false_iff_ne.mpr same
        have apart : other.name ≠ q.name := fun names => same (Param.name_injective names)
        have listed : other.name ∈ ((q.name, raw) :: more).map (·.1) ↔
            other.name ∈ more.map (·.1) := by simp [apart]
        simp only [List.lookup_cons, differs, values other, listed]

/-- Settings that give every value of a record make that record, if nothing is missing from it
that a job has to have. -/
theorem paramsOf_of_give {p : JobParams} {settings : List (String × Option String)}
    (give : Give settings p)
    (all : ∀ q v, p.get? q = some v → q.name ∈ settings.map (·.1))
    (missing : ∀ q, p.get? q = none → q.fallback = .unspecified) : paramsOf settings = .ok p := by
  obtain ⟨given, read, values⟩ := givenValues_of give
  have each (q : Param) : valueOf given q = .ok (p.get? q) := by
    unfold valueOf
    rw [values q]
    cases stands : p.get? q with
    | some v => simp [all q v stands]
    | none => simp [Param.absent, missing q stands]
  have listed : allValues given Param.all = .ok p.entries := allValues_of fun q _ => each q
  have mode : modeOf p.entries = .ok p.calculationMode := rfl
  have assigned := assignAll_entries p
  refine bind_eq_ok.mpr ⟨given, mapError_eq_ok.mpr read, bind_eq_ok.mpr ⟨p.entries,
    mapError_eq_ok.mpr listed, bind_eq_ok.mpr ⟨p.calculationMode, mapError_eq_ok.mpr mode, ?_⟩⟩⟩
  exact mapError_eq_ok.mpr assigned

end Settings

end Draft

/-- The entries of a record are what its parameters give. -/
theorem JobParams.mem_entries {p : JobParams} {q : Param} {v : ParamValue} :
    (q, v) ∈ p.entries ↔ p.get? q = some v := by
  have listed : (q, v) ∈ p.entries ↔ q ∈ Param.all ∧ p.get? q = some v := Draft.mem_valuesOf
  rw [listed]
  simp [q.mem_all]

end HazardJob
