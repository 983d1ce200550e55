import HazardJob.Proofs.Job.Reload
import HazardJob.Proofs.Job.Resolved
import HazardJob.Proofs.Param.Given

/-! The paths of a job that a job file in an absolute directory describes. Those of its inputs are
absolute, and so is the directory for exports, if the job file names one. -/
namespace HazardJob
namespace Draft

section Entries

variable {cwd base : Path}

theorem addEntries_anywhere (absolute : base.isAbsolute = true) (cwd' : Path) (d : Draft)
    (es : List (String × String)) : addEntries cwd base d es = addEntries cwd' base d es := by
  have resolve := Path.resolve_anywhere absolute cwd cwd'
  have step (d : Draft) (key raw : String) :
      addEntry cwd base d key raw = addEntry cwd' base d key raw := by
    simp only [addEntry, settingText, InputSource.ofText?, resolve]
  induction es generalizing d with
  | nil => rfl
  | cons e more ih =>
    rw [addEntries, addEntries, step]
    exact congrArg _ (funext ih)

/-- A job file in an absolute directory means the same whatever directory the program runs in. -/
theorem ofText_anywhere (absolute : base.isAbsolute = true) (cwd' : Path) (text : String) :
    ofText cwd base text = ofText cwd' base text := by
  simp only [ofText, addEntries_anywhere absolute cwd']

/-- What a draft is made of that a job file describes. -/
theorem ofText_ok {text : String} {d : Draft} (read : ofText cwd base text = .ok d) :
    ∃ document, Document.ofText text = .ok document ∧
      d.settings = SortedMap.ofList (document.flatten.1.toList.filterMap (entrySetting? cwd base)) ∧
      d.inputs = SortedMap.ofList (document.flatten.1.toList.filterMap (entrySource? cwd base)) := by
  obtain ⟨document, found, -, rfl⟩ := (ofText_ok_iff cwd base).mp read
  exact ⟨document, found, rfl, rfl⟩

/-- The files of a draft that a job file describes are settled. -/
theorem settled_inputs (absolute : base.isAbsolute = true) {text : String} {d : Draft}
    (read : ofText cwd base text = .ok d) : ∀ e ∈ d.inputs.toList, ∀ p ∈ e.2.files, p.Settled := by
  obtain ⟨document, -, -, inputs⟩ := ofText_ok read
  intro e member
  rw [inputs] at member
  rcases SortedMap.mem_insertAll member with nothing | given
  · cases nothing
  obtain ⟨entry, -, source⟩ := List.mem_filterMap.mp given
  obtain ⟨role, -, source⟩ := Option.bind_eq_some_iff.mp source
  obtain ⟨found, named, rfl⟩ := Option.map_eq_some_iff.mp source
  exact InputSource.settled_of_ofText? absolute named

/-- A parameter is set by the entry for it, if there is one. -/
theorem lookup_settings {text : String} {d : Draft} (read : ofText cwd base text = .ok d) (q : Param) :
    ∃ document, Document.ofText text = .ok document ∧
      ((d.settings.toList.lookup q.name = none ∧ q.name ∉ document.entries.map (·.1)) ∨
        ∃ raw, d.settings.toList.lookup q.name = some (some (settingText cwd base q.name raw)) ∧
          q.name ∈ document.entries.map (·.1)) := by
  obtain ⟨document, found, settings, -⟩ := ofText_ok read
  refine ⟨document, found, ?_⟩
  rw [← document.mem_keys_flatten, settings]
  cases stands : (SortedMap.ofList (document.flatten.1.toList.filterMap
      (entrySetting? cwd base))).toList.lookup q.name with
  | none =>
    refine .inl ⟨rfl, fun member => ?_⟩
    obtain ⟨e, inside, key⟩ := List.mem_map.mp member
    have setting : entrySetting? cwd base e = some (q.name, some (settingText cwd base q.name e.2)) := by
      simp [entrySetting?, key, inputRole?_name]
    have listed : q.name ∈ (SortedMap.ofList (document.flatten.1.toList.filterMap
        (entrySetting? cwd base))).keys :=
      SortedMap.mem_keys_insertAll_iff.mpr (.inr (List.mem_map.mpr
        ⟨_, List.mem_filterMap.mpr ⟨e, inside, setting⟩, rfl⟩))
    obtain ⟨f, given, same⟩ := List.mem_map.mp listed
    have apart := List.lookup_eq_none_iff.mp stands f given
    simp [same] at apart
  | some raw? =>
    have listed : (q.name, raw?) ∈ (SortedMap.ofList (document.flatten.1.toList.filterMap
        (entrySetting? cwd base))).toList := by
      obtain ⟨before, after, whole, -⟩ := List.lookup_eq_some_iff.mp stands
      simp [whole]
    rcases SortedMap.mem_insertAll listed with nothing | given
    · cases nothing
    obtain ⟨⟨key, raw⟩, inside, setting⟩ := List.mem_filterMap.mp given
    unfold entrySetting? at setting
    split at setting
    · cases setting
      exact .inr ⟨raw, rfl, List.mem_map.mpr ⟨_, inside, rfl⟩⟩
    · cases setting

end Entries

section ExportDir

variable {cwd base : Path}

/-- The path that is read from a text is the text without the white space around it. -/
theorem text_of_path {raw : String} {p : Path}
    (read : Param.exportDir.coerce (some raw) = .ok (.path p)) :
    p.text.toList = Text.trim raw.toList ∧ raw ≠ "None" ∧ raw.isEmpty = false := by
  have read := Param.coerce_eq_ok.mp read
  simp only [Param.rule, Rule.coerce] at read
  split at read
  · cases read
  rename_i other
  simp only [Rule.read] at read
  split at read
  · cases read
  rename_i full
  cases read
  refine ⟨String.toList_ofList, ?_, ?_⟩
  · rintro rfl
    exact other rfl
  · refine Bool.eq_false_iff.mpr fun nothing => full ?_
    rw [String.isEmpty_iff.mp nothing]
    rfl

/-- A directory for exports that a job file names is absolute. -/
theorem isAbsolute_exportDir (absolute : base.isAbsolute = true) {raw : String} {p : Path}
    (read : Param.exportDir.coerce (some (settingText cwd base Param.exportDir.name raw)) =
      .ok (.path p)) : p.isAbsolute = true := by
  obtain ⟨text, given, full⟩ := text_of_path read
  unfold settingText at text given full
  split at text
  · have resolved : (Path.resolve cwd base raw).isAbsolute = true :=
      (Path.settled_resolve absolute raw).isAbsolute
    obtain ⟨rest, chars⟩ := Path.text_of_isAbsolute resolved
    obtain ⟨tail, trimmed⟩ := Text.trim_cons (c := '/') rfl rest
    rw [Path.isAbsolute, text, chars, trimmed]
    rfl
  · rename_i kept
    rw [if_neg kept] at given full
    have other : (raw != ParamValue.null.raw) = true := bne_iff_ne.mpr given
    simp [other, full] at kept

end ExportDir

theorem exportDir_of_paramsOf {settings : List (String × Option String)} {p : JobParams}
    (made : paramsOf settings = .ok p) :
    settledValue settings .exportDir = .ok (some (.path p.exportDir)) := by
  obtain ⟨v?, settled, stands⟩ := get?_of_paramsOf made .exportDir
  have value : v?.bind Param.exportDir.kept = some (.path p.exportDir) := stands.symm
  obtain ⟨v, rfl, kept⟩ := Option.bind_eq_some_iff.mp value
  rw [settled]
  cases v
  case imts measures => cases measures <;> cases kept
  all_goals cases kept
  rfl

/-- A job file in an absolute directory describes the same job in whatever directory the program runs, and
one with absolute inputs. The directory for exports is absolute exactly if the job file has an entry for
it, and is otherwise the one that the program runs in. -/
theorem paths_built {cwd base : Path} (absolute : base.isAbsolute = true) {text : String} {d : Draft}
    {files : FileTree} {job : Job} (read : ofText cwd base text = .ok d)
    (built : d.build files = .ok job) :
    (∀ cwd', ofText cwd' base text = .ok d) ∧
      (∀ e ∈ job.inputs.toList, ∀ p ∈ e.2.files, p.isAbsolute = true) ∧
      ∃ document, Document.ofText text = .ok document ∧
        (job.params.exportDir.isAbsolute = true ↔
          Param.exportDir.name ∈ document.entries.map (·.1)) ∧
        (Param.exportDir.name ∉ document.entries.map (·.1) → job.params.exportDir = ⟨"."⟩) := by
  obtain ⟨params, tree?, made, -, -, -, rfl⟩ := build_ok built
  obtain ⟨poes, diagnostics, same⟩ := (d.assemble params tree?).derivePoes_eq
  obtain ⟨document, found, stands⟩ := lookup_settings read .exportDir
  rw [same]
  have anywhere (cwd' : Path) : ofText cwd' base text = .ok d :=
    (ofText_anywhere absolute cwd text).trans read
  have inputs : ∀ e ∈ d.inputs.toList, ∀ p ∈ e.2.files, p.isAbsolute = true :=
    fun e member p file => (settled_inputs absolute read e member p file).isAbsolute
  refine ⟨anywhere, inputs, document, found, ?_⟩
  have settled := exportDir_of_paramsOf made
  unfold settledValue at settled
  rcases stands with ⟨nothing, unset⟩ | ⟨raw, given, set⟩
  · rw [nothing] at settled
    have here : Param.exportDir.absent = .ok (some (.path ⟨"."⟩)) := by rfl
    have dir : params.exportDir = ⟨"."⟩ := by
      rw [here] at settled
      injection settled with value
      injection value with value
      injection value with value
      exact value.symm
    have relative : params.exportDir.isAbsolute = false := by
      rw [dir]
      rfl
    exact ⟨⟨fun anchored => absurd (relative.symm.trans anchored) Bool.false_ne_true,
      fun set => absurd set unset⟩, fun _ => dir⟩
  · rw [given] at settled
    obtain ⟨v, coerced, value⟩ := map_eq_ok.mp settled
    cases value
    have anchored := isAbsolute_exportDir absolute coerced
    exact ⟨⟨fun _ => set, fun _ => anchored⟩, fun unset => absurd set unset⟩

section Scenario

/-- A scenario with a site model beside the job file. -/
def scenarioText : String :=
  "calculation_mode = scenario\ngsim = BooreAtkinson2008\nintensity_measure_types = PGA\n" ++
    "number_of_ground_motion_fields = 1\nsite_model_file = site_model.csv\n"

theorem exists_built {cwd base : Path} {text : String} {files : FileTree} {p : Job → Bool}
    (passes : ((ofText cwd base text).toOption.bind fun d => (d.build files).toOption).any p = true) :
    ∃ d job, ofText cwd base text = .ok d ∧ d.build files = .ok job ∧ p job = true := by
  obtain ⟨job, found, good⟩ := (Option.any_eq_true _ _).mp passes
  obtain ⟨d, read, built⟩ := Option.bind_eq_some_iff.mp found
  exact ⟨d, job, toOption_eq_some.mp read, toOption_eq_some.mp built, good⟩

theorem paths_built_named :
    ∃ d job, ofText ⟨"/WORK"⟩ ⟨"/WORK/jobs"⟩ (scenarioText ++ "export_dir = out\n") = .ok d ∧
      d.build ⟨[], []⟩ = .ok job ∧ (∀ e ∈ job.inputs.toList, ∀ p ∈ e.2.files, p.isAbsolute = true) ∧
      job.params.exportDir.isAbsolute = true := by
  have keys : (Document.ofText (scenarioText ++ "export_dir = out\n")).toOption.map
      (fun document => decide (Param.exportDir.name ∈ document.entries.map (·.1))) = some true := by
    decide +kernel
  have passes :
      ((ofText ⟨"/WORK"⟩ ⟨"/WORK/jobs"⟩ (scenarioText ++ "export_dir = out\n")).toOption.bind
        fun d => (d.build ⟨[], []⟩).toOption).any (fun _ => true) = true := by decide +kernel
  obtain ⟨d, job, read, built, -⟩ := exists_built passes
  obtain ⟨-, inputs, document, given, exportDir, -⟩ := paths_built (by decide +kernel) read built
  rw [given] at keys
  exact ⟨d, job, read, built, inputs, exportDir.mpr (by simpa [Except.toOption] using keys)⟩

/-- Without an entry for it, the directory for exports is relative. -/
theorem paths_built_unnamed :
    (Path.mk "/WORK/jobs").isAbsolute = true ∧
      ∃ d job, ofText ⟨"/WORK"⟩ ⟨"/WORK/jobs"⟩ scenarioText = .ok d ∧
        d.build ⟨[], []⟩ = .ok job ∧ (!job.params.exportDir.isAbsolute) = true :=
  ⟨by decide +kernel, exists_built (by decide +kernel)⟩

end Scenario

end Draft
end HazardJob
