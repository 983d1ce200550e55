import HazardJob.Proofs.Job.Complete
import HazardJob.Proofs.Job.Written

/-! Jobs that are written to a job file and read back. The entries of the file make a draft with
every parameter and every input of the job, and the draft is built into the job again. -/
namespace HazardJob

namespace Job

/-- A job that a job file in any directory carries over. Its regions are those of its logic tree,
for a job file has no entry for others. -/
structure Portable (files : FileTree) (job : Job) : Prop where
  params : job.params.Portable
  inputs : ∀ e ∈ job.inputs.sources.toList, Document.PlainKey e.1 ∧ e.2.Listable
  regions : ∃ tree?, Draft.logicTree? files job.inputs = .ok tree? ∧ job.regions = treeRegions tree?

instance (files : FileTree) (job : Job) : Decidable (job.Portable files) :=
  decidable_of_iff (job.params.Portable ∧
      (∀ e ∈ job.inputs.sources.toList, Document.PlainKey e.1 ∧ e.2.Listable) ∧
      ∃ tree? ∈ (Draft.logicTree? files job.inputs).toOption, job.regions = treeRegions tree?) (by
    constructor
    · rintro ⟨params, inputs, tree?, tree, regions⟩
      exact ⟨params, inputs, tree?, toOption_eq_some.mp tree, regions⟩
    · rintro ⟨params, inputs, tree?, tree, regions⟩
      exact ⟨params, inputs, tree?, toOption_eq_some.mpr tree, regions⟩)

section Entries

theorem inputEntries_eq {job : Job} (listable : ∀ e ∈ job.inputs.sources.toList, e.2.Listable) :
    job.inputEntries = job.inputs.sources.toList.map fun e => (inputKey e.1, e.2.describe) := by
  have written : (job.inputs.toList.filter fun e => isWritten e.1 e.2) = job.inputs.sources.toList := by
    refine List.filter_congr fun e member => ?_
    by_cases own : e.1 = Role.jobFile
    · cases source : e.2 <;> simp [isWritten, own]
    · have files := listable e (List.mem_filter.mpr ⟨member, by simp [own]⟩)
      cases source : e.2 with
      | inline content =>
        rw [source] at files
        exact files.elim
      | _ => rfl
  rw [inputEntries_written, written]

end Entries

end Job

namespace Draft

section Entries

variable (cwd base : Path)

/-- The setting that an entry of a job file gives, if its key names no role. -/
def entrySetting? (e : String × String) : Option (String × Option String) :=
  if (inputRole? e.1).isNone then some (e.1, some (settingText cwd base e.1 e.2)) else none

/-- The input that an entry of a job file gives, if its key names a role. -/
def entrySource? (e : String × String) : Option (String × InputSource) :=
  (inputRole? e.1).bind fun role => (InputSource.ofText? cwd base e.2).map (role, ·)

/-- An entry is taken in as a setting or as an input; an input has to name a file. -/
theorem addEntry_ok_iff {d r : Draft} {e : String × String} :
    addEntry cwd base d e.1 e.2 = .ok r ↔
      ((inputRole? e.1).isSome = true → (InputSource.ofText? cwd base e.2).isSome = true) ∧
        { d with
          settings := d.settings.insertAll (entrySetting? cwd base e).toList
          inputs := d.inputs.insertAll (entrySource? cwd base e).toList } = r := by
  unfold addEntry entrySetting? entrySource?
  cases inputRole? e.1 with
  | none => simp [set, SortedMap.insertAll]
  | some role =>
    cases InputSource.ofText? cwd base e.2 with
    | none => simp
    | some source => simp [SortedMap.insertAll]

/-- Entries are taken in one by one. -/
theorem addEntries_ok_iff {d r : Draft} {es : List (String × String)} :
    addEntries cwd base d es = .ok r ↔
      (∀ e ∈ es, (inputRole? e.1).isSome = true →
        (InputSource.ofText? cwd base e.2).isSome = true) ∧
        { d with
          settings := d.settings.insertAll (es.filterMap (entrySetting? cwd base))
          inputs := d.inputs.insertAll (es.filterMap (entrySource? cwd base)) } = r := by
  induction es generalizing d with
  | nil => simp [addEntries, SortedMap.insertAll]
  | cons e more ih =>
    have step : addEntries cwd base d (e :: more) = .ok r ↔
        ∃ next, addEntry cwd base d e.1 e.2 = .ok next ∧ addEntries cwd base next more = .ok r :=
      bind_eq_ok
    simp only [step, addEntry_ok_iff, ih, List.forall_mem_cons, SortedMap.insertAll_filterMap_cons]
    constructor
    · rintro ⟨next, ⟨here, rfl⟩, later, same⟩
      exact ⟨⟨here, later⟩, same⟩
    · rintro ⟨⟨here, later⟩, same⟩
      exact ⟨_, ⟨here, rfl⟩, later, same⟩

/-- The draft that entries of a job file make, with what was found about them. -/
def ofEntries (values : SortedMap String String) (found : List Diagnostic) : Draft :=
  { empty with
    settings := SortedMap.ofList (values.toList.filterMap (entrySetting? cwd base))
    inputs := SortedMap.ofList (values.toList.filterMap (entrySource? cwd base))
    diagnostics := found }

/-- A job file describes the draft of its entries, if those that are inputs name files. -/
theorem ofText_ok_iff {text : String} {d : Draft} : ofText cwd base text = .ok d ↔
    ∃ document, Document.ofText text = .ok document ∧
      (∀ e ∈ document.flatten.1.toList, (inputRole? e.1).isSome = true →
        (InputSource.ofText? cwd base e.2).isSome = true) ∧
      ofEntries cwd base document.flatten.1 document.flatten.2 = d := by
  constructor
  · intro read
    obtain ⟨document, found, read⟩ := bind_eq_ok.mp read
    obtain ⟨r, taken, same⟩ := bind_eq_ok.mp read
    obtain ⟨named, rfl⟩ := (addEntries_ok_iff cwd base).mp taken
    exact ⟨document, mapError_eq_ok.mp found, named, Except.ok.inj same⟩
  · rintro ⟨document, found, named, rfl⟩
    have taken := (addEntries_ok_iff cwd base (d := empty)).mpr ⟨named, rfl⟩
    exact bind_eq_ok.mpr ⟨document, mapError_eq_ok.mpr found, bind_eq_ok.mpr ⟨_, taken, rfl⟩⟩

theorem entrySetting?_param {p : JobParams} (exportDir : p.exportDir.Settled) {q : Param}
    {v : ParamValue} (given : p.get? q = some v) :
    entrySetting? cwd base (q.name, v.raw) = some (q.name, some v.raw) := by
  have text : settingText cwd base q.name v.raw = v.raw := by
    unfold settingText
    split
    · rename_i directory
      simp only [Bool.and_eq_true, beq_iff_eq] at directory
      have same : q = .exportDir := Param.name_injective directory.1.1
      subst same
      cases given
      exact congrArg Path.text (exportDir.resolve cwd base)
    · rfl
  simp [entrySetting?, inputRole?_name, text]

theorem entrySource?_input {e : String × InputSource} (plain : Document.PlainKey e.1)
    (listable : e.2.Listable) : entrySource? cwd base (inputKey e.1, e.2.describe) = some e := by
  simp [entrySource?, inputRole?_inputKey plain.inhabited, listable.ofText?]

variable {files : FileTree} {job : Job} (portable : job.Portable files)
include portable

/-- The entries of a portable job are its settings and its inputs. -/
theorem entries_taken :
    (job.paramEntries ++ job.inputEntries).filterMap (entrySetting? cwd base) =
        job.paramEntries.map (fun e => (e.1, some e.2)) ∧
      (job.paramEntries ++ job.inputEntries).filterMap (entrySource? cwd base) =
        job.inputs.sources.toList ∧
      ∀ e ∈ job.paramEntries ++ job.inputEntries, (inputRole? e.1).isSome = true →
        (InputSource.ofText? cwd base e.2).isSome = true := by
  have settings : job.paramEntries.filterMap (entrySetting? cwd base) =
      job.paramEntries.map fun e => (e.1, some e.2) := by
    rw [← List.filterMap_eq_map]
    refine List.filterMap_congr fun e member => ?_
    obtain ⟨f, given, rfl⟩ := List.mem_map.mp member
    exact entrySetting?_param cwd base portable.params.exportDir (JobParams.mem_entries.mp given)
  have noSources : job.paramEntries.filterMap (entrySource? cwd base) = [] := by
    refine List.filterMap_eq_nil_iff.mpr fun e member => ?_
    obtain ⟨f, given, rfl⟩ := List.mem_map.mp member
    simp [entrySource?, inputRole?_name]
  have inputs := Job.inputEntries_eq fun e member => (portable.inputs e member).2
  have noSettings : job.inputEntries.filterMap (entrySetting? cwd base) = [] := by
    refine List.filterMap_eq_nil_iff.mpr fun e member => ?_
    obtain ⟨f, given, rfl⟩ := List.mem_map.mp (inputs ▸ member)
    simp [entrySetting?, inputRole?_inputKey (portable.inputs f given).1.inhabited]
  have sources : job.inputEntries.filterMap (entrySource? cwd base) = job.inputs.sources.toList := by
    rw [inputs, List.filterMap_map]
    conv_rhs => rw [← List.filterMap_some (l := job.inputs.sources.toList)]
    refine List.filterMap_congr fun e member => ?_
    exact entrySource?_input cwd base (portable.inputs e member).1 (portable.inputs e member).2
  rw [List.filterMap_append, List.filterMap_append, settings, noSources, noSettings, sources,
    List.append_nil, List.nil_append]
  refine ⟨rfl, rfl, ?_⟩
  intro e member role
  rcases List.mem_append.mp member with param | input
  · obtain ⟨f, given, rfl⟩ := List.mem_map.mp param
    rw [inputRole?_name] at role
    cases role
  · obtain ⟨f, given, rfl⟩ := List.mem_map.mp (inputs ▸ input)
    rw [(portable.inputs f given).2.ofText?]
    rfl

theorem plainEntries (complete : job.Complete files) :
    ∀ e ∈ job.paramEntries ++ job.inputEntries, Document.PlainEntry e := by
  intro e member
  rw [Job.inputEntries_eq fun e member => (portable.inputs e member).2] at member
  rcases List.mem_append.mp member with param | input
  · obtain ⟨f, given, rfl⟩ := List.mem_map.mp param
    exact portable.params.plainEntry complete.sourced given
  · obtain ⟨f, given, rfl⟩ := List.mem_map.mp input
    exact ⟨plainKey_inputKey (portable.inputs f given).1.plain, (portable.inputs f given).2.plainValue⟩

/-- A portable job is read back from its text: the settings are the texts of its values, and the
inputs are its own. -/
theorem ofText_write (complete : job.Complete files) :
    ∃ draft, ofText cwd base job.write = .ok draft ∧
      draft.settings.toList.Perm (job.paramEntries.map fun e => (e.1, some e.2)) ∧
      draft.inputs = job.inputs.sources ∧ draft.regions = ∅ ∧ draft.diagnostics = [] := by
  have distinct := job.keys_distinct
  have plain := plainEntries portable complete
  obtain ⟨settings, sources, found⟩ := entries_taken cwd base portable
  have listed := SortedMap.ofList_perm distinct
  have names : ((job.paramEntries.map fun e => (e.1, some e.2)).map (·.1)).Nodup := by
    rw [List.map_append] at distinct
    simpa only [List.map_map, Function.comp_def] using (List.nodup_append.mp distinct).1
  have flat := Document.flatten_close distinct
  have read := (ofText_ok_iff cwd base).mpr ⟨_, Document.ofText_write plain, fun e member =>
    found e (listed.mem_iff.mp (by rwa [flat] at member)), rfl⟩
  rw [flat] at read
  have kept := listed.filterMap (entrySetting? cwd base)
  have inputs := listed.filterMap (entrySource? cwd base)
  rw [settings] at kept
  rw [sources] at inputs
  refine ⟨_, read, ?_, SortedMap.ofList_of_perm inputs, rfl, rfl⟩
  exact (SortedMap.ofList_perm ((kept.map (·.1)).nodup_iff.mpr names)).trans kept

end Entries

section Build

theorem addAll_members (regions : RegionSet) :
    SortedSet.addAll (∅ : RegionSet) regions.members = regions := by
  have listed : SortedSet.addAll (∅ : RegionSet) regions.members =
      SortedMap.ofList regions.toList := by
    show (regions.toList.map (·.1)).foldl SortedSet.add ∅ = _
    rw [List.foldl_map]
    rfl
  rw [listed, SortedMap.ofList_toList]

theorem assemble_regions {d : Draft} (none : d.regions = ∅) (params : JobParams)
    (tree? : Option LogicTree) : (d.assemble params tree?).regions = Job.treeRegions tree? := by
  cases tree? with
  | none => exact none
  | some tree =>
    show SortedSet.addAll d.regions tree.regions.members = tree.regions
    rw [none, addAll_members]

theorem assemble_gsims (d : Draft) (params : JobParams) (tree? : Option LogicTree) :
    (d.assemble params tree?).gsims = Job.treeGsims params tree? := by
  cases tree? <;> rfl

/-- The logic tree of a job is the same without its job file, and where its file reads the same. -/
theorem logicTree?_sources {files later : FileTree} {inputs : InputSet}
    (unchanged : ∀ source, inputs.get? Role.gsimLogicTree = some source →
      source.read later = source.read files) :
    logicTree? later inputs.sources = logicTree? files inputs := by
  unfold logicTree?
  rw [inputs.get?_sources Role.gsimLogicTree (by decide)]
  cases given : inputs.get? Role.gsimLogicTree with
  | none => rfl
  | some source =>
    dsimp only
    unfold readTree
    rw [unchanged source given]

/-- Settings that are texts of values of a portable job make its parameters. -/
theorem paramsOf_texts {files : FileTree} {job : Job} {settings : List (String × Option String)}
    (complete : job.Complete files) (portable : job.Portable files)
    (texts : settings.Perm (job.paramEntries.map fun e => (e.1, some e.2))) :
    paramsOf settings = .ok job.params := by
  refine paramsOf_of_give (fun e member => ?_) (fun q v given => ?_) fun q =>
    (complete.sourced q).absent
  · obtain ⟨f, inside, rfl⟩ := List.mem_map.mp (texts.mem_iff.mp member)
    obtain ⟨g, given, rfl⟩ := List.mem_map.mp inside
    have stands := JobParams.mem_entries.mp given
    exact ⟨g.1, g.2, rfl, stands, portable.params.coerce_raw complete.sourced stands⟩
  · have inside := List.mem_map_of_mem (f := fun e : String × String => (e.1, some e.2))
      (List.mem_map_of_mem (f := fun e : Param × ParamValue => (e.1.name, e.2.raw))
        (JobParams.mem_entries.mpr given))
    exact List.mem_map_of_mem (texts.mem_iff.mpr inside)

theorem unknownNames_texts {job : Job} {settings : List (String × Option String)}
    (texts : settings.Perm (job.paramEntries.map fun e => (e.1, some e.2))) :
    unknownNames settings = [] := by
  refine List.filter_eq_nil_iff.mpr fun name member => ?_
  obtain ⟨e, setting, rfl⟩ := List.mem_map.mp member
  obtain ⟨f, entry, rfl⟩ := List.mem_map.mp (texts.mem_iff.mp setting)
  obtain ⟨g, -, rfl⟩ := List.mem_map.mp entry
  simp [Param.ofName?_name]

variable {files later : FileTree} {job : Job} (complete : job.Complete files)
  (portable : job.Portable files)
  (unchanged : ∀ source, job.inputs.get? Role.gsimLogicTree = some source →
    source.read later = source.read files)
  (passes : ∀ c : Check, c ≠ .exportDir → (c.run ⟨later, job⟩).1 = none)
include complete portable unchanged passes

/-- A draft with the settings and the inputs of a portable job is built into that job, as far as a
job file tells of it. -/
theorem build_texts {draft : Draft}
    (texts : draft.settings.toList.Perm (job.paramEntries.map fun e => (e.1, some e.2)))
    (inputs : draft.inputs = job.inputs.sources) (regions : draft.regions = ∅)
    (diagnostics : draft.diagnostics = []) :
    (draft.withRegistry job.registry).build later = .ok job.essence := by
  obtain ⟨tree?, tree, ownRegions⟩ := portable.regions
  obtain ⟨other, again, ownGsims⟩ := complete.gsims
  cases tree.symm.trans again
  have assembled : (draft.withRegistry job.registry).assemble job.params tree? = job.essence := by
    have sameRegions : ((draft.withRegistry job.registry).assemble job.params tree?).regions =
        job.regions := (assemble_regions regions job.params tree?).trans ownRegions.symm
    have sameGsims : ((draft.withRegistry job.registry).assemble job.params tree?).gsims =
        job.gsims := (assemble_gsims _ job.params tree?).trans ownGsims.symm
    show Job.mk job.params draft.inputs
      ((draft.withRegistry job.registry).assemble job.params tree?).regions
      ((draft.withRegistry job.registry).assemble job.params tree?).gsims
      (measuresOf job.params) job.registry (draft.diagnostics ++
        (unknownNames draft.settings.toList).map .unknownParameter) false = _
    rw [inputs, sameRegions, sameGsims, ← complete.measures, diagnostics, unknownNames_texts texts]
    rfl
  have given := paramsOf_texts complete portable texts
  have reread : logicTree? later draft.inputs = .ok tree? := by
    rw [inputs, logicTree?_sources unchanged, tree]
  have built := build_of (d := draft.withRegistry job.registry) given reread
  rw [assembled] at built
  exact built complete.settled fun c other => by
    rw [Job.finding_essence]
    exact passes c other

end Build

end Draft

namespace Job

section Equality

theorem measuresOf_beq {p : JobParams} (portable : p.Portable) (sourced : p.Sourced) :
    (Draft.measuresOf p == Draft.measuresOf p) = true := by
  unfold Draft.measuresOf
  cases levels : p.imtLevels with
  | some spec =>
    have given : p.get? .imtLevels = some (.imtLevels spec) := by
      rw [JobParams.get?, levels]
      rfl
    exact portable.value_beq sourced given
  | none =>
    refine beq_self_of_forall (ImtLevels.ofImts p.imtList).toList fun e member => ?_
    have nothing : e.2 = [] := by
      have value := SortedMap.mem_values_ofList (List.mem_map_of_mem (f := (·.2)) member)
      simp only [List.map_map, List.mem_map] at value
      obtain ⟨_, -, same⟩ := value
      exact same.symm
    show (e.1 == e.1 && e.2 == e.2) = true
    rw [nothing, beq_self_eq_true]
    rfl

/-- A portable job equals its essence. -/
theorem essence_beq {files : FileTree} {job : Job} (complete : job.Complete files)
    (portable : job.Portable files) : (job.essence == job) = true := by
  have params := portable.params.beq_self complete.sourced
  have inputs : job.inputs.sources.sameSources job.inputs = true := by
    unfold InputSet.sameSources
    rw [InputSet.sources_sources]
    exact job.inputs.sameSources_self
  have measures : (job.measures == job.measures) = true := by
    rw [complete.measures]
    exact measuresOf_beq portable.params complete.sourced
  show (job.params == job.params && job.inputs.sources.sameSources job.inputs &&
    decide (job.regions = job.regions) && job.gsims == job.gsims &&
    job.measures == job.measures) = true
  simp [params, inputs, measures]

theorem write_essence (job : Job) : job.essence.write = job.write := by
  have inputs : job.essence.inputEntries = job.inputEntries := by
    show (job.inputs.toList.filter fun e => e.1 != Role.jobFile).filterMap
      (fun e => inputEntry? e.1 e.2) = job.inputs.toList.filterMap fun e => inputEntry? e.1 e.2
    rw [List.filterMap_filter]
    refine List.filterMap_congr fun e _ => ?_
    by_cases own : e.1 = Role.jobFile
    · cases source : e.2 <;> simp [own, inputEntry?]
    · simp [own]
  unfold write
  rw [inputs]
  rfl

/-- There is nothing left to derive. -/
theorem underived {job : Job} (settled : job.PoesSettled)
    (oneImtSource : job.params.imtLevels.isSome = true → job.params.imtList = [])
    (meshSpacing : job.params.complexFaultMeshSpacing.isSome = true) :
    job.dropImtList.derivePoes.deriveMeshSpacing = job := by
  rw [dropImtList_of_oneSource oneImtSource, derivePoes_of_settled settled,
    deriveMeshSpacing_of_given meshSpacing]

end Equality

/-- A job passes validation wherever its essence does. -/
theorem validate_essence {job : Job} (settled : job.PoesSettled) (files : FileTree) :
    (Workspace.mk files job.essence).validate.1 = .ok () ↔
      (Workspace.mk files job).validate.1 = .ok () := by
  have essence : job.essence.PoesSettled := settled
  rw [Workspace.validate_ok_iff (w := ⟨files, job.essence⟩) essence,
    Workspace.validate_ok_iff (w := ⟨files, job⟩) settled]
  exact forall_congr' fun c => by rw [job.finding_essence]

end Job

namespace Draft

/-- A job that was built and has passed validation is read back from its text in any directory, if
it is portable: what is read is built, wherever the logic tree reads the same, into a job that
equals it and is written the same, that passes validation wherever it does, and that still equals
it when it has passed. -/
theorem reload {d : Draft} {files before : FileTree} {job : Job} {w : Workspace}
    (built : d.build files = .ok job) (passed : (Workspace.mk before job).validate = (.ok (), w))
    (portable : w.job.Portable files) (cwd base : Path) {later : FileTree}
    (unchanged : ∀ source, w.job.inputs.get? Role.gsimLogicTree = some source →
      source.read later = source.read files) :
    ∃ draft again v, ofText cwd base w.job.write = .ok draft ∧
      (draft.withRegistry w.job.registry).build later = .ok again ∧ (again == w.job) = true ∧
      again.write = w.job.write ∧
      (∀ now, (Workspace.mk now again).validate.1 = .ok () ↔
        (Workspace.mk now w.job).validate.1 = .ok ()) ∧
      (Workspace.mk w.files again).validate = (.ok (), v) ∧ (v.job == w.job) = true := by
  have complete := complete_of_validate built passed
  have passes := Workspace.validate_again (w := ⟨before, job⟩) (build_settled built) passed
  have each := (Workspace.validate_ok_iff complete.settled).mp passes
  have elsewhere : ∀ c : Check, c ≠ .exportDir → (c.run ⟨later, w.job⟩).1 = none := by
    intro c other
    rw [Check.finding_core (w := ⟨later, w.job⟩) (v := w) rfl fun first => absurd first other]
    exact each c
  obtain ⟨draft, read, texts, inputs, regions, diagnostics⟩ :=
    ofText_write cwd base portable complete
  have rebuilt := build_texts complete portable unchanged elsewhere texts inputs regions diagnostics
  have equal := Job.essence_beq complete portable
  have revalid : (Workspace.mk w.files w.job.essence).validate.1 = .ok () :=
    (Job.validate_essence complete.settled w.files).mpr passes
  refine ⟨draft, w.job.essence, (Workspace.mk w.files w.job.essence).validate.2, read, rebuilt, equal,
    w.job.write_essence, Job.validate_essence complete.settled, Prod.ext revalid rfl, ?_⟩
  have left := Workspace.job_of_validate (w := ⟨w.files, w.job.essence⟩) (Prod.ext revalid rfl)
  have settled : w.job.essence.PoesSettled := complete.settled
  rw [left, Job.underived settled complete.oneImtSource complete.meshSpacing]
  exact equal

/-- A logic tree for one region. -/
def volcanicTree : FileTree :=
  ⟨[], [(["gsim.xml"], .file ("<nrml><logicTree>" ++
    "<logicTreeBranchSet applyToTectonicRegionType='Volcanic'><logicTreeBranch>" ++
    "<uncertaintyModel>BooreAtkinson2008</uncertaintyModel>" ++
    "</logicTreeBranch></logicTreeBranchSet></logicTree></nrml>"))]⟩

/-- A scenario whose model stands in a logic tree, with a description that takes two lines. -/
def modelled : Draft :=
  let given := scenario.setAll [("gsim", none), ("description", some "A scenario\nwith a tree"),
    ("export_dir", some "/out"), ("maximum_distance", some "\x7b'Volcanic': 200\x7d")]
  given.addInputs (SortedMap.ofList
    [(Role.gsimLogicTree, .path ⟨"/gsim.xml"⟩), (Role.jobFile, .path ⟨"/job.ini"⟩)])

theorem modelled_reload : ∃ job w draft again v, modelled.build volcanicTree = .ok job ∧
    (Workspace.mk volcanicTree job).validate = (.ok (), w) ∧
    ofText ⟨"/"⟩ ⟨"/jobs"⟩ w.job.write = .ok draft ∧
    (draft.withRegistry w.job.registry).build volcanicTree = .ok again ∧ (again == w.job) = true ∧
    again.write = w.job.write ∧ (Workspace.mk w.files again).validate = (.ok (), v) ∧
    (v.job == w.job) = true := by
  have computed : ((modelled.build volcanicTree).toOption.any fun job =>
      (Workspace.mk volcanicTree job).validate.1.isOk &&
        decide ((Workspace.mk volcanicTree job).validate.2.job.Portable volcanicTree)) = true := by
    decide +kernel
  obtain ⟨job, built, passes⟩ := (Option.any_eq_true _ _).mp computed
  rw [Bool.and_eq_true, decide_eq_true_eq] at passes
  obtain ⟨passes, portable⟩ := passes
  have passed : (Workspace.mk volcanicTree job).validate = (.ok (), _) :=
    Prod.ext (isOk_iff.mp passes) rfl
  have built := toOption_eq_some.mp built
  obtain ⟨draft, again, v, read, rebuilt, equal, written, -, valid, still⟩ :=
    reload built passed portable ⟨"/"⟩ ⟨"/jobs"⟩ fun source given => rfl
  exact ⟨job, _, draft, again, v, built, passed, read, rebuilt, equal, written, valid, still⟩

end Draft
end HazardJob
