import HazardJob.Job.Basic
import HazardJob.Proofs.Input

/-! The structure of a job file that is written. Its keys are those of the parameters that have a
value and of the inputs that stand in files; what the values hold makes no other line an entry, a
header, or nothing that can be read. -/
namespace HazardJob

namespace Job

/-- The input stands in files, and is not the job file itself. -/
def isWritten (role : String) : InputSource → Bool
  | .inline _ => false
  | _ => role != Role.jobFile

/-- The roles that a job file has entries for, in order. -/
def writtenRoles (job : Job) : List String :=
  (job.inputs.toList.filter fun e => isWritten e.1 e.2).map (·.1)

section Keys

theorem inputEntry?_eq (role : String) (source : InputSource) : inputEntry? role source =
    if isWritten role source then some (inputKey role, source.describe) else none := by
  by_cases own : role = Role.jobFile <;> cases source <;> simp [isWritten, own, inputEntry?]

theorem inputEntries_written (job : Job) :
    job.inputEntries = (job.inputs.toList.filter fun e => isWritten e.1 e.2).map fun e =>
      (inputKey e.1, e.2.describe) := by
  unfold inputEntries
  rw [← List.filterMap_eq_map, List.filterMap_filter]
  exact List.filterMap_congr fun e _ => inputEntry?_eq e.1 e.2

theorem keys_inputEntries (job : Job) :
    job.inputEntries.map (·.1) = job.writtenRoles.map inputKey := by
  simp only [inputEntries_written, writtenRoles, List.map_map, Function.comp_def]

theorem keys_paramEntries (job : Job) :
    job.paramEntries.map (·.1) = job.params.entries.map fun e => e.1.name := by
  simp only [paramEntries, List.map_map, Function.comp_def]

theorem writtenRoles_sublist (job : Job) : job.writtenRoles.Sublist job.inputs.keys :=
  List.filter_sublist.map _

/-- No two entries of a job file have one key. -/
theorem keys_distinct (job : Job) : ((job.paramEntries ++ job.inputEntries).map (·.1)).Nodup := by
  have names : (job.params.entries.map fun e => e.1.name).Nodup := by
    have listed : (job.params.entries.map fun e => e.1.name) =
        Param.all.filterMap fun q => (job.params.get? q).map fun _ => q.name := by
      simp only [JobParams.entries, List.map_filterMap, Option.map_map, Function.comp_def]
    rw [listed]
    refine List.Nodup.filterMap (fun q other name first second => ?_) Param.all_nodup
    obtain ⟨_, -, rfl⟩ := Option.map_eq_some_iff.mp first
    obtain ⟨_, -, same⟩ := Option.map_eq_some_iff.mp second
    exact (Param.name_injective same).symm
  have roles : job.writtenRoles.Nodup := job.inputs.keys_nodup.sublist job.writtenRoles_sublist
  rw [List.map_append, keys_paramEntries, keys_inputEntries, List.nodup_append]
  refine ⟨names, roles.map inputKey_injective, ?_⟩
  rintro name inParams key inInputs rfl
  obtain ⟨e, -, rfl⟩ := List.mem_map.mp inParams
  obtain ⟨role, -, same⟩ := List.mem_map.mp inInputs
  exact inputKey_ne_name role e.1 same

end Keys

section Written

variable {job : Job} (plain : ∀ role ∈ job.inputs.keys, ∀ c ∈ role.toList,
  Document.isPlainKeyChar c = true)

include plain

theorem settledKeys : ∀ e ∈ job.paramEntries ++ job.inputEntries, Document.SettledKey e.1 := by
  intro e member
  rcases List.mem_append.mp member with param | input
  · obtain ⟨f, -, rfl⟩ := List.mem_map.mp param
    exact (plainKey_name f.1).settled
  · have key : e.1 ∈ job.writtenRoles.map inputKey := by
      rw [← keys_inputEntries]
      exact List.mem_map_of_mem input
    obtain ⟨role, written, same⟩ := List.mem_map.mp key
    rw [← same]
    exact (plainKey_inputKey (plain role (job.writtenRoles_sublist.subset written))).settled

/-- What a job is written to has one section, with the entries of the job, each under its key. -/
theorem ofText_write : Document.ofText job.write =
    .ok ⟨[⟨Document.generalName, (job.paramEntries ++ job.inputEntries).map Document.rereadEntry⟩]⟩ := by
  have mode : (Param.calculationMode, ParamValue.mode job.mode) ∈ job.params.entries :=
    JobParams.mem_entries.mpr rfl
  have some : (job.paramEntries ++ job.inputEntries).map Document.rereadEntry ≠ [] := by
    simp only [ne_eq, List.map_eq_nil_iff, List.append_eq_nil_iff, not_and]
    intro nothing
    rw [paramEntries, List.map_eq_nil_iff] at nothing
    rw [nothing] at mode
    cases mode
  rw [write, Document.ofText_write_settled (settledKeys plain), Document.Progress.close,
    if_neg (by simpa using some)]
  rfl

/-- A job file that is written is read, whatever its values hold: as one section whose keys are the
names of the parameters that have a value and the keys of the inputs that stand in files, in order
and each of them once. -/
theorem keys_ofText_write : ∃ entries,
    Document.ofText job.write = .ok ⟨[⟨Document.generalName, entries⟩]⟩ ∧
      entries.map (·.1) =
        (job.params.entries.map fun e => e.1.name) ++ job.writtenRoles.map inputKey ∧
      (entries.map (·.1)).Nodup := by
  have keys : ((job.paramEntries ++ job.inputEntries).map Document.rereadEntry).map (·.1) =
      (job.paramEntries ++ job.inputEntries).map (·.1) := by
    simp only [List.map_map, Function.comp_def, Document.rereadEntry]
  refine ⟨_, ofText_write plain, ?_, ?_⟩
  · rw [keys, List.map_append, keys_paramEntries, keys_inputEntries]
  · rw [keys]
    exact job.keys_distinct

end Written

/-- A job with texts that look like parts of a job file. -/
def misleading : Job where
  params := { JobParams.blank .scenario with
    description := "a\n[general]\nposes = 1\n# b"
    hazardCalculationId := some "= ;\n[x" }
  inputs := SortedMap.ofList [(Role.exposure, .path ⟨"/a\nsites_csv = b"⟩),
    (Role.gmfs, .inline "[c]"), (Role.jobFile, .path ⟨"/job.ini"⟩)]
  regions := ∅
  gsims := ["[d]"]
  measures := ImtLevels.ofImts []
  registry := .builtin
  diagnostics := []
  validated := false

theorem keys_misleading :
    (∀ role ∈ misleading.inputs.keys, ∀ c ∈ role.toList, Document.isPlainKeyChar c = true) ∧
      ∃ entries, Document.ofText misleading.write = .ok ⟨[⟨"general", entries⟩]⟩ ∧
        entries.map (·.1) = (misleading.params.entries.map fun e => e.1.name) ++ ["exposure_file"] ∧
        (entries.map (·.1)).Nodup := by
  have chars : (misleading.inputs.keys.all fun role =>
      role.toList.all Document.isPlainKeyChar) = true := by decide +kernel
  have plain : ∀ role ∈ misleading.inputs.keys, ∀ c ∈ role.toList,
      Document.isPlainKeyChar c = true := by simpa only [List.all_eq_true] using chars
  exact ⟨plain, keys_ofText_write plain⟩

end Job
end HazardJob
