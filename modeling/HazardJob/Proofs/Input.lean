import HazardJob.Job.File
import HazardJob.Proofs.Document.Written
import HazardJob.Proofs.Param.Record

/-! Inputs that are written to a job file and read back. The key of an input names its role and no
parameter, and files whose paths are settled are found again from any directory. -/
namespace HazardJob

/-- An absolute path in the form that absolute paths are brought into. -/
structure Path.Settled (p : Path) : Prop where
  isAbsolute : p.isAbsolute = true
  unchanged : ∀ cwd, Path.absolute cwd p = p

instance (p : Path) : Decidable p.Settled :=
  decidable_of_iff (p.isAbsolute = true ∧ Path.absolute ⟨"/"⟩ p = p) (by
    refine ⟨fun both => ⟨both.1, fun cwd => ?_⟩,
      fun settled => ⟨settled.isAbsolute, settled.unchanged _⟩⟩
    have same : Path.absolute cwd p = Path.absolute ⟨"/"⟩ p := by
      simp only [Path.absolute, both.1, Bool.not_true, Bool.false_eq_true, if_false]
    rw [same, both.2])

theorem Path.Settled.resolve {p : Path} (settled : p.Settled) (cwd base : Path) :
    Path.resolve cwd base p.text = p := by
  have joined : base.join ⟨p.text⟩ = p := by
    unfold Path.join
    rw [if_pos settled.isAbsolute]
  rw [Path.resolve, joined, settled.unchanged]

theorem Path.Settled.inhabited {p : Path} (settled : p.Settled) : p.text.toList ≠ [] := by
  intro nothing
  have start := settled.isAbsolute
  simp [Path.isAbsolute, nothing] at start

/-- A settled path that can stand among others. -/
structure Path.Listable (p : Path) : Prop extends Path.Settled p where
  solid : ∀ c ∈ p.text.toList, Text.isBlank c = false

instance (p : Path) : Decidable p.Listable :=
  decidable_of_iff (p.Settled ∧ p.text.toList.all (!Text.isBlank ·) = true) (by
    simp only [List.all_eq_true, Bool.not_eq_true']
    exact ⟨fun both => ⟨both.1, both.2⟩, fun listable => ⟨listable.toSettled, listable.solid⟩⟩)

namespace InputSource

/-- One file, or several, that can be listed. -/
def Listable : InputSource → Prop
  | path p => p.Listable
  | paths ps => 2 ≤ ps.length ∧ ∀ p ∈ ps, p.Listable
  | inline _ => False

instance (source : InputSource) : Decidable source.Listable := by
  unfold Listable
  cases source <;> infer_instance

/-- The paths of the files. -/
def files : InputSource → List Path
  | path p => [p]
  | paths ps => ps
  | inline _ => []

theorem Listable.files {source : InputSource} (listable : source.Listable) :
    ∀ p ∈ source.files, p.Listable := by
  cases source with
  | path p => exact List.forall_mem_singleton.mpr listable
  | paths ps => exact listable.2
  | inline content => exact listable.elim

/-- The place of an input lists its files. -/
theorem describe_files {source : InputSource} (some : source.files ≠ []) :
    source.describe.toList = [' '].intercalate (source.files.map (·.text.toList)) := by
  have space : " ".toList = [' '] := rfl
  cases source with
  | path p => simp [files, describe]
  | paths ps =>
    rw [describe, Text.toList_join, space, List.map_map]
    rfl
  | inline content => exact absurd rfl some

theorem Listable.describe {source : InputSource} (listable : source.Listable) :
    source.describe.toList = [' '].intercalate (source.files.map (·.text.toList)) := by
  refine describe_files ?_
  cases source with
  | path p => exact List.cons_ne_nil p []
  | paths ps =>
    obtain ⟨several, -⟩ := listable
    exact List.ne_nil_of_length_pos (Nat.lt_of_lt_of_le Nat.zero_lt_two several)
  | inline content => exact listable.elim

/-- Listed files are found again from any directory. -/
theorem Listable.ofText? {source : InputSource} (listable : source.Listable) (cwd base : Path) :
    InputSource.ofText? cwd base source.describe = some source := by
  have words : Text.words source.describe.toList = source.files.map (·.text.toList) := by
    rw [listable.describe]
    refine Text.fields_intercalate (List.forall_mem_singleton.mpr rfl) (by simp) fun part member => ?_
    obtain ⟨p, given, rfl⟩ := List.mem_map.mp member
    exact ⟨(listable.files p given).inhabited, (listable.files p given).solid⟩
  have resolved : (Text.words source.describe.toList).map
      (fun word => Path.resolve cwd base (String.ofList word)) = source.files := by
    rw [words, List.map_map]
    conv_rhs => rw [← List.map_id source.files]
    refine List.map_congr_left fun p given => ?_
    simp only [Function.comp_apply, String.ofList_toList, id_eq]
    exact (listable.files p given).resolve cwd base
  unfold InputSource.ofText?
  rw [resolved]
  cases source with
  | path p => rfl
  | paths ps =>
    obtain ⟨several, -⟩ := listable
    match ps, several with
    | _ :: _ :: _, _ => rfl
  | inline content => exact listable.elim

/-- Listed files take a single line. -/
theorem Listable.plainValue {source : InputSource} (listable : source.Listable) :
    Document.PlainValue source.describe := by
  have whole : Text.Bare Text.isBlank source.describe.toList := by
    rw [listable.describe]
    refine Text.bare_intercalate _ fun part member => ?_
    obtain ⟨p, given, rfl⟩ := List.mem_map.mp member
    exact ⟨(listable.files p given).inhabited, .of_forall (listable.files p given).solid⟩
  have single : Document.valueLines source.describe = [source.describe.toList] := by
    refine Text.pieces_of_free fun c member => beq_eq_false_iff_ne.mpr ?_
    rintro rfl
    rw [listable.describe] at member
    rcases Text.mem_intercalate member with space | ⟨part, inside, here⟩
    · simp at space
    · obtain ⟨p, given, rfl⟩ := List.mem_map.mp inside
      have solid := (listable.files p given).solid '\n' here
      cases solid
  constructor
  · exact whole
  · rw [single]
    exact List.forall_mem_singleton.mpr whole
  · simp [single]

theorem beq_self (source : InputSource) : (source == source) = true := by
  cases source with
  | path p => exact p.beq_self
  | paths ps => exact beq_self_of_forall ps fun p _ => p.beq_self
  | inline content => exact beq_self_eq_true content

end InputSource

section Keys

theorem dropEnding?_append (s ending : List Char) :
    Text.dropEnding? ending (s ++ ending) = some s := by
  simp [Text.dropEnding?]

/-- The role of an input is read off its key. -/
theorem inputRole?_inputKey {role : String} (full : role.toList ≠ []) :
    inputRole? (inputKey role) = some role := by
  unfold inputKey
  split
  · rename_i sites
    rw [beq_iff_eq.mp sites]
    rfl
  · have ends : (role ++ fileEnding).toList = role.toList ++ fileEnding.toList := String.toList_append
    have other : (role ++ fileEnding == sitesKey) = false := by
      refine beq_eq_false_iff_ne.mpr fun same => ?_
      have dropped := dropEnding?_append role.toList fileEnding.toList
      rw [← ends, same] at dropped
      cases dropped
    obtain ⟨c, rest, chars⟩ := List.exists_cons_of_ne_nil full
    unfold inputRole?
    rw [other, ends, dropEnding?_append, chars]
    simp only [Bool.false_eq_true, if_false, ← chars, String.ofList_toList]

theorem dropEnding?_name (q : Param) :
    Text.dropEnding? fileEnding.toList q.name.toList = none := by
  have listed : ∀ q ∈ Param.all, Text.dropEnding? fileEnding.toList q.name.toList = none := by
    decide +kernel
  exact listed q q.mem_all

theorem name_ne_sitesKey (q : Param) : q.name ≠ sitesKey := by
  have listed : ∀ q ∈ Param.all, q.name ≠ sitesKey := by decide +kernel
  exact listed q q.mem_all

theorem inputRole?_name (q : Param) : inputRole? q.name = none := by
  unfold inputRole?
  rw [beq_eq_false_iff_ne.mpr (name_ne_sitesKey q), dropEnding?_name]
  rfl

theorem plainKey_name (q : Param) : Document.PlainKey q.name := by
  have listed : ∀ q ∈ Param.all, Document.PlainKey q.name := by decide +kernel
  exact listed q q.mem_all

/-- The key of an input is plain if its role is, even if nothing is left of the role. -/
theorem plainKey_inputKey {role : String}
    (plain : ∀ c ∈ role.toList, Document.isPlainKeyChar c = true) :
    Document.PlainKey (inputKey role) := by
  unfold inputKey
  split
  · decide
  · have ending : fileEnding.toList.all Document.isPlainKeyChar = true := rfl
    constructor
    · simp [fileEnding]
    · intro c member
      rw [String.toList_append] at member
      rcases List.mem_append.mp member with inRole | inEnding
      · exact plain c inRole
      · exact List.all_eq_true.mp ending c inEnding

theorem dropEnding?_inputKey {role : String} (other : role ≠ Role.sites) :
    Text.dropEnding? fileEnding.toList (inputKey role).toList = some role.toList := by
  simp [inputKey, other, dropEnding?_append]

theorem inputKey_injective : Function.Injective inputKey := by
  have apart (role : String) (other : role ≠ Role.sites) : inputKey role ≠ inputKey Role.sites := by
    intro same
    have ending := dropEnding?_inputKey other
    rw [same] at ending
    cases ending
  intro role other same
  by_cases first : role = Role.sites
  · by_contra different
    rw [first] at same different
    exact apart other (Ne.symm different) same.symm
  · by_cases second : other = Role.sites
    · rw [second] at same
      exact absurd same (apart role first)
    · have ending := dropEnding?_inputKey first
      rw [same, dropEnding?_inputKey second] at ending
      exact (String.toList_inj.mp (Option.some.inj ending)).symm

/-- No input has the key of a parameter. -/
theorem inputKey_ne_name (role : String) (q : Param) : inputKey role ≠ q.name := by
  intro same
  by_cases sites : role = Role.sites
  · rw [sites] at same
    exact name_ne_sitesKey q same.symm
  · have ending := dropEnding?_inputKey sites
    rw [same, dropEnding?_name] at ending
    cases ending

end Keys
end HazardJob
