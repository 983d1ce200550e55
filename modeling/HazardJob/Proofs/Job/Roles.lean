import HazardJob.Proofs.Job.Anchored

/-! Input files that keys of a job file name. A key goes by the role that it stands for, and two keys
can stand for the same role: of these only the later one keeps its file. Keys are warned of where
sections are merged, before they have roles. -/
namespace HazardJob

section Keys

/-- The other key of a file with sites, spelled as the keys of other inputs are. -/
def sitesFileKey : String := Role.sites ++ fileEnding

theorem append_of_dropEnding? {ending s rest : List Char}
    (dropped : Text.dropEnding? ending s = some rest) : s = rest ++ ending := by
  unfold Text.dropEnding? at dropped
  split at dropped
  · rename_i ends
    cases dropped
    conv_lhs => rw [← List.take_append_drop (s.length - ending.length) s, ends.2]
  · cases dropped

/-- A key is the one that a job writes for its role, but for one of the keys for sites. -/
theorem key_of_inputRole? {key role : String} (stands : inputRole? key = some role) :
    key = inputKey role ∨ key = sitesFileKey ∧ role = Role.sites := by
  unfold inputRole? at stands
  split at stands
  · rename_i sites
    cases stands
    exact .inl (beq_iff_eq.mp sites)
  · split at stands
    · cases stands
    · cases stands
    · rename_i rest _ dropped
      cases stands
      have spelled : key = String.ofList rest ++ fileEnding := by
        simpa [← String.toList_inj] using append_of_dropEnding? dropped
      by_cases sites : String.ofList rest = Role.sites
      · exact .inr ⟨by rw [spelled, sites]; rfl, sites⟩
      · exact .inl (by rw [spelled, inputKey, beq_eq_false_iff_ne.mpr sites]; rfl)

variable (values : SortedMap String String)

/-- The keys of a job file that name input files. -/
def inputKeys : List String := values.keys.filter fun key => (inputRole? key).isSome

/-- A later key of the job file stands for the same role. -/
def Superseded (key : String) : Prop :=
  ∃ role, inputRole? key = some role ∧ key ∈ values.keys ∧
    ∃ later ∈ values.keys, compare key later = .lt ∧ inputRole? later = some role

/-- The only key that can be superseded is that of a file with sites, by its other spelling. -/
theorem superseded_iff {key : String} :
    Superseded values key ↔ key = sitesKey ∧ sitesKey ∈ values.keys ∧ sitesFileKey ∈ values.keys := by
  constructor
  · rintro ⟨role, stands, here, later, there, below, same⟩
    rcases key_of_inputRole? stands with rfl | ⟨rfl, rfl⟩
    · rcases key_of_inputRole? same with equal | ⟨rfl, rfl⟩
      · exact absurd equal.symm (SortedMap.ne_of_below below)
      · exact ⟨rfl, here, there⟩
    · -- Of the two keys for sites this is the last.
      rcases key_of_inputRole? same with rfl | ⟨rfl, -⟩
      · exact absurd below (by decide)
      · exact absurd rfl (SortedMap.ne_of_below below)
  · rintro ⟨rfl, here, there⟩
    exact ⟨Role.sites, rfl, here, sitesFileKey, there, by decide, rfl⟩

/-- No two input keys stand for one role exactly if none is superseded. -/
theorem roles_nodup_iff :
    ((inputKeys values).filterMap inputRole?).Nodup ↔ ∀ key, ¬Superseded values key := by
  have kept : (inputKeys values).filterMap inputRole? = values.keys.filterMap inputRole? := by
    rw [inputKeys, List.filterMap_filter]
    exact List.filterMap_congr fun key _ => by cases inputRole? key <;> rfl
  rw [kept, List.Nodup, List.pairwise_filterMap]
  constructor
  · rintro apart key ⟨role, stands, here, later, there, below, same⟩
    have symmetric : Std.Symm fun a b : String => ∀ r, inputRole? a = some r →
        ∀ r', inputRole? b = some r' → r ≠ r' :=
      ⟨fun a b differ r first r' second equal => differ r' second r first equal.symm⟩
    exact apart.forall here there (SortedMap.ne_of_below below) role stands role same rfl
  · intro free
    refine values.keys_ascending.imp_of_mem fun {a b} here there below role stands role' same => ?_
    rintro rfl
    exact free a ⟨role, stands, here, b, there, below, same⟩

end Keys

namespace Draft

variable {cwd base : Path} {text : String} {d : Draft}

/-- Some diagnostic of the draft is about `key`. -/
def Warns (d : Draft) (key : String) : Prop := ∃ found ∈ d.diagnostics, found.parameter = some key

/-- The file that `key` names is the one that its role has in the draft. -/
def Keeps (cwd base : Path) (values : SortedMap String String) (d : Draft) (key : String) : Prop :=
  ∃ role raw source, inputRole? key = some role ∧ values.get? key = some raw ∧
    InputSource.ofText? cwd base raw = some source ∧ d.inputs.get? role = some source

/-- A draft that a job file describes comes with the warnings of its document, each of whose input keys
names a file. -/
theorem ofText_named (read : ofText cwd base text = .ok d) {document : Document}
    (found : Document.ofText text = .ok document) :
    d.diagnostics = document.flatten.2 ∧ ∀ e ∈ document.flatten.1.toList,
      (inputRole? e.1).isSome = true → (InputSource.ofText? cwd base e.2).isSome = true := by
  obtain ⟨other, same, named, rfl⟩ := (ofText_ok_iff cwd base).mp read
  cases found.symm.trans same
  exact ⟨rfl, named⟩

section Sources

variable {values : SortedMap String String}
  (named : ∀ e ∈ values.toList, (inputRole? e.1).isSome = true →
    (InputSource.ofText? cwd base e.2).isSome = true)

include named

/-- Every input key gives a source under its role. -/
theorem roles_sources : (values.toList.filterMap (entrySource? cwd base)).map (·.1) =
    (inputKeys values).filterMap inputRole? := by
  rw [inputKeys, SortedMap.keys, List.filterMap_filter, List.filterMap_map, List.map_filterMap]
  refine List.filterMap_congr fun e member => ?_
  cases stands : inputRole? e.1 with
  | none => simp [entrySource?, stands]
  | some role =>
    obtain ⟨source, read⟩ := Option.isSome_iff_exists.mp (named e member (by rw [stands]; rfl))
    simp [entrySource?, stands, read]

/-- There are as many roles as input keys exactly if none of the keys is superseded. -/
theorem size_sources_iff :
    (SortedMap.ofList (values.toList.filterMap (entrySource? cwd base))).size =
      (inputKeys values).length ↔ ∀ key, ¬Superseded values key := by
  have count : ((inputKeys values).filterMap inputRole?).length = (inputKeys values).length :=
    List.filterMap_length_eq_length.mpr fun key member => (List.mem_filter.mp member).2
  rw [← roles_nodup_iff, ← count, ← roles_sources named, List.length_map,
    SortedMap.size_ofList_iff]

/-- An input key that is not superseded keeps its file. -/
theorem get?_sources {key role : String} (stands : inputRole? key = some role)
    (here : key ∈ values.keys) (free : ¬Superseded values key) :
    ∃ raw source, values.get? key = some raw ∧ InputSource.ofText? cwd base raw = some source ∧
      (SortedMap.ofList (values.toList.filterMap (entrySource? cwd base))).get? role =
        some source := by
  obtain ⟨⟨own, raw⟩, member, rfl⟩ := List.mem_map.mp here
  obtain ⟨source, read⟩ := Option.isSome_iff_exists.mp (named _ member (by rw [stands]; rfl))
  refine ⟨raw, source, SortedMap.get?_eq_some_iff.mpr member, read, ?_⟩
  obtain ⟨before, after, cut⟩ := List.append_of_mem member
  have taken : entrySource? cwd base (own, raw) = some (role, source) := by
    have role? : inputRole? own = some role := stands
    have source? : InputSource.ofText? cwd base raw = some source := read
    simp [entrySource?, role?, source?]
  rw [cut, List.filterMap_append, List.filterMap_cons_some taken]
  refine SortedMap.get?_ofList_last fun e given same => ?_
  obtain ⟨⟨later, other⟩, inside, source'⟩ := List.mem_filterMap.mp given
  obtain ⟨role', stands', found⟩ := Option.bind_eq_some_iff.mp source'
  obtain ⟨place, -, rfl⟩ := Option.map_eq_some_iff.mp found
  have ascending := values.ascending
  rw [cut] at ascending
  have below := (List.pairwise_cons.mp (List.pairwise_append.mp ascending).2.1).1 _ inside
  have there : later ∈ values.keys := List.mem_map.mpr ⟨(later, other), by simp [cut, inside], rfl⟩
  exact free ⟨role, stands, here, later, there, below, stands'.trans (congrArg some same.symm)⟩

end Sources

/-- Every input key has its own role in the draft, so that there are as many roles as input keys, or a
diagnostic names a key that lost its role. -/
def InputsKept (cwd base : Path) (values : SortedMap String String) (d : Draft) : Prop :=
  (∀ key ∈ inputKeys values, Keeps cwd base values d key) ∧ d.inputs.size = (inputKeys values).length ∨
    ∃ key, Superseded values key ∧ d.Warns key

/-- What a job file says about the files of its draft: keys that are not superseded keep them, all do exactly if
there are as many roles as input keys, and keys that are set more than once are warned of. -/
theorem ofText_files (read : ofText cwd base text = .ok d) :
    ∃ document, Document.ofText text = .ok document ∧
      (∀ key ∈ inputKeys document.flatten.1,
        Superseded document.flatten.1 key ∨ Keeps cwd base document.flatten.1 d key) ∧
      (d.inputs.size = (inputKeys document.flatten.1).length ↔
        ∀ key, ¬Superseded document.flatten.1 key) ∧
      ∀ key, d.Warns key ↔ 2 ≤ (document.entries.map (·.1)).count key := by
  obtain ⟨document, found, -, inputs⟩ := ofText_ok read
  obtain ⟨diagnostics, named⟩ := ofText_named read found
  refine ⟨document, found, fun key member => ?_, ?_, fun key => ?_⟩
  · obtain ⟨here, role⟩ := List.mem_filter.mp member
    obtain ⟨role, stands⟩ := Option.isSome_iff_exists.mp role
    refine or_iff_not_imp_left.mpr fun free => ?_
    obtain ⟨raw, source, value, readAs, given⟩ := get?_sources named stands here free
    exact ⟨role, raw, source, stands, value, readAs, inputs ▸ given⟩
  · rw [inputs]
    exact size_sources_iff named
  · rw [Warns, diagnostics, document.warned_iff]

/-- Only a key that is superseded loses its file. The files of a job are all kept, or one that is not is warned
of, exactly if the job does not name its sites by both keys, or sets the one that is superseded more
than once: the warning of its repetition is the only one that names it. -/
theorem inputs_kept_iff (read : ofText cwd base text = .ok d) :
    ∃ document, Document.ofText text = .ok document ∧
      (∀ key ∈ inputKeys document.flatten.1,
        Superseded document.flatten.1 key ∨ Keeps cwd base document.flatten.1 d key) ∧
      (InputsKept cwd base document.flatten.1 d ↔
        (sitesFileKey ∈ document.entries.map (·.1) →
          (document.entries.map (·.1)).count sitesKey ≠ 1)) := by
  obtain ⟨document, found, kept, size, warned⟩ := ofText_files read
  refine ⟨document, found, kept, ?_⟩
  by_cases free : ∀ key, ¬Superseded document.flatten.1 key
  · refine iff_of_true (.inl ⟨fun key member => (kept key member).resolve_left (free key),
      size.mpr free⟩) fun file once => ?_
    have sites : sitesKey ∈ document.entries.map (·.1) := List.count_pos_iff.mp (by omega)
    rw [← document.mem_keys_flatten] at sites file
    exact free sitesKey ((superseded_iff _).mpr ⟨rfl, sites, file⟩)
  · obtain ⟨key, lost⟩ := not_forall_not.mp free
    obtain ⟨rfl, sites, file⟩ := (superseded_iff _).mp lost
    rw [document.mem_keys_flatten] at sites file
    have once := List.count_pos_iff.mpr sites
    constructor
    · rintro (⟨-, same⟩ | ⟨key, other, told⟩) -
      · exact absurd (size.mp same) free
      · obtain ⟨rfl, -⟩ := (superseded_iff _).mp other
        have twice := (warned _).mp told
        omega
    · intro often
      have apart := often file
      exact .inr ⟨sitesKey, lost, (warned _).mpr (by omega)⟩

/-- Sites are named by both keys, by the superseded one twice. -/
def repeatedSitesText : String := "sites_csv = a.csv\nsites_csv = b.csv\nsites_file = c.csv\n"

theorem inputs_kept_repeated : ∃ document d, Document.ofText repeatedSitesText = .ok document ∧
    ofText ⟨"/work"⟩ ⟨"/work"⟩ repeatedSitesText = .ok d ∧
    InputsKept ⟨"/work"⟩ ⟨"/work"⟩ document.flatten.1 d := by
  have passes : (ofText ⟨"/work"⟩ ⟨"/work"⟩ repeatedSitesText).toOption.any
      (fun _ => true) = true := by decide +kernel
  have counted : (Document.ofText repeatedSitesText).toOption.any (fun document =>
      decide ((document.entries.map (·.1)).count sitesKey ≠ 1)) = true := by decide +kernel
  obtain ⟨d, read, -⟩ := any_toOption_iff.mp passes
  obtain ⟨document, found, often⟩ := any_toOption_iff.mp counted
  obtain ⟨other, same, -, kept⟩ := inputs_kept_iff read
  rw [found] at same
  cases same
  exact ⟨document, d, found, read, kept.mpr fun _ => of_decide_eq_true often⟩

/-- Sites are named by both keys. -/
def twoSitesText : String := "sites_csv = a.csv\nsites_file = b.csv\n"

/-- Both keys stand for one role, and the file of one of them is lost without a finding. -/
theorem inputs_lost : ∃ document d, Document.ofText twoSitesText = .ok document ∧
    ofText ⟨"/work"⟩ ⟨"/work"⟩ twoSitesText = .ok d ∧
    ¬InputsKept ⟨"/work"⟩ ⟨"/work"⟩ document.flatten.1 d := by
  have counted : (Document.ofText twoSitesText).toOption.any (fun document =>
      decide ((inputKeys document.flatten.1).length = 2)) = true := by decide +kernel
  have taken : (ofText ⟨"/work"⟩ ⟨"/work"⟩ twoSitesText).toOption.any (fun d =>
      decide (d.inputs.size = 1 ∧ d.diagnostics = [])) = true := by decide +kernel
  obtain ⟨document, found, keys⟩ := any_toOption_iff.mp counted
  obtain ⟨d, read, roles⟩ := any_toOption_iff.mp taken
  have keys := of_decide_eq_true keys
  obtain ⟨roles, silent⟩ := of_decide_eq_true roles
  refine ⟨document, d, found, read, ?_⟩
  rintro (⟨-, same⟩ | ⟨key, -, diagnostic, reported, -⟩)
  · omega
  · rw [silent] at reported
    cases reported

end Draft
end HazardJob
