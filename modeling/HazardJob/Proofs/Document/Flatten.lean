import HazardJob.Document.Basic
import HazardJob.Proofs.SortedMap

/-! Flattened documents. Every key has the value of its last setting, and every setting of a key that is
set before it makes a warning of its own, in the order of the document. So a document has as many
settings as keys and warnings together. -/
namespace HazardJob.Document

/-- The settings of keys that are set before them. -/
def repetitions (settings : List (String × String × String)) : List (String × String × String) :=
  (settings.zipIdx.filter fun s => (settings.take s.2).any (·.2.1 == s.1.2.1)).map (·.1)

example : repetitions [("a", "k", "1"), ("b", "j", "2"), ("b", "k", "3"), ("b", "k", "4")] =
    [("b", "k", "3"), ("b", "k", "4")] := by decide

section Repetitions

theorem repetitions_append_singleton (settings : List (String × String × String))
    (s : String × String × String) : repetitions (settings ++ [s]) =
      repetitions settings ++ if s.2.1 ∈ settings.map (·.2.1) then [s] else [] := by
  have earlier : settings.zipIdx.filter
      (fun e => ((settings ++ [s]).take e.2).any (·.2.1 == e.1.2.1)) =
        settings.zipIdx.filter fun e => (settings.take e.2).any (·.2.1 == e.1.2.1) := by
    refine List.filter_congr fun e member => ?_
    have bound : e.2 < settings.length := by
      have place := List.mem_zipIdx member
      omega
    rw [List.take_append_of_le_length (Nat.le_of_lt bound)]
  have last : ((settings ++ [s]).take settings.length).any (·.2.1 == s.2.1) = true ↔
      s.2.1 ∈ settings.map (·.2.1) := by
    rw [List.take_left' rfl, List.any_eq_true, List.mem_map]
    simp only [beq_iff_eq]
  rw [repetitions, List.zipIdx_append, List.filter_append, earlier, List.map_append,
    List.zipIdx_singleton, Nat.zero_add]
  congr 1
  simp only [List.filter_cons, List.filter_nil, last]
  split <;> rfl

theorem repetitions_of_nodup {settings : List (String × String × String)}
    (distinct : (settings.map (·.2.1)).Nodup) : repetitions settings = [] := by
  induction settings using List.reverseRecOn with
  | nil => rfl
  | append_singleton settings s ih =>
    rw [List.map_append, List.map_singleton, List.nodup_append] at distinct
    obtain ⟨before, -, apart⟩ := distinct
    have new : s.2.1 ∉ settings.map (·.2.1) := fun old =>
      apart _ old _ (List.mem_singleton.mpr rfl) rfl
    rw [repetitions_append_singleton, ih before, if_neg new, List.append_nil]

/-- The keys of repetitions are those that are set more than once. -/
theorem mem_repetitions_iff {settings : List (String × String × String)} {key : String} :
    key ∈ (repetitions settings).map (·.2.1) ↔ 2 ≤ (settings.map (·.2.1)).count key := by
  induction settings using List.reverseRecOn with
  | nil => simp [repetitions]
  | append_singleton settings s ih =>
    rw [repetitions_append_singleton, List.map_append, List.mem_append, ih, List.map_append,
      List.count_append, List.map_singleton]
    by_cases same : s.2.1 = key
    · subst same
      rw [List.count_singleton_self]
      by_cases again : s.2.1 ∈ settings.map (·.2.1)
      · have least := List.count_pos_iff.mpr again
        rw [if_pos again]
        exact iff_of_true (.inr (by simp)) (by omega)
      · have none := List.count_eq_zero.mpr again
        rw [if_neg again, none]
        simp
    · have other : (if s.2.1 ∈ settings.map (·.2.1) then [s] else []).map (·.2.1) ⊆ [s.2.1] := by
        split <;> simp
      have none : [s.2.1].count key = 0 := List.count_eq_zero.mpr (by simpa using Ne.symm same)
      rw [none, Nat.add_zero]
      exact or_iff_left fun member => same (List.mem_singleton.mp (other member)).symm

end Repetitions

section Merge

theorem settings_entries (d : Document) : d.settings.map (·.2) = d.entries := by
  simp [settings, entries, List.map_flatMap, Function.comp_def]

/-- Settings are merged one by one. -/
theorem mergeAll_append_singleton (values : SortedMap String String)
    (settings : List (String × String × String)) (s : String × String × String) :
    mergeAll values (settings ++ [s]) =
      ((merge (mergeAll values settings).1 s.1 s.2.1 s.2.2).1,
        (mergeAll values settings).2 ++ (merge (mergeAll values settings).1 s.1 s.2.1 s.2.2).2) := by
  induction settings generalizing values with
  | nil => simp [mergeAll]
  | cons first more ih => simp only [List.cons_append, mergeAll, ih, List.append_assoc]

/-- Merging keeps the last value of every key. -/
theorem mergeAll_values (settings : List (String × String × String)) :
    (mergeAll .empty settings).1 = SortedMap.ofList (settings.map (·.2)) := by
  induction settings using List.reverseRecOn with
  | nil => rfl
  | append_singleton settings s ih =>
    rw [mergeAll_append_singleton, List.map_append, List.map_singleton,
      SortedMap.ofList_append_singleton, merge, ih]

theorem contains_mergeAll {settings : List (String × String × String)} {key : String} :
    (mergeAll .empty settings).1.contains key = true ↔ key ∈ settings.map (·.2.1) := by
  rw [SortedMap.contains_iff_mem_keys, mergeAll_values, SortedMap.ofList,
    SortedMap.mem_keys_insertAll_iff, List.map_map]
  exact or_iff_right List.not_mem_nil

/-- Merging warns of every repetition. -/
theorem mergeAll_warnings (settings : List (String × String × String)) :
    (mergeAll .empty settings).2 =
      (repetitions settings).map fun s => .duplicateParameter s.2.1 s.1 := by
  induction settings using List.reverseRecOn with
  | nil => rfl
  | append_singleton settings s ih =>
    rw [mergeAll_append_singleton, ih, repetitions_append_singleton, List.map_append, merge]
    simp only [contains_mergeAll]
    split <;> rfl

/-- A setting either has a new key or makes a warning. -/
theorem size_mergeAll (settings : List (String × String × String)) :
    (mergeAll .empty settings).1.size + (mergeAll .empty settings).2.length = settings.length := by
  induction settings using List.reverseRecOn with
  | nil => rfl
  | append_singleton settings s ih =>
    rw [mergeAll_append_singleton, merge, SortedMap.size_insert, List.length_append,
      List.length_append, List.length_singleton, ← ih]
    split
    · rw [List.length_singleton]
      omega
    · rw [List.length_nil]
      omega

end Merge

/-- The keys of a flattened document are those of its entries. -/
theorem mem_keys_flatten (d : Document) {key : String} :
    key ∈ d.flatten.1.keys ↔ key ∈ d.entries.map (·.1) := by
  rw [flatten, ← SortedMap.contains_iff_mem_keys, contains_mergeAll, ← settings_entries, List.map_map]
  rfl

/-- A document warns of exactly the keys that it sets more than once. -/
theorem warned_iff (d : Document) {key : String} :
    (∃ found ∈ d.flatten.2, found.parameter = some key) ↔ 2 ≤ (d.entries.map (·.1)).count key := by
  have keys : d.settings.map (·.2.1) = d.entries.map (·.1) := by
    rw [← settings_entries, List.map_map]
    rfl
  rw [flatten, mergeAll_warnings, ← keys, ← mem_repetitions_iff, List.mem_map]
  simp [Diagnostic.duplicateParameter_eq]

/-- Entries with distinct keys are what their document is flattened to, without a warning. -/
theorem flatten_of_nodup {d : Document} (distinct : (d.entries.map (·.1)).Nodup) :
    d.flatten = (SortedMap.ofList d.entries, []) := by
  have keys : (d.settings.map (·.2.1)).Nodup := by
    rw [← settings_entries, List.map_map] at distinct
    exact distinct
  rw [flatten]
  refine Prod.ext ?_ ?_
  · rw [mergeAll_values, settings_entries]
  · rw [mergeAll_warnings, repetitions_of_nodup keys]
    rfl

/-- Every key has the value of its last entry, over all sections, and there is no other key. Every
setting of a key after its first makes a warning that names the key and the section, and nothing else
makes one. -/
theorem flatten_settings (d : Document) :
    (∀ key, d.flatten.1.get? key =
        ((d.entries.filter fun e => e.1 == key).getLast?).map (·.2)) ∧
      (∀ key, key ∈ d.flatten.1.keys ↔ key ∈ d.entries.map (·.1)) ∧
      d.flatten.2 = (repetitions d.settings).map (fun s =>
        { severity := .warning, code := .duplicateParameter, parameter := some s.2.1
          message := "The parameter '" ++ s.2.1 ++ "' is set again in section [" ++ s.1 ++
            "], the last value wins" }) ∧
      d.flatten.1.size + d.flatten.2.length = d.entries.length := by
  refine ⟨?_, fun _ => d.mem_keys_flatten, ?_, ?_⟩
  · intro key
    rw [flatten, mergeAll_values, settings_entries, SortedMap.get?_ofList]
  · rw [flatten, mergeAll_warnings]
    exact List.map_congr_left fun s _ => Diagnostic.duplicateParameter_eq s.2.1 s.1
  · rw [← settings_entries, List.length_map]
    exact size_mergeAll d.settings

end HazardJob.Document
