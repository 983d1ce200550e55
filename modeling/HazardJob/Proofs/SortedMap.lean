import HazardJob.SortedMap
import Mathlib.Data.List.Induction
import Mathlib.Data.List.Perm.Subperm

/-! Finite maps: what they hold after entries are put in place. -/
namespace HazardJob
namespace SortedMap

variable {κ ν : Type} [Ord κ] [Std.TransOrd κ]

theorem isEmpty_insert (m : SortedMap κ ν) (key : κ) (value : ν) :
    (m.insert key value).isEmpty = false := by
  show (place key value m.toList).isEmpty = false
  cases m.toList with
  | nil => rfl
  | cons e more => simp only [place]; split <;> rfl

theorem isEmpty_insertNew (m : SortedMap κ ν) (key : κ) (value : ν) (inhabited : m.isEmpty = false) :
    (m.insertNew key value).isEmpty = false := by
  unfold insertNew
  split
  · exact inhabited
  · exact m.isEmpty_insert key value

section Ascending

/-- Entries that come after all of a map go to its end. -/
theorem place_last {key : κ} {value : ν} {entries : List (κ × ν)}
    (below : ∀ e ∈ entries, compare e.1 key = .lt) :
    place key value entries = entries ++ [(key, value)] := by
  induction entries with
  | nil => rfl
  | cons e more ih =>
    have above : compare key e.1 = .gt := Std.OrientedCmp.gt_of_lt (below e List.mem_cons_self)
    rw [place, above, List.cons_append]
    simp only [ih fun e member => below e (List.mem_cons_of_mem _ member)]

/-- Entries in ascending order are put in one after the other. -/
theorem toList_insertAll {m : SortedMap κ ν} {entries : List (κ × ν)}
    (ascending : (m.toList ++ entries).Pairwise fun a b => compare a.1 b.1 = .lt) :
    (m.insertAll entries).toList = m.toList ++ entries := by
  induction entries generalizing m with
  | nil => rw [List.append_nil]; rfl
  | cons e more ih =>
    have below : ∀ f ∈ m.toList, compare f.1 e.1 = .lt := fun f member =>
      (List.pairwise_append.mp ascending).2.2 f member e List.mem_cons_self
    have placed : (m.insert e.1 e.2).toList = m.toList ++ [e] := place_last below
    have grouped : m.toList ++ e :: more = (m.insert e.1 e.2).toList ++ more := by
      rw [placed, List.append_assoc, List.singleton_append]
    rw [grouped] at ascending ⊢
    exact ih ascending

theorem ofList_toList (m : SortedMap κ ν) : ofList m.toList = m :=
  ext (toList_insertAll (m := empty) m.ascending)

end Ascending

section Members

omit [Std.TransOrd κ] in
theorem mem_keys_place {key k : κ} {value : ν} {entries : List (κ × ν)}
    (member : k ∈ (place key value entries).map (·.1)) : k = key ∨ k ∈ entries.map (·.1) := by
  obtain ⟨e, placed, rfl⟩ := List.mem_map.mp member
  rcases mem_place placed with rfl | ⟨f, old, same⟩
  · exact .inl rfl
  · exact .inr (List.mem_map.mpr ⟨f, old, same.symm⟩)

omit [Std.TransOrd κ] in
theorem mem_values_place {key : κ} {value v : ν} {entries : List (κ × ν)}
    (member : v ∈ (place key value entries).map (·.2)) : v = value ∨ v ∈ entries.map (·.2) := by
  induction entries with
  | nil => simpa [place] using member
  | cons e more ih =>
    rw [place] at member
    split at member
    · simpa using member
    · rcases List.mem_cons.mp member with here | later
      · exact .inl here
      · exact .inr (List.mem_cons_of_mem _ later)
    · rcases List.mem_cons.mp member with here | later
      · exact .inr (here ▸ List.mem_cons_self)
      · exact (ih later).imp id (List.mem_cons_of_mem _)

theorem mem_keys_insertAll {m : SortedMap κ ν} {entries : List (κ × ν)} {k : κ}
    (member : k ∈ (m.insertAll entries).keys) : k ∈ m.keys ∨ k ∈ entries.map (·.1) := by
  induction entries generalizing m with
  | nil => exact .inl member
  | cons e more ih =>
    rcases ih (m := m.insert e.1 e.2) member with old | later
    · rcases mem_keys_place old with rfl | old
      · exact .inr List.mem_cons_self
      · exact .inl old
    · exact .inr (List.mem_cons_of_mem _ later)

theorem mem_values_insertAll {m : SortedMap κ ν} {entries : List (κ × ν)} {v : ν}
    (member : v ∈ (m.insertAll entries).values) : v ∈ m.values ∨ v ∈ entries.map (·.2) := by
  induction entries generalizing m with
  | nil => exact .inl member
  | cons e more ih =>
    rcases ih (m := m.insert e.1 e.2) member with old | later
    · rcases mem_values_place old with rfl | old
      · exact .inr List.mem_cons_self
      · exact .inl old
    · exact .inr (List.mem_cons_of_mem _ later)

/-- Every key of a map comes from the entries that it was made of. -/
theorem mem_keys_ofList {entries : List (κ × ν)} {k : κ} (member : k ∈ (ofList entries).keys) :
    k ∈ entries.map (·.1) := (mem_keys_insertAll member).resolve_left List.not_mem_nil

/-- Every value of a map comes from the entries that it was made of. -/
theorem mem_values_ofList {entries : List (κ × ν)} {v : ν}
    (member : v ∈ (ofList entries).values) : v ∈ entries.map (·.2) :=
  (mem_values_insertAll member).resolve_left List.not_mem_nil

end Members

section Distinct

omit [Std.TransOrd κ] in
theorem keys_ascending (m : SortedMap κ ν) : m.keys.Pairwise fun a b => compare a b = .lt :=
  List.pairwise_map.mpr m.ascending

/-- Maps with the same entries are the same, whatever order these are listed in. -/
theorem eq_of_perm {m n : SortedMap κ ν} (same : m.toList.Perm n.toList) : m = n := by
  refine ext (same.eq_of_pairwise (fun a b _ _ below above => ?_) m.ascending n.ascending)
  rw [Std.OrientedCmp.gt_of_lt below] at above
  cases above

variable [Std.LawfulEqOrd κ]

omit [Std.TransOrd κ] in
theorem ne_of_below {a b : κ} (below : compare a b = .lt) : a ≠ b := by
  intro same
  rw [Std.compare_eq_iff_eq.mpr same] at below
  cases below

omit [Std.TransOrd κ] in
theorem keys_nodup (m : SortedMap κ ν) : m.keys.Nodup := m.keys_ascending.imp ne_of_below

omit [Std.TransOrd κ] in
theorem contains_iff_mem_keys {m : SortedMap κ ν} {key : κ} :
    m.contains key = true ↔ key ∈ m.keys := by
  simp [contains, get?, lookup, keys, List.find?_isSome]

omit [Std.TransOrd κ] in
theorem mem_entries_place {key : κ} {value : ν} {entries : List (κ × ν)} {x : κ × ν}
    (member : x ∈ place key value entries) : x = (key, value) ∨ x ∈ entries := by
  induction entries with
  | nil => exact .inl (by simpa [place] using member)
  | cons e more ih =>
    rw [place] at member
    split at member
    · exact (List.mem_cons.mp member).imp id id
    · rename_i same
      rw [← Std.compare_eq_iff_eq.mp same] at member
      exact (List.mem_cons.mp member).imp id (List.mem_cons_of_mem _)
    · rcases List.mem_cons.mp member with rfl | later
      · exact .inr List.mem_cons_self
      · exact (ih later).imp id (List.mem_cons_of_mem _)

/-- Every entry of a map is one of those that it was made of. -/
theorem mem_insertAll {m : SortedMap κ ν} {entries : List (κ × ν)} {x : κ × ν}
    (member : x ∈ (m.insertAll entries).toList) : x ∈ m.toList ∨ x ∈ entries := by
  induction entries generalizing m with
  | nil => exact .inl member
  | cons e more ih =>
    rcases ih (m := m.insert e.1 e.2) member with old | later
    · rcases mem_entries_place old with rfl | old
      · exact .inr List.mem_cons_self
      · exact .inl old
    · exact .inr (List.mem_cons_of_mem _ later)

theorem mem_keys_insert_iff {m : SortedMap κ ν} {key k : κ} {value : ν} :
    k ∈ (m.insert key value).keys ↔ k = key ∨ k ∈ m.keys := by
  rw [← contains_iff_mem_keys, ← contains_iff_mem_keys, contains, get?_insert]
  by_cases same : k = key
  · simp [same]
  · rw [if_neg fun equal => same (Std.compare_eq_iff_eq.mp equal)]
    simp [same, contains]

/-- The keys of a map are those of the entries that it was made of. -/
theorem mem_keys_insertAll_iff {m : SortedMap κ ν} {entries : List (κ × ν)} {k : κ} :
    k ∈ (m.insertAll entries).keys ↔ k ∈ m.keys ∨ k ∈ entries.map (·.1) := by
  induction entries generalizing m with
  | nil => simp [insertAll]
  | cons e more ih =>
    have rest := ih (m := m.insert e.1 e.2)
    rw [mem_keys_insert_iff] at rest
    rw [List.map_cons, List.mem_cons]
    exact rest.trans (by rw [or_assoc, or_left_comm])

omit [Std.TransOrd κ] in
theorem place_perm {key : κ} {value : ν} {entries : List (κ × ν)}
    (new : key ∉ entries.map (·.1)) :
    (place key value entries).Perm ((key, value) :: entries) := by
  induction entries with
  | nil => exact .refl _
  | cons e more ih =>
    simp only [List.map_cons, List.mem_cons, not_or] at new
    rw [place]
    split
    · exact .refl _
    · rename_i same
      exact absurd (Std.compare_eq_iff_eq.mp same) new.1
    · exact ((ih new.2).cons e).trans (.swap _ _ _)

theorem insertAll_perm {m : SortedMap κ ν} {entries : List (κ × ν)}
    (distinct : ((m.toList ++ entries).map (·.1)).Nodup) :
    (m.insertAll entries).toList.Perm (m.toList ++ entries) := by
  induction entries generalizing m with
  | nil => rw [List.append_nil]; exact .refl _
  | cons e more ih =>
    have moved : (m.toList ++ e :: more).Perm (e :: m.toList ++ more) := List.perm_middle
    have apart := (moved.map (·.1)).nodup_iff.mp distinct
    have new : e.1 ∉ m.toList.map (·.1) := by
      intro old
      rw [List.cons_append, List.map_cons, List.nodup_cons, List.map_append] at apart
      exact apart.1 (List.mem_append_left _ old)
    have placed : (m.insert e.1 e.2).toList.Perm (e :: m.toList) := place_perm new
    have grown : ((m.insert e.1 e.2).toList ++ more).Perm (m.toList ++ e :: more) :=
      (placed.append_right more).trans moved.symm
    exact (ih ((grown.map (·.1)).nodup_iff.mpr distinct)).trans grown

/-- Entries with distinct keys are the entries of the map that they make. -/
theorem ofList_perm {entries : List (κ × ν)} (distinct : (entries.map (·.1)).Nodup) :
    (ofList entries).toList.Perm entries := insertAll_perm (m := empty) distinct

/-- A map is made of its entries in any order. -/
theorem ofList_of_perm {m : SortedMap κ ν} {entries : List (κ × ν)}
    (listed : entries.Perm m.toList) : ofList entries = m := by
  have keys : (entries.map (·.1)).Perm m.keys := listed.map _
  have distinct : (entries.map (·.1)).Nodup := keys.nodup_iff.mpr m.keys_nodup
  exact eq_of_perm ((ofList_perm distinct).trans listed)

omit [Std.LawfulEqOrd κ] in
theorem lookup_of_mem {key : κ} {value : ν} {entries : List (κ × ν)}
    (ascending : entries.Pairwise fun a b => compare a.1 b.1 = .lt)
    (member : (key, value) ∈ entries) : lookup key entries = some value := by
  induction entries with
  | nil => cases member
  | cons e more ih =>
    obtain ⟨first, rest⟩ := List.pairwise_cons.mp ascending
    rcases List.mem_cons.mp member with rfl | later
    · simp [lookup]
    · have above : compare key e.1 = .gt := Std.OrientedCmp.gt_of_lt (first _ later)
      have skipped : lookup key (e :: more) = lookup key more := by simp [lookup, above]
      rw [skipped]
      exact ih rest later

/-- The entries of a map are its values at their keys. -/
theorem get?_eq_some_iff {m : SortedMap κ ν} {key : κ} {value : ν} :
    m.get? key = some value ↔ (key, value) ∈ m.toList := by
  constructor
  · intro found
    obtain ⟨e, here, rfl⟩ := Option.map_eq_some_iff.mp found
    have same : key = e.1 := by simpa using List.find?_some here
    rw [same]
    exact List.mem_of_find?_eq_some here
  · exact lookup_of_mem m.ascending

omit [Std.TransOrd κ] in
theorem lookup_toList [BEq κ] [LawfulBEq κ] (m : SortedMap κ ν) (key : κ) :
    m.toList.lookup key = m.get? key := by
  rw [get?, lookup]
  induction m.toList with
  | nil => rfl
  | cons e more ih =>
    rw [List.lookup_cons]
    by_cases same : key = e.1
    · simp [same]
    · rw [beq_eq_false_iff_ne.mpr same, ih]
      simp [same]

/-- Other entries make no difference to the value of a key. -/
theorem get?_insertAll_other {m : SortedMap κ ν} {entries : List (κ × ν)} {key : κ}
    (other : ∀ e ∈ entries, key ≠ e.1) : (m.insertAll entries).get? key = m.get? key := by
  induction entries generalizing m with
  | nil => rfl
  | cons e more ih =>
    have later := ih (m := m.insert e.1 e.2) fun f member => other f (List.mem_cons_of_mem _ member)
    apply later.trans
    rw [get?_insert, if_neg fun same => other e List.mem_cons_self (Std.compare_eq_iff_eq.mp same)]

omit [Std.LawfulEqOrd κ] [Std.TransOrd κ] in
theorem insertAll_append [Std.TransOrd κ] (m : SortedMap κ ν) (entries more : List (κ × ν)) :
    m.insertAll (entries ++ more) = (m.insertAll entries).insertAll more := by
  simp [insertAll]

omit [Std.LawfulEqOrd κ] in
theorem insertAll_filterMap_cons {α : Type} (f : α → Option (κ × ν)) (m : SortedMap κ ν) (x : α)
    (xs : List α) : m.insertAll ((x :: xs).filterMap f) =
      (m.insertAll (f x).toList).insertAll (xs.filterMap f) := by
  rw [← insertAll_append, List.filterMap_cons]
  cases f x <;> rfl

/-- The last of the entries for a key counts. -/
theorem get?_ofList_last {before after : List (κ × ν)} {key : κ} {value : ν}
    (last : ∀ e ∈ after, key ≠ e.1) :
    (ofList (before ++ (key, value) :: after)).get? key = some value := by
  have tail : (ofList (before ++ (key, value) :: after)) =
      ((ofList before).insert key value).insertAll after := insertAll_append _ _ _
  rw [tail, get?_insertAll_other last, get?_insert, if_pos (Std.compare_eq_iff_eq.mpr rfl)]

omit [Std.LawfulEqOrd κ] in
theorem ofList_append_singleton (entries : List (κ × ν)) (e : κ × ν) :
    ofList (entries ++ [e]) = (ofList entries).insert e.1 e.2 := insertAll_append empty entries [e]

/-- Of the entries for a key the last one counts. -/
theorem get?_ofList [BEq κ] [LawfulBEq κ] (entries : List (κ × ν)) (key : κ) :
    (ofList entries).get? key = ((entries.filter fun e => e.1 == key).getLast?).map (·.2) := by
  induction entries using List.reverseRecOn with
  | nil => rfl
  | append_singleton entries e ih =>
    rw [ofList_append_singleton, get?_insert, ih, List.filter_append]
    by_cases same : e.1 = key
    · rw [if_pos (Std.compare_eq_iff_eq.mpr same.symm), List.filter_cons_of_pos (by simp [same])]
      simp
    · rw [if_neg fun equal => same (Std.compare_eq_iff_eq.mp equal).symm,
        List.filter_cons_of_neg (by simp [same])]
      simp

/-- An entry with a new key makes a map larger by one. -/
theorem size_insert (m : SortedMap κ ν) (key : κ) (value : ν) :
    (m.insert key value).size = if m.contains key then m.size else m.size + 1 := by
  split
  · rename_i old
    have member := contains_iff_mem_keys.mp old
    have same : (m.insert key value).keys.Perm m.keys := by
      refine (List.perm_ext_iff_of_nodup (keys_nodup _) (keys_nodup _)).mpr fun k => ?_
      rw [mem_keys_insert_iff]
      exact or_iff_right_of_imp fun equal => equal ▸ member
    simpa [keys, size] using same.length_eq
  · rename_i new
    exact (place_perm fun member => new (contains_iff_mem_keys.mpr member)).length_eq

/-- Entries make a map of their number exactly if they have distinct keys. -/
theorem size_ofList_iff {entries : List (κ × ν)} :
    (ofList entries).size = entries.length ↔ (entries.map (·.1)).Nodup := by
  constructor
  · intro same
    have among : (ofList entries).keys.Subperm (entries.map (·.1)) :=
      (keys_nodup _).subperm fun key member => mem_keys_ofList member
    have long : (entries.map (·.1)).length ≤ (ofList entries).keys.length := by
      rw [keys, List.length_map, List.length_map]
      exact Nat.le_of_eq same.symm
    exact (among.perm_of_length_le long).nodup_iff.mp (keys_nodup _)
  · intro distinct
    exact (ofList_perm distinct).length_eq

/-- Maps that have the same value at every key are the same. -/
theorem ext_get? {m n : SortedMap κ ν} (same : ∀ key, m.get? key = n.get? key) : m = n := by
  have distinct (o : SortedMap κ ν) : o.toList.Nodup :=
    List.Pairwise.of_map (·.1) (fun a b apart equal => apart (congrArg (·.1) equal)) o.keys_nodup
  apply eq_of_perm
  apply (List.perm_ext_iff_of_nodup (distinct m) (distinct n)).mpr
  rintro ⟨key, value⟩
  rw [← get?_eq_some_iff, ← get?_eq_some_iff, same]

omit [Std.TransOrd κ] in
theorem filter_place {p : κ → Bool} {key : κ} (out : p key = false) (value : ν)
    (entries : List (κ × ν)) :
    (place key value entries).filter (fun e => p e.1) = entries.filter fun e => p e.1 := by
  induction entries with
  | nil => simp [place, out]
  | cons e more ih =>
    rw [place]
    split
    · simp [out]
    · rename_i same
      have away : p e.1 = false := Std.compare_eq_iff_eq.mp same ▸ out
      simp [away]
    · rw [List.filter_cons, List.filter_cons, ih]

/-- Entries under keys that are filtered out leave no trace. -/
theorem filter_insertAll {p : κ → Bool} {m : SortedMap κ ν} {entries : List (κ × ν)}
    (out : ∀ e ∈ entries, p e.1 = false) :
    (m.insertAll entries).filter (fun key _ => p key) = m.filter fun key _ => p key := by
  induction entries generalizing m with
  | nil => rfl
  | cons e more ih =>
    have later := ih (m := m.insert e.1 e.2) fun f member => out f (List.mem_cons_of_mem _ member)
    apply later.trans
    apply ext
    exact filter_place (out e List.mem_cons_self) e.2 m.toList

end Distinct

section Extend

/-- Adds the entries of another map under the keys that have no value yet. -/
def extend (m more : SortedMap κ ν) : SortedMap κ ν :=
  more.toList.foldl (fun m e => m.insertNew e.1 e.2) m

/-- What was there stays, and the rest is added. -/
theorem get?_extend (m more : SortedMap κ ν) (key : κ) :
    (m.extend more).get? key = (m.get? key).or (more.get? key) := by
  have step (entries : List (κ × ν)) (m : SortedMap κ ν) :
      (entries.foldl (fun m e => m.insertNew e.1 e.2) m).get? key =
        (m.get? key).or (lookup key entries) := by
    induction entries generalizing m with
    | nil => simp [lookup]
    | cons e more ih =>
      rw [List.foldl_cons, ih, get?_insertNew]
      by_cases same : compare key e.1 = .eq
      · have moved : m.get? key = m.get? e.1 := by
          simp only [get?, lookup, Std.TransCmp.congr_left same]
        have first : lookup key (e :: more) = some e.2 := by simp [lookup, same]
        rw [if_pos same, first, moved]
        cases m.get? e.1 <;> rfl
      · have later : lookup key (e :: more) = lookup key more := by simp [lookup, same]
        rw [if_neg same, later]
  exact step more.toList m

theorem extend_assoc [Std.LawfulEqOrd κ] (a b c : SortedMap κ ν) :
    (a.extend b).extend c = a.extend (b.extend c) := by
  apply ext_get?
  intro key
  simp only [get?_extend, Option.or_assoc]

end Extend

end SortedMap

namespace SortedSet

variable {κ : Type} [Ord κ] [Std.TransOrd κ] [Std.LawfulEqOrd κ]

/-- The members of a set are those that it had and those that were added. -/
theorem mem_members_addAll {s : SortedSet κ} {xs : List κ} {x : κ} :
    x ∈ (addAll s xs).members ↔ x ∈ s.members ∨ x ∈ xs := by
  have entries : addAll s xs = s.insertAll (xs.map fun x => (x, ())) := by
    rw [SortedMap.insertAll, List.foldl_map]
    rfl
  rw [members, entries, SortedMap.mem_keys_insertAll_iff, List.map_map]
  simp [members, Function.comp_def]

end SortedSet
end HazardJob
