/-! Finite maps whose entries stand in ascending order of their keys. The list of entries is the
map: two maps with the same entries are equal. -/
namespace HazardJob

/-- Entries `(key, value)` with strictly ascending keys. -/
structure SortedMap (κ : Type) (ν : Type) [Ord κ] where
  toList : List (κ × ν)
  ascending : toList.Pairwise fun a b => compare a.1 b.1 = .lt

/-- A finite set whose members stand in ascending order. -/
abbrev SortedSet (κ : Type) [Ord κ] := SortedMap κ Unit

namespace SortedMap

variable {κ ν : Type} [Ord κ]

theorem ext {m n : SortedMap κ ν} (h : m.toList = n.toList) : m = n := by
  cases m; cases n; cases h; rfl

instance [DecidableEq κ] [DecidableEq ν] : DecidableEq (SortedMap κ ν) := fun m n =>
  if h : m.toList = n.toList then isTrue (ext h) else isFalse fun e => h (e ▸ rfl)

instance [BEq κ] [BEq ν] : BEq (SortedMap κ ν) := ⟨fun m n => m.toList == n.toList⟩

def empty : SortedMap κ ν := ⟨[], .nil⟩

instance : EmptyCollection (SortedMap κ ν) := ⟨empty⟩
instance : Inhabited (SortedMap κ ν) := ⟨empty⟩

def keys (m : SortedMap κ ν) : List κ := m.toList.map (·.1)
def values (m : SortedMap κ ν) : List ν := m.toList.map (·.2)
def size (m : SortedMap κ ν) : Nat := m.toList.length
def isEmpty (m : SortedMap κ ν) : Bool := m.toList.isEmpty

/-- The value of a key in a list of entries. -/
def lookup (key : κ) (entries : List (κ × ν)) : Option ν :=
  (entries.find? fun e => compare key e.1 == .eq).map (·.2)

/-- The value of a key. -/
def get? (m : SortedMap κ ν) (key : κ) : Option ν := lookup key m.toList

def contains (m : SortedMap κ ν) (key : κ) : Bool := (m.get? key).isSome

/-- Puts an entry at its place in an ascending list; it takes the place of one with its key. -/
def place (key : κ) (value : ν) : List (κ × ν) → List (κ × ν)
  | [] => [(key, value)]
  | e :: more =>
    match compare key e.1 with
    | .lt => (key, value) :: e :: more
    | .eq => (e.1, value) :: more
    | .gt => e :: place key value more

theorem mem_place {key : κ} {value : ν} {entries : List (κ × ν)} {x : κ × ν}
    (h : x ∈ place key value entries) : x = (key, value) ∨ ∃ e ∈ entries, x.1 = e.1 := by
  induction entries with
  | nil => exact .inl (by simpa [place] using h)
  | cons e more ih =>
    rw [place] at h
    split at h
    · rcases List.mem_cons.mp h with h | h
      · exact .inl h
      · exact .inr ⟨x, h, rfl⟩
    · rcases List.mem_cons.mp h with h | h
      · exact .inr ⟨e, List.mem_cons_self, by rw [h]⟩
      · exact .inr ⟨x, List.mem_cons_of_mem _ h, rfl⟩
    · rcases List.mem_cons.mp h with h | h
      · exact .inr ⟨e, List.mem_cons_self, by rw [h]⟩
      · rcases ih h with h | ⟨f, hf, hx⟩
        · exact .inl h
        · exact .inr ⟨f, List.mem_cons_of_mem _ hf, hx⟩

theorem place_ascending [Std.TransOrd κ] {key : κ} {value : ν} {entries : List (κ × ν)}
    (h : entries.Pairwise fun a b => compare a.1 b.1 = .lt) :
    (place key value entries).Pairwise fun a b => compare a.1 b.1 = .lt := by
  induction entries with
  | nil => simp [place]
  | cons e more ih =>
    obtain ⟨first, rest⟩ := List.pairwise_cons.mp h
    rw [place]
    split
    · next below =>
      refine List.pairwise_cons.mpr ⟨fun x hx => ?_, h⟩
      rcases List.mem_cons.mp hx with hx | hx
      · rw [hx]; exact below
      · exact Std.TransCmp.lt_trans below (first x hx)
    · exact List.pairwise_cons.mpr ⟨first, rest⟩
    · next above =>
      refine List.pairwise_cons.mpr ⟨fun x hx => ?_, ih rest⟩
      rcases mem_place hx with hx | ⟨f, hf, hx⟩
      · rw [hx]; exact Std.OrientedCmp.lt_of_gt above
      · rw [hx]; exact first f hf

variable [Std.TransOrd κ]

theorem lookup_place (key other : κ) (value : ν) (entries : List (κ × ν)) :
    lookup other (place key value entries) =
      if compare other key = .eq then some value else lookup other entries := by
  induction entries with
  | nil => by_cases h : compare other key = .eq <;> simp [lookup, place, h]
  | cons e more ih =>
    rw [place]
    split
    · by_cases h : compare other key = .eq <;> simp [lookup, h]
    · next same =>
      have moved : compare other key = compare other e.1 := Std.TransCmp.congr_right same
      by_cases h : compare other e.1 = .eq <;> simp [lookup, moved, h]
    · next above =>
      by_cases h : compare other e.1 = .eq
      · have moved : compare other key = compare e.1 key := Std.TransCmp.congr_left h
        have below : compare e.1 key = .lt := Std.OrientedCmp.lt_of_gt above
        simp [lookup, h, moved, below]
      · simpa [lookup, h] using ih

/-- Sets the value of a key. -/
def insert (m : SortedMap κ ν) (key : κ) (value : ν) : SortedMap κ ν :=
  ⟨place key value m.toList, place_ascending m.ascending⟩

theorem get?_insert (m : SortedMap κ ν) (key other : κ) (value : ν) :
    (m.insert key value).get? other =
      if compare other key = .eq then some value else m.get? other :=
  lookup_place key other value m.toList

/-- Sets the value of a key that has none. -/
def insertNew (m : SortedMap κ ν) (key : κ) (value : ν) : SortedMap κ ν :=
  if m.contains key then m else m.insert key value

theorem get?_insertNew (m : SortedMap κ ν) (key other : κ) (value : ν) :
    (m.insertNew key value).get? other =
      if compare other key = .eq then some ((m.get? key).getD value) else m.get? other := by
  have here (h : compare other key = .eq) : m.get? other = m.get? key := by
    simp only [get?, lookup, Std.TransCmp.congr_left h]
  unfold insertNew contains
  by_cases h : compare other key = .eq
  · cases given : m.get? key with
    | none => simp [get?_insert, h]
    | some old => simp [h, here h, given]
  · cases given : m.get? key with
    | none => simp [get?_insert, h]
    | some old => simp [h]

/-- Sets every entry of a list in turn, so that the last value of a key stays. -/
def insertAll (m : SortedMap κ ν) (entries : List (κ × ν)) : SortedMap κ ν :=
  entries.foldl (fun m e => m.insert e.1 e.2) m

/-- The entries of a list; the last value of a key stays. -/
def ofList (entries : List (κ × ν)) : SortedMap κ ν := insertAll empty entries

/-- The entries that satisfy `p`. -/
def filter (m : SortedMap κ ν) (p : κ → ν → Bool) : SortedMap κ ν :=
  ⟨m.toList.filter fun e => p e.1 e.2, m.ascending.filter _⟩

end SortedMap

namespace SortedSet

variable {κ : Type} [Ord κ]

/-- The members in ascending order. -/
def members (s : SortedSet κ) : List κ := s.keys

variable [Std.TransOrd κ]

def add (s : SortedSet κ) (x : κ) : SortedSet κ := s.insert x ()

/-- Adds every member of a list. -/
def addAll (s : SortedSet κ) (xs : List κ) : SortedSet κ := xs.foldl add s

def ofList (xs : List κ) : SortedSet κ := addAll SortedMap.empty xs

end SortedSet
end HazardJob
