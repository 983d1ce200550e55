import HazardJob.Job.Check
import HazardJob.Proofs.Basic

/-! Creating a directory puts it in place and leaves everything else where it was, so that an
export directory which is provided once needs no providing again. -/
namespace HazardJob
namespace FileTree

/-- Everything in a tree stands in another one as well, and paths start at the same place. -/
structure Extends (t u : FileTree) : Prop where
  workingDirectory : u.workingDirectory = t.workingDirectory
  node? : ∀ spot node, t.node? spot = some node → u.node? spot = some node

theorem lookup_others {nodes : List (Location × FileNode)} {spot other : Location}
    (apart : other ≠ spot) : (nodes.filter fun e => e.1 != spot).lookup other = nodes.lookup other := by
  induction nodes with
  | nil => rfl
  | cons e more ih =>
    obtain ⟨key, value⟩ := e
    by_cases here : key = spot
    · have passed : (other == key) = false := beq_false_of_ne (here ▸ apart)
      have dropped : (key != spot) = false := by simp [here]
      rw [List.filter_cons_of_neg (by simp [here]), ih, List.lookup_cons, passed]
    · rw [List.filter_cons_of_pos (by simp [here]), List.lookup_cons, List.lookup_cons, ih]

theorem put_extends {t : FileTree} {spot : Location} (node : FileNode)
    (free : t.node? spot = none) : t.Extends (t.put spot node) where
  workingDirectory := rfl
  node? other found := by
    intro there
    have apart : other ≠ spot := by
      intro same
      simp [← same, there] at free
    by_cases root : other.isEmpty = true
    · simpa [FileTree.node?, root] using there
    · simp only [FileTree.node?, root, Bool.false_eq_true, if_false] at there ⊢
      simp only [put, List.append_assoc, List.lookup_append, lookup_others apart, there,
        Option.some_or]

theorem node?_put {t : FileTree} {spot : Location} (node : FileNode) (inner : spot ≠ []) :
    (t.put spot node).node? spot = some node := by
  have notKept : (t.nodes.filter fun e => e.1 != spot).lookup spot = none := by
    simp only [List.lookup_eq_none_iff, List.mem_filter, bne_iff_ne]
    exact fun e kept same => kept.2 same.symm
  have notOnTheWay : ((((List.range spot.length).map (spot.take ·)).filter
      fun way => (t.node? way).isNone).map (·, FileNode.directory)).lookup spot = none := by
    simp only [List.lookup_eq_none_iff, List.mem_map, List.mem_filter, List.mem_range]
    rintro _ ⟨way, ⟨⟨n, below, rfl⟩, -⟩, rfl⟩
    have shorter : (spot.take n).length ≠ spot.length := by
      rw [List.length_take]; omega
    exact bne_iff_ne.mpr fun same => shorter (congrArg List.length same).symm
  have root : spot.isEmpty = false := List.isEmpty_eq_false_iff.mpr inner
  rw [FileTree.node?, root, if_neg Bool.false_ne_true, put]
  simp only [root, Bool.false_eq_true, if_false, List.lookup_append, notKept, notOnTheWay]
  simp

/-- A part of a path that names something, and is not too long for that. -/
structure IsName (part : List Char) : Prop where
  notHere : part ≠ ['.']
  notUp : part ≠ ['.', '.']
  short : Text.byteCount part ≤ 255

/-- A part is followed in a directory: it stays there, goes up, or goes on to what has its name. -/
theorem follow_ok_iff {t : FileTree} {spot next : Location} {part : List Char} :
    t.follow spot part = .ok next ↔ t.node? spot = some .directory ∧
      (part = ['.'] ∧ next = spot ∨ part = ['.', '.'] ∧ next = spot.dropLast ∨
        IsName part ∧ next = spot ++ [String.ofList part] ∧ (t.node? next).isSome = true) := by
  constructor
  · intro led
    unfold follow at led
    split at led
    · rename_i inside
      refine ⟨inside, ?_⟩
      split at led
      · rename_i here
        cases led
        exact .inl ⟨eq_of_beq here, rfl⟩
      split at led
      · rename_i up
        cases led
        exact .inr (.inl ⟨eq_of_beq up, rfl⟩)
      rename_i notHere notUp
      split at led
      · cases led
      rename_i short
      dsimp only at led
      split at led
      · rename_i there
        cases led
        refine .inr (.inr ⟨⟨?_, ?_, Nat.le_of_not_gt short⟩, rfl, there⟩)
        · simpa using notHere
        · simpa using notUp
      · cases led
    · cases led
    · cases led
  · rintro ⟨inside, ⟨rfl, rfl⟩ | ⟨rfl, rfl⟩ | ⟨name, rfl, there⟩⟩
    · simp [follow, inside]
    · simp [follow, inside]
    · simp [follow, inside, name.notHere, name.notUp, Nat.not_lt.mpr name.short, there]

/-- In a directory nothing is found exactly if the part is a name that nothing has. -/
theorem follow_missing_iff {t : FileTree} {spot : Location} {part : List Char}
    (inside : t.node? spot = some .directory) : t.follow spot part = .error .notFound ↔
      IsName part ∧ t.node? (spot ++ [String.ofList part]) = none := by
  constructor
  · intro lost
    simp only [follow, inside] at lost
    split at lost
    · cases lost
    split at lost
    · cases lost
    rename_i notHere notUp
    split at lost
    · cases lost
    rename_i short
    split at lost
    · cases lost
    · rename_i free
      refine ⟨⟨?_, ?_, Nat.le_of_not_gt short⟩, by simpa using free⟩
      · simpa using notHere
      · simpa using notUp
  · rintro ⟨name, free⟩
    simp [follow, inside, name.notHere, name.notUp, Nat.not_lt.mpr name.short, free]

theorem Extends.follow {t u : FileTree} (larger : t.Extends u) {spot next : Location}
    {part : List Char} (there : t.follow spot part = .ok next) : u.follow spot part = .ok next := by
  obtain ⟨inside, step⟩ := follow_ok_iff.mp there
  refine follow_ok_iff.mpr ⟨larger.node? _ _ inside, step.imp id (Or.imp id ?_)⟩
  rintro ⟨name, same, found⟩
  obtain ⟨node, found⟩ := Option.isSome_iff_exists.mp found
  exact ⟨name, same, by rw [larger.node? _ _ found]; rfl⟩

theorem Extends.followAll {t u : FileTree} (larger : t.Extends u) {spot last : Location}
    {parts : List (List Char)} (there : parts.foldlM t.follow spot = .ok last) :
    parts.foldlM u.follow spot = .ok last := by
  induction parts generalizing spot with
  | nil => exact there
  | cons part more ih =>
    rw [List.foldlM_cons] at there ⊢
    obtain ⟨next, first, rest⟩ := bind_eq_ok.mp there
    exact bind_eq_ok.mpr ⟨next, larger.follow first, ih rest⟩

/-- Creates a directory in one that is there, where nothing is found under the name. -/
def createAt (t : FileTree) (part : List Char) (parent : Location) : Except FileError FileTree :=
  match t.follow parent part with
  | .ok _ => .error .alreadyExists
  | .error e =>
    if e = .notFound ∧ t.node? parent = some .directory then
      .ok (t.put (parent ++ [String.ofList part]) .directory)
    else .error e

/-- All parts of a path but the last are followed, and the directory is created there. -/
theorem createDirectory_eq {t : FileTree} {p : Path} {before : List (List Char)} {last : List Char}
    (text : textFault? p = none) (way : hops p = before ++ [last]) :
    t.createDirectory p = before.foldlM t.follow (t.start p) >>= t.createAt last := by
  have reversed : (hops p).reverse = last :: before.reverse := by simp [way]
  simp only [createDirectory, text, reversed, List.reverse_reverse]
  show (_ >>= _) = _
  congr 1
  funext parent
  unfold createAt FileTree.follow
  cases t.node? parent with
  | none => rfl
  | some node =>
    cases node with
    | file content => rfl
    | directory =>
      by_cases here : last = ['.']
      · simp only [here]
        rfl
      by_cases up : last = ['.', '.']
      · simp only [up]
        rfl
      by_cases long : Text.byteCount last > 255
      · simp [here, up, long]
        rfl
      cases found : t.node? (parent ++ [String.ofList last]) with
      | none =>
        simp [here, up, long, found]
        rfl
      | some other =>
        simp [here, up, long, found]
        rfl

theorem createDirectory_cases (t : FileTree) (p : Path) :
    (∃ e, textFault? p = some e ∧ t.createDirectory p = .error e) ∨ textFault? p = none ∧
      (hops p = [] ∧ t.createDirectory p = .error .alreadyExists ∨
        ∃ before last, hops p = before ++ [last] ∧
          t.createDirectory p = before.foldlM t.follow (t.start p) >>= t.createAt last) := by
  cases text : textFault? p with
  | some e => exact .inl ⟨e, rfl, by simp only [createDirectory, text]; rfl⟩
  | none =>
    refine .inr ⟨rfl, ?_⟩
    rcases List.eq_nil_or_concat (hops p) with nothing | ⟨before, last, way⟩
    · exact .inl ⟨nothing, by simp only [createDirectory, text, nothing]; rfl⟩
    · rw [List.concat_eq_append] at way
      exact .inr ⟨before, last, way, createDirectory_eq text way⟩

/-- What it takes to create a directory: a free place in a directory that its path leads to. -/
theorem createDirectory_ok {t u : FileTree} {p : Path} (created : t.createDirectory p = .ok u) :
    ∃ before last parent, hops p = before ++ [last] ∧ textFault? p = none ∧
      before.foldlM t.follow (t.start p) = .ok parent ∧ t.node? parent = some .directory ∧
      IsName last ∧ t.node? (parent ++ [String.ofList last]) = none ∧
      u = t.put (parent ++ [String.ofList last]) .directory := by
  rcases createDirectory_cases t p with
    ⟨e, -, failed⟩ | ⟨text, ⟨-, failed⟩ | ⟨before, last, way, same⟩⟩
  · rw [failed] at created
    cases created
  · rw [failed] at created
    cases created
  · rw [same] at created
    obtain ⟨parent, led, created⟩ := bind_eq_ok.mp created
    unfold createAt at created
    split at created
    · cases created
    · rename_i lost
      split at created
      · rename_i missing
        obtain ⟨rfl, inside⟩ := missing
        cases created
        obtain ⟨name, free⟩ := (follow_missing_iff inside).mp lost
        exact ⟨before, last, parent, way, text, led, inside, name, free, rfl⟩
      · cases created

theorem isDirectory_of_reached {t : FileTree} {p : Path} {spot : Location}
    (text : textFault? p = none) (reached : (hops p).foldlM t.follow (t.start p) = .ok spot)
    (there : t.node? spot = some .directory) : t.isDirectory p = true := by
  have resolved : t.resolve p = .ok .directory := by
    unfold resolve
    rw [text, reached]
    simp only [bind, Except.bind, there]
    rfl
  simp only [isDirectory, resolved]

/-- A directory that is created is there afterwards. -/
theorem isDirectory_of_created {t u : FileTree} {p : Path} (created : t.createDirectory p = .ok u) :
    u.isDirectory p = true := by
  obtain ⟨before, last, parent, way, text, led, inside, name, free, rfl⟩ := createDirectory_ok created
  have larger := put_extends .directory free
  have there : (t.put (parent ++ [String.ofList last]) .directory).node?
      (parent ++ [String.ofList last]) = some .directory := node?_put .directory (by simp)
  have lastHop : (t.put (parent ++ [String.ofList last]) .directory).follow parent last =
      .ok (parent ++ [String.ofList last]) :=
    follow_ok_iff.mpr ⟨larger.node? _ _ inside, .inr (.inr ⟨name, rfl, by rw [there]; rfl⟩)⟩
  refine isDirectory_of_reached text ?_ there
  rw [way, List.foldlM_append, bind_eq_ok]
  exact ⟨parent, larger.followAll led, by simpa using lastHop⟩

theorem isDirectory_of_ensured {t u : FileTree} {p : Path}
    (ensured : t.ensureDirectory p = (.ok (), u)) : u.isDirectory p = true := by
  unfold ensureDirectory at ensured
  split at ensured
  · rename_i v created
    cases ensured
    exact isDirectory_of_created created
  · split at ensured
    · cases ensured
      assumption
    · cases ensured

/-- After a directory and those that lead to it are created it is there, unless there was nothing
to create. -/
theorem isDirectory_of_go {t u : FileTree} {p : Path} {bound : Nat}
    (created : createWithParents.go bound t p = (.ok (), u)) : u.isDirectory p = true ∨ u = t := by
  cases bound with
  | zero => cases created; exact .inr rfl
  | succ bound =>
    rw [createWithParents.go] at created
    split at created
    · cases created; exact .inr rfl
    split at created
    · rename_i v made
      cases created
      exact .inl (isDirectory_of_created made)
    · split at created
      · cases created
      · split at created
        · exact .inl (isDirectory_of_ensured created)
        · rename_i failed
          exact absurd created (failed u)
    · split at created
      · cases created; exact .inr rfl
      · cases created

theorem pathExists_of_isDirectory {t : FileTree} {p : Path} (there : t.isDirectory p = true) :
    t.pathExists p = true := by
  unfold isDirectory at there
  unfold pathExists
  split at there
  · rename_i found; simp [found, Except.toBool]
  · cases there

/-- An export directory that was provided is there when it is asked for again. -/
theorem provideExportDir_again {t u : FileTree} {p : Path}
    (provided : t.provideExportDir p = (none, u)) : u.provideExportDir p = (none, u) := by
  have ready (there : u.isDirectory p = true) : u.provideExportDir p = (none, u) := by
    simp [provideExportDir, pathExists_of_isDirectory there, there]
  have given := provided
  unfold provideExportDir at given
  split at given
  · split at given
    · cases given; exact provided
    · cases given
  · split at given
    · rename_i v created
      cases given
      rcases isDirectory_of_go created with there | same
      · exact ready there
      · rw [same] at provided ⊢
        exact provided
    · cases given

end FileTree
end HazardJob
