import HazardJob.Proofs.Files.Absolute
import HazardJob.Proofs.Input

/-! Inputs as a job file in some directory means them. Their files are absolute and settled, so that the
place of an input, read in another directory, names the same files, unless white space in a path
breaks it into several. -/
namespace HazardJob

section Resolve

variable {cwd base : Path}

theorem Path.resolve_anywhere (absolute : base.isAbsolute = true) (cwd cwd' : Path) :
    Path.resolve cwd base = Path.resolve cwd' base := by
  funext text
  exact Path.absolute_anywhere (Path.isAbsolute_join absolute _) cwd cwd'

/-- A path taken relative to an absolute directory is settled. -/
theorem Path.settled_resolve (absolute : base.isAbsolute = true) (text : String) :
    (Path.resolve cwd base text).Settled := by
  have joined : (base.join ⟨text⟩).isAbsolute = true := Path.isAbsolute_join absolute _
  exact ⟨Path.isAbsolute_absolute (.inl joined), fun _ => Path.absolute_absolute joined _ _⟩

theorem Text.isBlank_not_path {c : Char} (blank : Text.isBlank c = true) : c ≠ '/' ∧ c ≠ '.' := by
  constructor <;> (rintro rfl; cases blank)

/-- White space of a resolved path comes from the directory, if the path itself has none. -/
theorem Path.mem_resolve_iff (absolute : base.isAbsolute = true) {word : List Char}
    (solid : ∀ c ∈ word, Text.isBlank c = false) {c : Char} (blank : Text.isBlank c = true) :
    c ∈ (Path.resolve cwd base (String.ofList word)).text.toList ↔
      word.head? ≠ some '/' ∧ c ∈ base.text.toList := by
  obtain ⟨slash, point⟩ := Text.isBlank_not_path blank
  have outside : c ∉ word := fun member => by simp [solid c member] at blank
  have full : base.text ≠ "" := by
    intro nothing
    simp [Path.isAbsolute, nothing] at absolute
  rw [Path.resolve, Path.mem_absolute_iff (Path.isAbsolute_join absolute _) cwd slash point]
  by_cases own : word.head? = some '/'
  · have whole : base.join ⟨String.ofList word⟩ = ⟨String.ofList word⟩ := by
      simp [Path.join, Path.isAbsolute, own]
    simp [whole, own, outside]
  · rw [Path.toList_join full (by simpa using own)]
    cases base.endsInSlash <;> simp [own, outside, slash]

end Resolve

namespace InputSource

/-- The source that a list of files makes; there is none without files. -/
def ofFiles? : List Path → Option InputSource
  | [] => none
  | [p] => some (.path p)
  | ps => some (.paths ps)

/-- The files that a text names in the directory `base`. -/
def filesOf (cwd base : Path) (s : List Char) : List Path :=
  (Text.words s).map fun word => Path.resolve cwd base (String.ofList word)

theorem ofText?_eq (cwd base : Path) (raw : String) :
    InputSource.ofText? cwd base raw = ofFiles? (filesOf cwd base raw.toList) := rfl

theorem files_of_ofFiles? {ps : List Path} {source : InputSource}
    (made : ofFiles? ps = some source) : source.files = ps ∧ ps ≠ [] := by
  unfold ofFiles? at made
  split at made
  · cases made
  · cases made
    exact ⟨rfl, by simp⟩
  · rename_i none _
    cases made
    exact ⟨rfl, none⟩

/-- Sources that are made of files are equal if their files are. -/
theorem ofFiles?_beq {ps qs : List Path} {a b : InputSource} (first : ofFiles? ps = some a)
    (second : ofFiles? qs = some b) : (a == b) = (ps == qs) := by
  match ps, qs with
  | [], _ => cases first
  | _, [] => cases second
  | [p], [q] =>
    cases first
    cases second
    exact (Bool.and_true _).symm
  | [p], q :: r :: more =>
    cases first
    cases second
    exact (Bool.and_false _).symm
  | p :: r :: more, [q] =>
    cases first
    cases second
    exact (Bool.and_false _).symm
  | p :: r :: more, q :: t :: others =>
    cases first
    cases second
    rfl

theorem listable_of_files {ps : List Path} {source : InputSource} (made : ofFiles? ps = some source)
    (each : ∀ p ∈ ps, p.Listable) : source.Listable := by
  match ps with
  | [] => cases made
  | [p] =>
    cases made
    exact each p List.mem_cons_self
  | p :: q :: more =>
    cases made
    exact ⟨Nat.le_add_left 2 more.length, each⟩

section Reread

variable {cwd base : Path}

theorem words_of_isAbsolute {p : Path} (absolute : p.isAbsolute = true) :
    ∃ word more, Text.words p.text.toList = ('/' :: word) :: more := by
  obtain ⟨rest, text⟩ := Path.text_of_isAbsolute absolute
  rw [text]
  exact Text.fields_cons rfl rest

theorem length_le_words {ps : List Path} (absolute : ∀ p ∈ ps, p.isAbsolute = true) :
    ps.length ≤ (ps.flatMap fun p => Text.words p.text.toList).length := by
  induction ps with
  | nil => exact Nat.zero_le _
  | cons p more ih =>
    obtain ⟨word, others, words⟩ := words_of_isAbsolute (absolute p List.mem_cons_self)
    have later := ih fun q member => absolute q (List.mem_cons_of_mem _ member)
    rw [List.flatMap_cons, words]
    simp only [List.length_cons, List.length_append]
    omega

/-- A file whose only word names the same file has no white space. -/
theorem solid_of_word {p : Path} (absolute : p.isAbsolute = true) {word : List Char}
    (words : Text.words p.text.toList = [word])
    (same : (Path.resolve cwd base (String.ofList word) == p) = true) :
    ∀ c ∈ p.text.toList, Text.isBlank c = false := by
  obtain ⟨tail, others, start⟩ := words_of_isAbsolute absolute
  rw [words] at start
  obtain ⟨rfl, -⟩ := List.cons.inj start
  have solid : ∀ c ∈ '/' :: tail, Text.isBlank c = false :=
    (Text.mem_fields (p := Text.isBlank) (s := p.text.toList) (by
      rw [← Text.words, words]
      exact List.mem_singleton_self _)).2
  have anchored : (Path.mk (String.ofList ('/' :: tail))).isAbsolute = true := by
    simp [Path.isAbsolute]
  have whole : base.join ⟨String.ofList ('/' :: tail)⟩ = ⟨String.ofList ('/' :: tail)⟩ := by
    unfold Path.join
    rw [if_pos anchored]
  have steps : (Path.mk (String.ofList ('/' :: tail))).steps = p.steps := by
    have equal : (Path.resolve cwd base (String.ofList ('/' :: tail))).steps = p.steps :=
      of_decide_eq_true same
    rwa [Path.resolve, whole, Path.steps_absolute anchored] at equal
  intro c member
  refine Bool.eq_false_iff.mpr fun blank => ?_
  obtain ⟨slash, point⟩ := Text.isBlank_not_path blank
  rw [Path.mem_text_iff absolute slash point, ← steps, ← Path.mem_text_iff anchored slash point,
    String.toList_ofList] at member
  rw [solid c member] at blank
  cases blank

/-- Files whose words name the same files have no white space: no file gives more than one word. -/
theorem solid_of_words {ps : List Path} (absolute : ∀ p ∈ ps, p.isAbsolute = true)
    (same : (((ps.flatMap fun p => Text.words p.text.toList).map fun word =>
      Path.resolve cwd base (String.ofList word)) == ps) = true) :
    ∀ p ∈ ps, ∀ c ∈ p.text.toList, Text.isBlank c = false := by
  induction ps with
  | nil => simp
  | cons p more ih =>
    have others : ∀ q ∈ more, q.isAbsolute = true :=
      fun q member => absolute q (List.mem_cons_of_mem _ member)
    obtain ⟨word, rest, words⟩ := words_of_isAbsolute (absolute p List.mem_cons_self)
    rw [List.flatMap_cons, words, List.cons_append, List.map_cons, List.cons_beq_cons,
      Bool.and_eq_true] at same
    obtain ⟨first, later⟩ := same
    have alone : rest = [] := by
      have length := List.length_eq_of_beq later
      have least := length_le_words others
      rw [List.length_map, List.length_append] at length
      exact List.length_eq_zero_iff.mp (by omega)
    rw [alone, List.nil_append] at later
    rw [alone] at words
    intro q member
    rcases List.mem_cons.mp member with rfl | member
    · exact solid_of_word (absolute q List.mem_cons_self) words first
    · exact ih others later q member

/-- The files of an input in a job file are settled. -/
theorem settled_of_ofText? {raw : String} {source : InputSource} (absolute : base.isAbsolute = true)
    (read : InputSource.ofText? cwd base raw = some source) : ∀ p ∈ source.files, p.Settled := by
  intro p member
  rw [ofText?_eq] at read
  rw [(files_of_ofFiles? read).1] at member
  obtain ⟨word, -, rfl⟩ := List.mem_map.mp member
  exact Path.settled_resolve absolute _

/-- The place of an input names the same files elsewhere exactly if none of them has white space. -/
theorem found_again_iff_solid {raw : String} {source : InputSource} (absolute : base.isAbsolute = true)
    (read : InputSource.ofText? cwd base raw = some source) (cwd' base' : Path) :
    (∃ again, InputSource.ofText? cwd' base' source.describe = some again ∧
      (again == source) = true) ↔
      ∀ p ∈ source.files, ∀ c ∈ p.text.toList, Text.isBlank c = false := by
  have settled := settled_of_ofText? absolute read
  have made := ofText?_eq cwd base raw ▸ read
  obtain ⟨files, some⟩ := files_of_ofFiles? made
  rw [← files] at some
  constructor
  · rintro ⟨again, found, same⟩
    rw [ofText?_eq] at found
    rw [ofFiles?_beq found made, ← files, filesOf, describe_files some, Text.words,
      Text.fields_join rfl, List.flatMap_map] at same
    exact solid_of_words (fun p member => (settled p member).isAbsolute) same
  · intro solid
    have listable : source.Listable := by
      refine listable_of_files made fun p member => ?_
      rw [← files] at member
      exact ⟨settled p member, solid p member⟩
    exact ⟨source, listable.ofText? cwd' base', source.beq_self⟩

end Reread

/-- The place of an input, as a job file in an absolute directory means it, names the same files in any
other directory exactly if the directory has no white space in its path or none of the files is
taken relative to it. -/
theorem found_again_iff {cwd base : Path} (absolute : base.isAbsolute = true) {raw : String}
    {source : InputSource} (read : InputSource.ofText? cwd base raw = some source)
    (cwd' base' : Path) :
    (∃ again, InputSource.ofText? cwd' base' source.describe = some again ∧
      (again == source) = true) ↔
      (∀ c ∈ base.text.toList, Text.isBlank c = false) ∨
        ∀ word ∈ Text.words raw.toList, word.head? = some '/' := by
  have files : source.files = filesOf cwd base raw.toList :=
    (files_of_ofFiles? (ofText?_eq cwd base raw ▸ read)).1
  have solid : ∀ word ∈ Text.words raw.toList, ∀ c ∈ word, Text.isBlank c = false :=
    fun word member => (Text.mem_fields member).2
  rw [found_again_iff_solid absolute read, files]
  constructor
  · intro whole
    by_cases free : ∀ c ∈ base.text.toList, Text.isBlank c = false
    · exact .inl free
    refine .inr fun word member => ?_
    by_contra relative
    refine free fun c inside => Bool.eq_false_iff.mpr fun blank => ?_
    have inFile : c ∈ (Path.resolve cwd base (String.ofList word)).text.toList :=
      (Path.mem_resolve_iff absolute (solid word member) blank).mpr ⟨relative, inside⟩
    have none := whole _ (List.mem_map_of_mem member) c inFile
    rw [blank] at none
    cases none
  · intro free p member c inside
    obtain ⟨word, given, rfl⟩ := List.mem_map.mp member
    refine Bool.eq_false_iff.mpr fun blank => ?_
    obtain ⟨relative, inBase⟩ := (Path.mem_resolve_iff absolute (solid word given) blank).mp inside
    rcases free with free | anchored
    · rw [free c inBase] at blank
      cases blank
    · exact relative (anchored word given)

/-- Files next to a job file and elsewhere, in a directory without white space in its path. -/
theorem found_again_unspaced :
    ∃ again, InputSource.ofText? ⟨"/"⟩ ⟨"/HOME"⟩ (paths [⟨"/WORK/a.xml"⟩, ⟨"/b.xml"⟩]).describe =
      some again ∧ (again == paths [⟨"/WORK/a.xml"⟩, ⟨"/b.xml"⟩]) = true := by
  have read : InputSource.ofText? ⟨"/"⟩ ⟨"/WORK"⟩ "a.xml /b.xml" =
      some (paths [⟨"/WORK/a.xml"⟩, ⟨"/b.xml"⟩]) := rfl
  have solid : ∀ c ∈ (Path.mk "/WORK").text.toList, Text.isBlank c = false := by simp [Text.isBlank]
  exact (found_again_iff rfl read _ _).mpr (.inl solid)

/-- A file next to a job file in a directory with a space in its name is two files elsewhere. -/
theorem found_again_spaced :
    InputSource.ofText? ⟨"/"⟩ ⟨"/WORK/my jobs"⟩ "site_model.csv" =
        some (path ⟨"/WORK/my jobs/site_model.csv"⟩) ∧
      InputSource.ofText? ⟨"/"⟩ ⟨"/WORK"⟩ (path ⟨"/WORK/my jobs/site_model.csv"⟩).describe =
        some (paths [⟨"/WORK/my"⟩, ⟨"/WORK/jobs/site_model.csv"⟩]) ∧
      (paths [⟨"/WORK/my"⟩, ⟨"/WORK/jobs/site_model.csv"⟩] ==
        path ⟨"/WORK/my jobs/site_model.csv"⟩) = false :=
  ⟨by rfl, by rfl, by rfl⟩

end InputSource
end HazardJob
