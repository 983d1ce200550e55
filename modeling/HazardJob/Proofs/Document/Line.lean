import HazardJob.Document.Reader
import HazardJob.Proofs.Reading.Basic
import HazardJob.Proofs.Text
import HazardJob.Proofs.Text.LowerCase

/-! What the lines of a job file are read as. An indented line is blank, a comment or a continuation,
whatever it holds; a key with an equals sign starts an entry. The other way round, keys and values
that were read have the form in which lines give them. -/
namespace HazardJob

namespace Text

theorem isBlank_of_isIndent {c : Char} (indent : isIndent c = true) : isBlank c = true := by
  simp only [isIndent, Bool.or_eq_true, beq_iff_eq] at indent
  rcases indent with rfl | rfl <;> rfl

theorem isIndent_of_not_isBlank {c : Char} (inner : isBlank c = false) : isIndent c = false :=
  Bool.eq_false_iff.mpr fun indent => by simp [isBlank_of_isIndent indent] at inner

/-- Indentation makes no difference to what is left after trimming. -/
theorem trim_dropWhile_isIndent (s : List Char) : trim (s.dropWhile isIndent) = trim s := by
  conv_rhs => rw [← List.takeWhile_append_dropWhile (p := isIndent) (l := s)]
  symm
  apply trim_append_blank
  intro c member
  exact isBlank_of_isIndent (List.mem_takeWhile_imp member)

end Text

namespace Document

open Reading

section Keys

/-- Letters and numbers are no white space, and neither are the signs between them. -/
theorem isBlank_of_isKeyChar {c : Char} (key : isKeyChar c = true) : Text.isBlank c = false := by
  simp only [isKeyChar, Bool.or_eq_true, beq_iff_eq] at key
  rcases key with ((letter | rfl) | rfl) | rfl
  · exact Text.isBlank_of_isAlphanumeric letter
  all_goals rfl

/-- A key that is read as it stands. -/
structure SettledKey (key : String) : Prop where
  inhabited : key.toList ≠ []
  chars : ∀ c ∈ key.toList, isKeyChar c = true
  small : ∀ c ∈ key.toList, Text.Small c

/-- A key as it comes out of reading: in lower case, where a dotted capital I leaves its dot. -/
structure LoweredKey (key : String) : Prop where
  inhabited : key.toList ≠ []
  chars : ∀ c ∈ key.toList, isKeyChar c = true ∨ c = Text.dotAbove
  small : ∀ c ∈ key.toList, Text.Small c

theorem LoweredKey.settled {key : String} (lowered : LoweredKey key)
    (chars : ∀ c ∈ key.toList, isKeyChar c = true) : SettledKey key :=
  ⟨lowered.inhabited, chars, lowered.small⟩

theorem SettledKey.lowered {key : String} (settled : SettledKey key) : LoweredKey key :=
  ⟨settled.inhabited, fun c member => .inl (settled.chars c member), settled.small⟩

/-- A key has no line feed. -/
theorem LoweredKey.free {key : String} (lowered : LoweredKey key) :
    ∀ c ∈ key.toList, (c == '\n') = false := by
  intro c member
  refine beq_eq_false_iff_ne.mpr ?_
  rintro rfl
  rcases lowered.chars '\n' member with key | dot
  · cases key
  · cases dot

theorem mem_lower {s : List Char} (chars : ∀ c ∈ s, isKeyChar c = true) {d : Char}
    (member : d ∈ Text.lower s) : Text.Small d ∧ (isKeyChar d = true ∨ d = Text.dotAbove) := by
  have letter (alphanumeric : Text.isAlphanumeric d = true) : isKeyChar d = true := by
    simp only [isKeyChar, alphanumeric, Bool.true_or]
  rcases Text.mem_lowerAfter member with ⟨c, inside, lowered⟩ | rfl | rfl
  · have key := chars c inside
    simp only [isKeyChar, Bool.or_eq_true, beq_iff_eq] at key
    rcases key with ((alphanumeric | rfl) | rfl) | rfl
    · obtain ⟨small, form⟩ := Text.mem_lowerChar alphanumeric lowered
      exact ⟨small, form.imp letter id⟩
    all_goals
      rw [List.mem_singleton.mp lowered]
      decide +kernel
  · exact ⟨by decide +kernel, .inl (letter (by decide +kernel))⟩
  · exact ⟨by decide +kernel, .inl (letter (by decide +kernel))⟩

/-- Lower case turns the characters of a key into a key as it is read. -/
theorem loweredKey_lower {s : List Char} (full : s ≠ []) (chars : ∀ c ∈ s, isKeyChar c = true) :
    LoweredKey (String.ofList (Text.lower s)) := by
  constructor
  · rw [String.toList_ofList]
    exact Text.lowerAfter_ne_nil full
  · intro c member
    rw [String.toList_ofList] at member
    exact (mem_lower chars member).2
  · intro c member
    rw [String.toList_ofList] at member
    exact (mem_lower chars member).1

end Keys

section Forms

theorem indent_append {w rest : List Char} (all : ∀ c ∈ w, Text.isIndent c = true)
    (stops : ∀ c, rest.head? = some c → Text.isIndent c = false) :
    indent (w ++ rest) = .ok () rest := by
  show Outcome.ok () ((w ++ rest).dropWhile Text.isIndent) = _
  rw [Text.dropWhile_append all stops]

theorem span1_append {p : Char → Bool} (kind : Kind) {w rest : List Char} (full : w ≠ [])
    (all : ∀ c ∈ w, p c = true) (stops : ∀ c, rest.head? = some c → p c = false) :
    span1 p kind (w ++ rest) = .ok w rest := by
  simp [span1, Text.takeWhile_append all stops, Text.dropWhile_append all stops, full]

theorem span1_missed {p : Char → Bool} (kind : Kind) {s : List Char}
    (none : ∀ c, s.head? = some c → p c = false) : span1 p kind s = missed s (.kind kind) := by
  simp [span1, Text.takeWhile_of_head none]

theorem span1_ok {p : Char → Bool} {kind : Kind} {s w rest : List Char}
    (read : span1 p kind s = .ok w rest) : s = w ++ rest ∧ w ≠ [] ∧ ∀ c ∈ w, p c = true := by
  unfold span1 at read
  split at read
  · cases read
  · rename_i full
    cases read
    exact ⟨List.takeWhile_append_dropWhile.symm, by simpa using full,
      fun c member => List.mem_takeWhile_imp member⟩

/-- A line that is neither blank nor a comment, after any indentation. -/
theorem not_layout {w rest : List Char} (all : ∀ c ∈ w, Text.isIndent c = true) {c : Char}
    (head : rest.head? = some c) (inner : Text.isIndent c = false) (plain : ¬(c = '#' ∨ c = ';')) :
    ∀ q ∈ [blankLine, commentLine], Misses q (w ++ rest) := by
  obtain ⟨tail, rfl⟩ := List.head?_eq_some_iff.mp head
  have indented : indent (w ++ c :: tail) = .ok () (c :: tail) :=
    indent_append all fun d first => by cases first; exact inner
  have other : oneOf ['#', ';'] (c :: tail) = missed (c :: tail) (.kind .oneOf) := by
    simp [oneOf, plain]
  intro q member
  simp only [List.mem_cons, List.not_mem_nil, or_false] at member
  rcases member with rfl | rfl
  · refine ⟨[⟨c :: tail, .kind .endOfText⟩], ?_⟩
    rw [blankLine, bind_of_ok indented]
    rfl
  · refine ⟨[⟨c :: tail, .kind .oneOf⟩], ?_⟩
    rw [commentLine, bind_of_ok indented, bind_apply, other]
    rfl

theorem readAll_firstOf (before : List (Reader Line)) {after : List (Reader Line)} {r : Reader Line}
    {raw : List Char} {l : Line} (missed : ∀ q ∈ before, Misses q raw) (read : r raw = .ok l []) :
    readAll (firstOf (before ++ r :: after)) raw = .ok l := by
  rw [readAll, firstOf_of_misses before missed read]

/-- What a line is read as after an indentation. -/
def indented (l : List Char) : Line :=
  match l.dropWhile Text.isIndent with
  | [] => .blank
  | c :: rest =>
    if c = '#' ∨ c = ';' then .comment else .continuation (String.ofList (Text.trim (c :: rest)))

/-- An indented line is blank, a comment or a continuation; it starts no section and no entry. -/
theorem line_indented {w : List Char} (full : w ≠ []) (all : ∀ c ∈ w, Text.isIndent c = true)
    (l : List Char) : readAll line (w ++ l) = .ok (indented l) := by
  have cut : w ++ l = (w ++ l.takeWhile Text.isIndent) ++ l.dropWhile Text.isIndent := by
    rw [List.append_assoc, List.takeWhile_append_dropWhile]
  have stops : ∀ c, (l.dropWhile Text.isIndent).head? = some c → Text.isIndent c = false :=
    fun c first => Text.head?_dropWhile first
  have blank : ∀ c ∈ w ++ l.takeWhile Text.isIndent, Text.isIndent c = true := fun c member =>
    (List.mem_append.mp member).elim (all c) List.mem_takeWhile_imp
  have first : w ++ l.takeWhile Text.isIndent ≠ [] := by simp [full]
  unfold indented
  rw [cut]
  generalize w ++ l.takeWhile Text.isIndent = v at blank first
  generalize l.dropWhile Text.isIndent = rest at stops
  have taken : indent (v ++ rest) = .ok () rest := indent_append blank stops
  cases rest with
  | nil =>
    refine readAll_firstOf [] (by simp) ?_
    rw [blankLine, bind_of_ok taken]
    rfl
  | cons c rest =>
    have inner : Text.isIndent c = false := stops c rfl
    by_cases sign : c = '#' ∨ c = ';'
    · simp only [sign, if_true]
      refine readAll_firstOf [blankLine] (List.forall_mem_singleton.mpr ?_) ?_
      · exact ⟨_, by rw [blankLine, bind_of_ok taken]; rfl⟩
      · have hash : oneOf ['#', ';'] (c :: rest) = .ok c rest := by simp [oneOf, sign]
        rw [commentLine, bind_of_ok taken, bind_of_ok hash]
        rfl
    · simp only [sign, if_false]
      refine readAll_firstOf [blankLine, commentLine] (not_layout blank rfl inner sign) ?_
      rw [continuationLine, bind_of_ok (span1_append .indent first blank (by simpa using stops))]
      rfl

/-- A line that starts with none of the signs of the other forms can only be an entry. -/
theorem misses_all_but_entry {raw : List Char} {c : Char} (head : raw.head? = some c)
    (inner : Text.isIndent c = false) (plain : ¬(c = '#' ∨ c = ';')) (unbracketed : c ≠ '[') :
    ∀ q ∈ [blankLine, commentLine, continuationLine, headerLine], Misses q raw := by
  have layout := not_layout (w := []) (by simp) head inner plain
  have continuation : Misses continuationLine raw := by
    refine bind_misses _ ⟨_, span1_missed .indent fun d first => ?_⟩
    rw [head] at first
    cases first
    exact inner
  have header : Misses headerLine raw := by
    refine bind_misses _ (char_misses fun first => ?_)
    rw [head] at first
    exact unbracketed (Option.some.inj first)
  intro q member
  simp only [List.mem_cons, List.not_mem_nil, or_false] at member layout
  rcases member with rfl | rfl | rfl | rfl
  · exact layout _ (.inl rfl)
  · exact layout _ (.inr rfl)
  · exact continuation
  · exact header

/-- The start of a key is the start of no other form. -/
theorem misses_before_entry {raw : List Char} {c : Char} (head : raw.head? = some c)
    (key : isKeyChar c = true ∨ c = Text.dotAbove) :
    ∀ q ∈ [blankLine, commentLine, continuationLine, headerLine], Misses q raw := by
  have other {d : Char} (outside : isKeyChar d = false ∧ d ≠ Text.dotAbove) : c ≠ d := by
    rintro rfl
    rcases key with key | dot
    · rw [outside.1] at key
      cases key
    · exact outside.2 dot
  have inner : Text.isIndent c = false := by
    simp only [Text.isIndent, Bool.or_eq_false_iff, beq_eq_false_iff_ne]
    exact ⟨other (by decide), other (by decide)⟩
  refine misses_all_but_entry head inner ?_ (other (by decide))
  rintro (hash | semicolon)
  · exact other (by decide) hash
  · exact other (by decide) semicolon

/-- Key characters, and a sign after them or after an indentation, start an entry. -/
theorem line_keyed {key v : List Char} {sign : Char} (full : key ≠ [])
    (chars : ∀ c ∈ key, isKeyChar c = true) (blank : ∀ c ∈ v, Text.isIndent c = true)
    (mark : sign = '=' ∨ sign = ':') (s : List Char) :
    readAll line (key ++ (v ++ sign :: s)) =
      .ok (.entry (String.ofList (Text.lower key)) (String.ofList (Text.trim s))) := by
  obtain ⟨c, tail, rfl⟩ := List.exists_cons_of_ne_nil full
  have missed : ∀ q ∈ [blankLine, commentLine, continuationLine, headerLine],
      Misses q (c :: tail ++ (v ++ sign :: s)) :=
    misses_before_entry rfl (.inl (chars c List.mem_cons_self))
  have outer : isKeyChar sign = false ∧ Text.isIndent sign = false := by
    rcases mark with rfl | rfl <;> decide
  have named : span1 isKeyChar .run (c :: tail ++ (v ++ sign :: s)) =
      .ok (c :: tail) (v ++ sign :: s) := by
    refine span1_append .run full chars fun d first => ?_
    cases v with
    | nil =>
      cases first
      exact outer.1
    | cons b v =>
      cases first
      have space := Text.isBlank_of_isIndent (blank d List.mem_cons_self)
      exact Bool.eq_false_iff.mpr fun key => by simp [isBlank_of_isKeyChar key] at space
  have spaced : indent (v ++ sign :: s) = .ok () (sign :: s) :=
    indent_append blank fun d first => by cases first; exact outer.2
  have equals : within "'=' after key" (oneOf ['=', ':']) (sign :: s) = .ok sign s := by
    rcases mark with rfl | rfl <;> rfl
  refine readAll_firstOf [blankLine, commentLine, continuationLine, headerLine] missed ?_
  rw [entryLine, bind_of_ok named, bind_of_ok spaced, bind_of_ok equals]
  show Outcome.ok (Line.entry (String.ofList (Text.lower (Text.trim (c :: tail))))
    (String.ofList (Text.trim (s.dropWhile Text.isIndent)))) [] = _
  rw [Text.trim_dropWhile_isIndent, Text.trim, (Text.Bare.of_forall fun d member =>
    isBlank_of_isKeyChar (chars d member)).trimBy]

/-- A key and an equals sign start an entry. -/
theorem line_entry {key : String} (settled : SettledKey key) (s : List Char) :
    readAll line (key.toList ++ ' ' :: '=' :: s) =
      .ok (.entry key (String.ofList (Text.trim s))) := by
  have small : Text.lower key.toList = key.toList := Text.lowerAfter_small [] settled.small
  have read := line_keyed settled.inhabited settled.chars (v := [' '])
    (List.forall_mem_singleton.mpr rfl) (.inl rfl) s
  rwa [small, String.ofList_toList] at read

/-- A dot above ends a key, and no equals sign follows it there. -/
theorem entryLine_misses {w : List Char} (chars : ∀ c ∈ w, isKeyChar c = true) (rest : List Char) :
    Misses entryLine (w ++ Text.dotAbove :: rest) := by
  have stops {p : Char → Bool} (outside : p Text.dotAbove = false) (c : Char)
      (first : (Text.dotAbove :: rest).head? = some c) : p c = false := by
    cases first
    exact outside
  have dot : isKeyChar Text.dotAbove = false := by decide +kernel
  by_cases nothing : w = []
  · rw [nothing, List.nil_append]
    exact bind_misses _ ⟨_, span1_missed .run (stops dot)⟩
  · have named := span1_append .run nothing chars (stops dot)
    have spaced : indent (Text.dotAbove :: rest) = .ok () (Text.dotAbove :: rest) :=
      indent_append (w := []) (by simp) (stops rfl)
    have unequal : Misses (within "'=' after key" (oneOf ['=', ':'])) (Text.dotAbove :: rest) :=
      ⟨_, rfl⟩
    obtain ⟨trace, missed⟩ := unequal
    refine ⟨trace, ?_⟩
    rw [entryLine, bind_of_ok named, bind_of_ok spaced, bind_apply, missed]
    rfl

/-- The dot of a dotted capital I ends a key before its equals sign. -/
theorem line_unreadable {key : String} (lowered : LoweredKey key) {c : Char} (member : c ∈ key.toList)
    (dot : isKeyChar c = false) (s : List Char) :
    ∃ trace, readAll line (key.toList ++ ' ' :: '=' :: s) = .error trace := by
  obtain ⟨first, tail, chars⟩ := List.exists_cons_of_ne_nil lowered.inhabited
  have head : (key.toList ++ ' ' :: '=' :: s).head? = some first := by simp [chars]
  have before := misses_before_entry head (lowered.chars first (by simp [chars]))
  have left : key.toList.dropWhile isKeyChar ≠ [] := fun all => by
    rw [List.dropWhile_eq_nil_iff.mp all c member] at dot
    cases dot
  obtain ⟨d, rest, cut⟩ := List.exists_cons_of_ne_nil left
  obtain ⟨whole, stop⟩ := Text.eq_of_dropWhile cut
  have isDot : d = Text.dotAbove := by
    have inKey : d ∈ key.toList := List.dropWhile_subset (p := isKeyChar) (by simp [cut])
    refine (lowered.chars d inKey).resolve_left fun other => ?_
    rw [other] at stop
    cases stop
  have entry : Misses entryLine (key.toList ++ ' ' :: '=' :: s) := by
    have missed := entryLine_misses (w := key.toList.takeWhile isKeyChar)
      (fun e inside => List.mem_takeWhile_imp inside) (rest ++ ' ' :: '=' :: s)
    rwa [← isDot, ← List.cons_append, ← List.append_assoc, ← whole] at missed
  have all : ∀ q ∈ [blankLine, commentLine, continuationLine, headerLine] ++ [entryLine],
      Misses q (key.toList ++ ' ' :: '=' :: s) :=
    List.forall_mem_append.mpr ⟨before, List.forall_mem_singleton.mpr entry⟩
  obtain ⟨trace, missed⟩ := firstOf_misses _ all
  have missed : line (key.toList ++ ' ' :: '=' :: s) = .miss trace := missed
  exact ⟨trace, by rw [readAll, missed]⟩

end Forms

section Read

/-- A text without line feeds and without white space at its ends. -/
structure SingleLine (text : String) : Prop where
  bare : Text.Bare Text.isBlank text.toList
  free : ∀ c ∈ text.toList, (c == '\n') = false

theorem singleLine_trim {s : List Char} (free : ∀ c ∈ s, (c == '\n') = false) :
    SingleLine (String.ofList (Text.trim s)) := by
  constructor
  · rw [String.toList_ofList]
    exact Text.bare_trimBy _ _
  · intro c member
    rw [String.toList_ofList] at member
    exact free c (List.dropWhile_subset _ (Text.dropEndWhile_prefix.subset member))

/-- The form of what a line is read as. -/
def Line.Proper : Line → Prop
  | .blank | .comment | .header _ => True
  | .entry key value => LoweredKey key ∧ SingleLine value
  | .continuation more => SingleLine more

theorem indent_ok {s rest : List Char} {u : Unit} (read : indent s = .ok u rest) :
    rest = s.dropWhile Text.isIndent := by
  cases read
  rfl

theorem oneOf_ok {choices s rest : List Char} {c : Char} (read : oneOf choices s = .ok c rest) :
    s = c :: rest ∧ c ∈ choices := by
  cases s with
  | nil => cases read
  | cons d tail =>
    simp only [oneOf] at read
    split at read
    · cases read
      exact ⟨rfl, ‹_›⟩
    · cases read

/-- Blank lines, comments and headers carry nothing into an entry. -/
theorem layout_proper {q : Reader Line} (form : q ∈ [blankLine, commentLine, headerLine])
    {s rest : List Char} {l : Line} (read : q s = .ok l rest) : l.Proper := by
  simp only [List.mem_cons, List.not_mem_nil, or_false] at form
  rcases form with rfl | rfl | rfl
  · obtain ⟨_, _, -, read⟩ := bind_ok.mp read
    obtain ⟨_, _, -, read⟩ := bind_ok.mp read
    cases read
    trivial
  · obtain ⟨_, _, -, read⟩ := bind_ok.mp read
    obtain ⟨_, _, -, read⟩ := bind_ok.mp read
    obtain ⟨_, _, -, read⟩ := bind_ok.mp read
    cases read
    trivial
  · obtain ⟨_, _, -, read⟩ := bind_ok.mp read
    obtain ⟨_, _, -, read⟩ := bind_ok.mp read
    obtain ⟨_, _, -, read⟩ := bind_ok.mp read
    obtain ⟨_, _, -, read⟩ := bind_ok.mp read
    cases read
    trivial

variable {s rest : List Char} {l : Line} (free : ∀ c ∈ s, (c == '\n') = false)

include free

theorem continuationLine_proper (read : continuationLine s = .ok l rest) : l.Proper := by
  obtain ⟨w, left, indented, finish⟩ := bind_ok.mp read
  obtain ⟨rfl, -, -⟩ := span1_ok indented
  cases finish
  exact singleLine_trim fun c member => free c (List.mem_append_right _ member)

theorem entryLine_proper (read : entryLine s = .ok l rest) : l.Proper := by
  obtain ⟨key, afterKey, named, read⟩ := bind_ok.mp read
  obtain ⟨_, beforeSign, spaced, read⟩ := bind_ok.mp read
  obtain ⟨sign, afterSign, equals, read⟩ := bind_ok.mp read
  obtain ⟨_, value, spaced', finish⟩ := bind_ok.mp read
  obtain ⟨rfl, full, chars⟩ := span1_ok named
  obtain ⟨cut, -⟩ := oneOf_ok (within_ok.mp equals)
  cases indent_ok spaced
  cases indent_ok spaced'
  cases finish
  constructor
  · rw [Text.trim, (Text.Bare.of_forall fun c member => isBlank_of_isKeyChar (chars c member)).trimBy]
    exact loweredKey_lower full chars
  · refine singleLine_trim fun c member => free c (List.mem_append_right _ ?_)
    apply List.dropWhile_subset (p := Text.isIndent)
    rw [cut]
    exact List.mem_cons_of_mem _ (List.dropWhile_subset _ member)

/-- Whatever a line is read as has the form of what is written. -/
theorem line_proper (read : readAll line s = .ok l) : l.Proper := by
  have found : line s = .ok l [] := by
    unfold readAll at read
    split at read
    · rename_i whole
      cases read
      exact whole
    all_goals cases read
  obtain ⟨q, member, read⟩ := firstOf_ok found
  simp only [List.mem_cons, List.not_mem_nil, or_false] at member
  rcases member with rfl | rfl | rfl | rfl | rfl
  · exact layout_proper (by simp) read
  · exact layout_proper (by simp) read
  · exact continuationLine_proper free read
  · exact layout_proper (by simp) read
  · exact entryLine_proper free read

end Read
end Document
end HazardJob
