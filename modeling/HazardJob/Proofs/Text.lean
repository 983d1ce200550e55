import HazardJob.Proofs.Text.Span
import Mathlib

/-! Trimming a text and cutting it at separators: what is cut apart was joined, and what is joined
is cut apart again. -/
namespace HazardJob.Text

theorem toList_join (separator : String) (parts : List String) :
    (join separator parts).toList = separator.toList.intercalate (parts.map String.toList) :=
  String.toList_intercalate

theorem intercalate_append (separator : List Char) {before after : List (List Char)}
    (first : before ≠ []) (last : after ≠ []) :
    separator.intercalate (before ++ after) =
      separator.intercalate before ++ (separator ++ separator.intercalate after) := by
  induction before with
  | nil => exact absurd rfl first
  | cons part more ih =>
    cases more with
    | nil =>
      rw [List.singleton_append, List.intercalate_cons_of_ne_nil last, List.intercalate_singleton,
        List.append_assoc]
    | cons next more =>
      rw [List.cons_append, List.intercalate_cons_of_ne_nil (by simp), ih (by simp),
        List.intercalate_cons_cons]
      simp only [List.append_assoc]

theorem intercalate_append_head (separator before part : List Char) (more : List (List Char)) :
    separator.intercalate ((before ++ part) :: more) =
      before ++ separator.intercalate (part :: more) := by
  cases more with
  | nil => rw [List.intercalate_singleton, List.intercalate_singleton]
  | cons next more => simp only [List.intercalate_cons_cons, List.append_assoc]

/-- What is joined starts with its first part. -/
theorem intercalate_cons (separator part : List Char) (more : List (List Char)) :
    ∃ tail, separator.intercalate (part :: more) = part ++ tail := by
  cases more with
  | nil => exact ⟨[], by rw [List.intercalate_singleton, List.append_nil]⟩
  | cons next more => exact ⟨_, by rw [List.intercalate_cons_cons, List.append_assoc]⟩

theorem mem_intercalate {separator : List Char} {parts : List (List Char)} {c : Char}
    (member : c ∈ separator.intercalate parts) : c ∈ separator ∨ ∃ part ∈ parts, c ∈ part := by
  induction parts with
  | nil => simp [List.intercalate_nil] at member
  | cons part more ih =>
    cases more with
    | nil => exact .inr ⟨part, List.mem_cons_self, by rwa [List.intercalate_singleton] at member⟩
    | cons next more =>
      rw [List.intercalate_cons_cons, List.append_assoc] at member
      rcases List.mem_append.mp member with here | member
      · exact .inr ⟨part, List.mem_cons_self, here⟩
      rcases List.mem_append.mp member with between | later
      · exact .inl between
      · refine (ih later).imp id ?_
        rintro ⟨other, inside, here⟩
        exact ⟨other, List.mem_cons_of_mem _ inside, here⟩

theorem mem_intercalate_of_mem {separator part : List Char} {parts : List (List Char)} {c : Char}
    (member : part ∈ parts) (inside : c ∈ part) : c ∈ separator.intercalate parts := by
  induction parts with
  | nil => cases member
  | cons first more ih =>
    rcases List.mem_cons.mp member with rfl | later
    · obtain ⟨tail, starts⟩ := intercalate_cons separator part more
      rw [starts]
      exact List.mem_append_left _ inside
    · rw [List.intercalate_cons_of_ne_nil (List.ne_nil_of_mem later)]
      exact List.mem_append_right _ (ih later)

section Trim

variable {p : Char → Bool} {s : List Char}

/-- Neither the first nor the last character satisfies `p`. -/
structure Bare (p : Char → Bool) (s : List Char) : Prop where
  head : ∀ c, s.head? = some c → p c = false
  last : ∀ c, s.getLast? = some c → p c = false

instance : Decidable (Bare p s) :=
  decidable_of_iff (s.head?.all (!p ·) = true ∧ s.getLast?.all (!p ·) = true) (by
    simp only [Option.all_eq_true, Bool.not_eq_true']
    exact ⟨fun ends => ⟨ends.1, ends.2⟩, fun bare => ⟨bare.head, bare.last⟩⟩)

theorem Bare.of_forall (none : ∀ c ∈ s, p c = false) : Bare p s :=
  ⟨fun c first => none c (List.mem_of_head? first),
    fun c last => none c (List.mem_of_getLast? last)⟩

theorem Bare.of_all (none : s.all (!p ·) = true) : Bare p s :=
  .of_forall fun c member => by simpa using List.all_eq_true.mp none c member

theorem dropEndWhile_of_last (last : ∀ c, s.getLast? = some c → p c = false) :
    dropEndWhile p s = s := by
  unfold dropEndWhile
  rw [dropWhile_of_head, List.reverse_reverse]
  intro c first
  exact last c (by rwa [List.head?_reverse] at first)

theorem Bare.trimBy (bare : Bare p s) : trimBy p s = s := by
  unfold Text.trimBy
  rw [dropWhile_of_head bare.head, dropEndWhile_of_last bare.last]

/-- A text starts as its first part does and ends as its last. -/
theorem Bare.append {t : List Char} (first : Bare p s) (full : s ≠ []) (last : Bare p t)
    (full' : t ≠ []) (between : List Char) : Bare p (s ++ (between ++ t)) := by
  constructor
  · intro c head
    rw [List.head?_append_of_ne_nil _ full] at head
    exact first.head c head
  · intro c final
    rw [← List.append_assoc, List.getLast?_append_of_ne_nil _ full'] at final
    exact last.last c final

/-- Parts that are joined bring their first and last characters with them. -/
theorem bare_intercalate (separator : List Char) {parts : List (List Char)}
    (proper : ∀ part ∈ parts, part ≠ [] ∧ Bare p part) : Bare p (separator.intercalate parts) := by
  induction parts with
  | nil => exact .of_forall (by simp [List.intercalate_nil])
  | cons part more ih =>
    obtain ⟨some, bare⟩ := proper part List.mem_cons_self
    cases more with
    | nil => rwa [List.intercalate_singleton]
    | cons next more =>
      have later := ih fun part member => proper part (List.mem_cons_of_mem _ member)
      obtain ⟨full, -⟩ := proper next (by simp)
      obtain ⟨tail, starts⟩ := intercalate_cons separator next more
      have inside : separator.intercalate (next :: more) ≠ [] := by
        rw [starts]
        simp [full]
      rw [List.intercalate_cons_cons, List.append_assoc]
      exact bare.append some later inside separator

theorem dropEndWhile_prefix : dropEndWhile p s <+: s := List.rdropWhile_prefix p s

theorem bare_trimBy (p : Char → Bool) (s : List Char) : Bare p (Text.trimBy p s) := by
  constructor
  · intro c first
    have start : (s.dropWhile p).head? = some c := by
      obtain ⟨rest, whole⟩ := dropEndWhile_prefix (p := p) (s := s.dropWhile p)
      rw [← whole, List.head?_append, show (dropEndWhile p (s.dropWhile p)).head? = some c from first]
      rfl
    exact head?_dropWhile start
  · intro c last
    have inner : (Text.trimBy p s) ≠ [] := by
      intro nothing
      rw [nothing] at last
      cases last
    have kept := List.rdropWhile_last_not p (s.dropWhile p) inner
    have lastIs := List.getLast?_eq_some_getLast inner
    rw [last] at lastIs
    have same : c = (Text.trimBy p s).getLast inner := Option.some.inj lastIs
    rw [same]
    exact Bool.eq_false_iff.mpr kept

theorem trim_cons {c : Char} (solid : isBlank c = false) (rest : List Char) :
    ∃ tail, trim (c :: rest) = c :: tail := by
  obtain ⟨after, whole⟩ := dropEndWhile_prefix (p := isBlank) (s := c :: rest)
  have kept : trim (c :: rest) = dropEndWhile isBlank (c :: rest) := by
    rw [trim, trimBy, dropWhile_of_head]
    intro d first
    cases first
    exact solid
  rw [kept]
  cases trimmed : dropEndWhile isBlank (c :: rest) with
  | nil =>
    have blank := List.rdropWhile_eq_nil_iff.mp trimmed c List.mem_cons_self
    rw [solid] at blank
    cases blank
  | cons d tail =>
    rw [trimmed] at whole
    obtain ⟨rfl, -⟩ := List.cons.inj whole
    exact ⟨tail, rfl⟩

theorem trim_cons_blank {c : Char} (blank : isBlank c = true) (s : List Char) :
    trim (c :: s) = trim s := by
  unfold trim trimBy
  rw [List.dropWhile_cons_of_pos blank]

theorem trim_append_blank {w : List Char} (blank : ∀ c ∈ w, isBlank c = true) (s : List Char) :
    trim (w ++ s) = trim s := by
  induction w with
  | nil => rfl
  | cons c w ih =>
    rw [List.cons_append, trim_cons_blank (blank c List.mem_cons_self),
      ih fun d member => blank d (List.mem_cons_of_mem _ member)]

theorem trim_append_singleton {c : Char} (blank : isBlank c = true) (s : List Char) :
    trim (s ++ [c]) = trim s := by
  unfold trim trimBy dropEndWhile
  rw [List.dropWhile_append]
  split
  · rename_i nothing
    rw [List.isEmpty_iff.mp nothing]
    simp [blank]
  · rw [List.reverse_append, List.reverse_singleton, List.singleton_append,
      List.dropWhile_cons_of_pos blank]

/-- White space around a text makes no difference to what is left after trimming. -/
theorem trim_surrounded {before after : List Char} (blank : ∀ c ∈ before, isBlank c = true)
    (blank' : ∀ c ∈ after, isBlank c = true) (s : List Char) :
    trim (before ++ s ++ after) = trim s := by
  induction after using List.reverseRecOn with
  | nil => rw [List.append_nil, trim_append_blank blank]
  | append_singleton after c ih =>
    rw [← List.append_assoc, trim_append_singleton (blank' c (by simp)),
      ih fun d member => blank' d (List.mem_append_left _ member)]

theorem dropWhile_append_of_head {before : List Char}
    (head : ∀ c, s.head? = some c → p c = false) :
    (before ++ s).dropWhile p = before.dropWhile p ++ s := by
  rw [List.dropWhile_append]
  split
  · rename_i nothing
    rw [List.isEmpty_iff.mp nothing, dropWhile_of_head head, List.nil_append]
  · rfl

theorem dropEndWhile_append_of_last {after : List Char}
    (last : ∀ c, s.getLast? = some c → p c = false) :
    dropEndWhile p (s ++ after) = s ++ dropEndWhile p after := by
  have head : ∀ c, s.reverse.head? = some c → p c = false := by
    intro c first
    rw [List.head?_reverse] at first
    exact last c first
  unfold dropEndWhile
  rw [List.reverse_append, dropWhile_append_of_head head, List.reverse_append, List.reverse_reverse]

/-- What stands around a bare text is trimmed on its own. -/
theorem Bare.trimBy_between (bare : Bare p s) (full : s ≠ []) (before after : List Char) :
    Text.trimBy p (before ++ (s ++ after)) = before.dropWhile p ++ (s ++ dropEndWhile p after) := by
  have head : ∀ c, (s ++ after).head? = some c → p c = false := by
    rw [List.head?_append_of_ne_nil _ full]
    exact bare.head
  have last : ∀ c, (before.dropWhile p ++ s).getLast? = some c → p c = false := by
    rw [List.getLast?_append_of_ne_nil _ full]
    exact bare.last
  unfold Text.trimBy
  rw [dropWhile_append_of_head head, ← List.append_assoc, dropEndWhile_append_of_last last,
    List.append_assoc]

theorem dropEndWhile_append (p : Char → Bool) (s more : List Char) :
    dropEndWhile p s <+: dropEndWhile p (s ++ more) := by
  unfold dropEndWhile
  rw [List.reverse_append, List.dropWhile_append, List.reverse_prefix]
  split
  · exact List.suffix_refl _
  · exact (List.dropWhile_suffix p).trans (List.suffix_append _ _)

/-- A beginning of a text is trimmed to a beginning of the trimmed text. -/
theorem trim_prefix {s s' : List Char} (cut : s <+: s') : trim s <+: trim s' := by
  obtain ⟨more, rfl⟩ := cut
  unfold trim trimBy
  rw [List.dropWhile_append]
  split
  · rename_i blank
    rw [List.isEmpty_iff.mp blank]
    exact List.nil_prefix
  · exact dropEndWhile_append isBlank _ more

end Trim

section Pieces

variable {p : Char → Bool}

theorem pieces_ne_nil (s : List Char) : pieces p s ≠ [] := by
  cases s with
  | nil => simp [pieces]
  | cons c rest =>
    rw [pieces]
    split
    · simp
    · split <;> simp

theorem pieces_free {s piece : List Char} (member : piece ∈ pieces p s) :
    ∀ c ∈ piece, p c = false := by
  induction s generalizing piece with
  | nil =>
    simp only [pieces, List.mem_singleton] at member
    simp [member]
  | cons c rest ih =>
    rw [pieces] at member
    split at member
    · rcases List.mem_cons.mp member with rfl | member
      · simp
      · exact ih member
    · rename_i inner
      split at member
      · rename_i first more cut
        rcases List.mem_cons.mp member with rfl | member
        · intro d inPiece
          rcases List.mem_cons.mp inPiece with rfl | inPiece
          · simpa using inner
          · exact ih (by simp [cut]) d inPiece
        · exact ih (by simp [cut, member])
      · rename_i nothing
        exact absurd nothing (pieces_ne_nil rest)

theorem pieces_append_cons {s : List Char} (free : ∀ c ∈ s, p c = false) {c : Char}
    (separator : p c = true) (rest : List Char) :
    pieces p (s ++ c :: rest) = s :: pieces p rest := by
  induction s with
  | nil => simp [pieces, separator]
  | cons d s ih =>
    rw [List.cons_append, pieces, ih fun c member => free c (List.mem_cons_of_mem d member)]
    simp [free d List.mem_cons_self]

/-- A separator cuts a text in two, whatever stands before it. -/
theorem pieces_append_separator {c : Char} (separator : p c = true) (s rest : List Char) :
    pieces p (s ++ c :: rest) = pieces p s ++ pieces p rest := by
  induction s with
  | nil => simp [pieces, separator]
  | cons d s ih =>
    rw [List.cons_append, pieces, pieces, ih]
    split
    · rfl
    · cases cut : pieces p s with
      | nil => exact absurd cut (pieces_ne_nil s)
      | cons piece more => rfl

/-- Texts joined by a separator are cut apart there, and where they were cut apart before. -/
theorem pieces_join {c : Char} (separator : p c = true) {parts : List (List Char)}
    (some : parts ≠ []) : pieces p ([c].intercalate parts) = parts.flatMap (pieces p) := by
  induction parts with
  | nil => exact absurd rfl some
  | cons part more ih =>
    cases more with
    | nil => simp
    | cons next more =>
      rw [List.intercalate_cons_cons, List.append_assoc, List.singleton_append,
        pieces_append_separator separator, ih (by simp)]
      rfl

theorem pieces_of_free {s : List Char} (free : ∀ c ∈ s, p c = false) : pieces p s = [s] := by
  induction s with
  | nil => rfl
  | cons d s ih =>
    rw [pieces, ih fun c member => free c (List.mem_cons_of_mem d member)]
    simp [free d List.mem_cons_self]

/-- Texts joined by a separator and some padding are cut apart before the padding. -/
theorem pieces_intercalate {c : Char} {pad : List Char} (separator : p c = true)
    (padFree : ∀ d ∈ pad, p d = false) {first : List Char} {more : List (List Char)}
    (free : ∀ part ∈ first :: more, ∀ d ∈ part, p d = false) :
    pieces p ((c :: pad).intercalate (first :: more)) = first :: more.map (pad ++ ·) := by
  induction more generalizing first with
  | nil =>
    rw [List.intercalate_singleton, List.map_nil]
    exact pieces_of_free (free first List.mem_cons_self)
  | cons second more ih =>
    have later := @ih (pad ++ second) (by
      intro part member d inPart
      rcases List.mem_cons.mp member with rfl | member
      · rcases List.mem_append.mp inPart with inPart | inPart
        · exact padFree d inPart
        · exact free second (by simp) d inPart
      · exact free part (by simp [member]) d inPart)
    have joined : (c :: pad).intercalate (first :: second :: more) =
        first ++ c :: (c :: pad).intercalate ((pad ++ second) :: more) := by
      cases more with
      | nil => simp [List.intercalate_cons_cons]
      | cons third more => simp [List.intercalate_cons_cons]
    rw [joined, pieces_append_cons (free first List.mem_cons_self) separator, later]
    simp

/-- Parts that hold no separator are what they are cut apart to. -/
theorem pieces_intercalate_free {c : Char} (separator : p c = true) {parts : List (List Char)}
    (some : parts ≠ []) (free : ∀ part ∈ parts, ∀ d ∈ part, p d = false) :
    pieces p ([c].intercalate parts) = parts := by
  rw [pieces_join separator some]
  conv_rhs => rw [← List.flatMap_singleton' parts]
  exact List.flatMap_congr fun part member => pieces_of_free (free part member)

theorem intercalate_pieces (c : Char) (s : List Char) :
    [c].intercalate (pieces (· == c) s) = s := by
  induction s with
  | nil => rfl
  | cons d rest ih =>
    rw [pieces]
    split
    · rename_i separator
      have same : d = c := by simpa using separator
      rw [List.intercalate_cons_of_ne_nil (pieces_ne_nil rest), ih, same]
      rfl
    · split
      · rename_i piece more cut
        rw [cut] at ih
        cases more with
        | nil =>
          rw [List.intercalate_singleton] at ih ⊢
          rw [ih]
        | cons next more =>
          rw [List.intercalate_cons_cons] at ih ⊢
          rw [List.cons_append, List.cons_append, ih]
      · rename_i nothing
        exact absurd nothing (pieces_ne_nil rest)

theorem fields_cons_separator {c : Char} (separator : p c = true) (rest : List Char) :
    fields p (c :: rest) = fields p rest := by
  simp [fields, pieces, separator]

theorem fields_append_separators {separators : List Char} (all : ∀ c ∈ separators, p c = true)
    (rest : List Char) : fields p (separators ++ rest) = fields p rest := by
  induction separators with
  | nil => rfl
  | cons c more ih =>
    rw [List.cons_append, fields_cons_separator (all c List.mem_cons_self),
      ih fun c member => all c (List.mem_cons_of_mem _ member)]

theorem fields_append_cons {s : List Char} (free : ∀ c ∈ s, p c = false) (full : s ≠ []) {c : Char}
    (separator : p c = true) (rest : List Char) :
    fields p (s ++ c :: rest) = s :: fields p rest := by
  simp [fields, pieces_append_cons free separator, full]

theorem fields_of_free {s : List Char} (free : ∀ c ∈ s, p c = false) (full : s ≠ []) :
    fields p s = [s] := by
  simp [fields, pieces_of_free free, full]

theorem mem_fields {s field : List Char} (member : field ∈ fields p s) :
    field ≠ [] ∧ ∀ c ∈ field, p c = false := by
  simp only [fields, List.mem_filter, Bool.not_eq_true', List.isEmpty_eq_false_iff] at member
  exact ⟨member.2, pieces_free member.1⟩

/-- A text that starts with no separator starts with its first field. -/
theorem fields_cons {c : Char} (inner : p c = false) (rest : List Char) :
    ∃ field more, fields p (c :: rest) = (c :: field) :: more := by
  obtain ⟨piece, others, cut⟩ := List.exists_cons_of_ne_nil (pieces_ne_nil (p := p) rest)
  refine ⟨piece, others.filter (!·.isEmpty), ?_⟩
  simp [fields, pieces, inner, cut]

/-- Texts joined by a separator have the fields that they have one by one. -/
theorem fields_join {c : Char} (separator : p c = true) (parts : List (List Char)) :
    fields p ([c].intercalate parts) = parts.flatMap (fields p) := by
  by_cases some : parts = []
  · rw [some]
    rfl
  · rw [fields, pieces_join separator some, List.filter_flatMap]
    rfl

/-- Texts joined by separators are the fields of what they are joined to. -/
theorem fields_intercalate {separators : List Char} (all : ∀ c ∈ separators, p c = true)
    (some : separators ≠ []) {parts : List (List Char)}
    (proper : ∀ part ∈ parts, part ≠ [] ∧ ∀ c ∈ part, p c = false) :
    fields p (separators.intercalate parts) = parts := by
  induction parts with
  | nil => rfl
  | cons first more ih =>
    obtain ⟨full, free⟩ := proper first List.mem_cons_self
    have later := ih fun part member => proper part (List.mem_cons_of_mem _ member)
    cases more with
    | nil => rw [List.intercalate_singleton, fields_of_free free full]
    | cons second more =>
      obtain ⟨c, pad, rfl⟩ := List.exists_cons_of_ne_nil some
      rw [List.intercalate_cons_cons, List.append_assoc, List.cons_append,
        fields_append_cons free full (all c List.mem_cons_self),
        fields_append_separators fun d member => all d (List.mem_cons_of_mem _ member), later]

end Pieces

end HazardJob.Text
