import HazardJob.Literal.Reader
import HazardJob.Proofs.Reading.Basic

/-! The grammar of literals. A literal is read from exactly the texts that spell it, in front of
anything that does not go on with a number. -/
namespace HazardJob.Literal

open Reading

/-- Items between an opening and a closing mark, with layout around them and perhaps a comma after
the last. -/
def Enclosed {α : Type} (opening closing : Char) (Spells : α → List Char → Prop) (items : List α)
    (t : List Char) : Prop :=
  ∃ v body w last x, t = opening :: (v ++ (body ++ (w ++ (last ++ (x ++ [closing]))))) ∧
    Layout v ∧ Layout w ∧ Layout x ∧ (last = [] ∨ last = [',']) ∧
    (items = [] ∧ body = [] ∨ Listed Spells items body)

/-- A key and a value with a colon between them. -/
def Paired (Spells : Literal → List Char → Prop) (e : Literal × Literal) (t : List Char) : Prop :=
  ∃ key v w value, t = key ++ (v ++ ':' :: (w ++ value)) ∧ Spells e.1 key ∧ Spells e.2 value ∧
    Layout v ∧ Layout w

/-- A text between two marks that it does not hold. -/
def Between (mark : Char) (text : String) (t : List Char) : Prop :=
  mark ∉ text.toList ∧ t = mark :: (text.toList ++ [mark])

/-- The texts that spell a literal with less than `depth` levels of nesting. -/
def Spelled : Nat → Literal → List Char → Prop
  | 0, _, _ => False
  | _ + 1, .none, t => t = "None".toList ∨ t = "null".toList
  | _ + 1, .bool true, t => t = "True".toList ∨ t = "true".toList
  | _ + 1, .bool false, t => t = "False".toList ∨ t = "false".toList
  | _ + 1, .text s, t => Between '\x27' s t ∨ Between '"' s t
  | depth + 1, .list items, t =>
    Enclosed '[' ']' (Spelled depth) items t ∨ Enclosed '(' ')' (Spelled depth) items t
  | depth + 1, .dict entries, t => Enclosed '\x7b' '\x7d' (Paired (Spelled depth)) entries t
  | _ + 1, .number x, t => NumberText x t

section Soundness

theorem spelled_ok {first second : String} {value l : Literal} {s rest : List Char}
    (read : spelled first second value s = .ok l rest) :
    l = value ∧ ∃ t, s = t ++ rest ∧ (t = first.toList ∨ t = second.toList) := by
  unfold spelled at read
  obtain ⟨u, left, found, same⟩ := bind_ok.mp read
  cases same
  obtain ⟨r, member, readWord⟩ := firstOf_ok found
  rcases List.mem_cons.mp member with rfl | member
  · exact ⟨rfl, _, word_ok.mp readWord, .inl rfl⟩
  · rw [List.mem_singleton.mp member] at readWord
    exact ⟨rfl, _, word_ok.mp readWord, .inr rfl⟩

theorem between_ok {mark : Char} {text : String} {s rest : List Char}
    (read : between mark s = .ok text rest) : ∃ t, s = t ++ rest ∧ Between mark text t := by
  unfold between at read
  obtain ⟨_, s₁, opened, read⟩ := bind_ok.mp read
  obtain ⟨content, s₂, spanned, read⟩ := bind_ok.mp read
  obtain ⟨_, s₃, closed, same⟩ := bind_ok.mp read
  cases same
  obtain rfl := char_ok.mp opened
  rw [commit_ok, within_ok, char_ok] at closed
  simp only [span, Outcome.ok.injEq] at spanned
  obtain ⟨rfl, rfl⟩ := spanned
  refine ⟨mark :: (s₁.takeWhile (· != mark) ++ [mark]), ?_, ?_, by simp⟩
  · rw [List.cons_append, List.append_assoc, List.singleton_append, ← closed,
      List.takeWhile_append_dropWhile]
  · rw [String.toList_ofList]
    intro inside
    simpa using List.all_eq_true.mp List.all_takeWhile mark inside

theorem lastComma_ok {s rest : List Char} (read : lastComma s = .ok () rest) :
    ∃ w last, s = w ++ (last ++ rest) ∧ Layout w ∧ (last = [] ∨ last = [',']) := by
  unfold lastComma at read
  obtain ⟨_, s₁, blank, read⟩ := bind_ok.mp read
  obtain ⟨found, s₂, comma, same⟩ := bind_ok.mp read
  cases same
  obtain ⟨w, rfl, layout, -⟩ := layout_ok blank
  unfold Reading.optional at comma
  split at comma
  · rename_i read
    cases comma
    obtain rfl := char_ok.mp read
    exact ⟨w, [','], rfl, layout, .inr rfl⟩
  · cases comma
    exact ⟨w, [], rfl, layout, .inl rfl⟩
  · cases comma

theorem enclosed_ok {α : Type} {opening closing : Char} {part : String} {item : Reader α}
    {Spells : α → List Char → Prop} (sound : Sound item Spells) {s rest : List Char}
    {items : List α}
    (read : enclosed opening closing part (separated comma item) s = .ok items rest) :
    ∃ t, s = t ++ rest ∧ Enclosed opening closing Spells items t := by
  unfold enclosed at read
  obtain ⟨_, s₁, opened, read⟩ := bind_ok.mp read
  obtain ⟨_, s₂, blank, read⟩ := bind_ok.mp read
  obtain ⟨items', s₃, content, read⟩ := bind_ok.mp read
  obtain ⟨_, s₄, last, read⟩ := bind_ok.mp read
  obtain ⟨_, s₅, blank', read⟩ := bind_ok.mp read
  obtain ⟨_, s₆, closed, same⟩ := bind_ok.mp read
  cases same
  obtain rfl := char_ok.mp opened
  obtain ⟨v, rfl, before, -⟩ := layout_ok blank
  obtain ⟨w, comma, rfl, after, optional⟩ := lastComma_ok last
  obtain ⟨x, rfl, end_, -⟩ := layout_ok blank'
  rw [commit_ok, within_ok, char_ok] at closed
  subst closed
  rcases separated_ok sound content with ⟨rfl, rfl⟩ | ⟨body, rfl, listed⟩
  · exact ⟨opening :: (v ++ ([] ++ (w ++ (comma ++ (x ++ [closing]))))), by simp, v, [], w, comma,
      x, rfl, before, after, end_, optional, .inl ⟨rfl, rfl⟩⟩
  · exact ⟨opening :: (v ++ (body ++ (w ++ (comma ++ (x ++ [closing]))))), by simp, v, body, w,
      comma, x, rfl, before, after, end_, optional, .inr listed⟩

theorem entry_sound {item : Reader Literal} {Spells : Literal → List Char → Prop}
    (sound : Sound item Spells) : Sound (entry item) (Paired Spells) := by
  intro s e rest read
  unfold entry at read
  obtain ⟨key, s₁, readKey, read⟩ := bind_ok.mp read
  obtain ⟨_, s₂, blank, read⟩ := bind_ok.mp read
  obtain ⟨_, s₃, colon, read⟩ := bind_ok.mp read
  obtain ⟨_, s₄, blank', read⟩ := bind_ok.mp read
  obtain ⟨value, s₅, readValue, same⟩ := bind_ok.mp read
  cases same
  obtain ⟨k, rfl, keySpelled⟩ := sound _ _ _ readKey
  obtain ⟨v, rfl, before, -⟩ := layout_ok blank
  obtain rfl := char_ok.mp colon
  obtain ⟨w, rfl, after, -⟩ := layout_ok blank'
  rw [commit_ok, within_ok] at readValue
  obtain ⟨x, rfl, valueSpelled⟩ := sound _ _ _ readValue
  exact ⟨k ++ (v ++ ':' :: (w ++ x)), by simp, k, v, w, x, rfl, keySpelled, valueSpelled, before,
    after⟩

/-- What is read as a literal spells it. -/
theorem nested_sound (depth : Nat) : Sound (nested depth) (Spelled depth) := by
  induction depth with
  | zero =>
    intro s l rest read
    cases read
  | succ depth ih =>
    intro s l rest read
    obtain ⟨r, member, read⟩ := firstOf_ok read
    simp only [List.mem_cons, List.not_mem_nil, or_false] at member
    rcases member with rfl | rfl | rfl | rfl | rfl | rfl | rfl | rfl
    · obtain ⟨rfl, t, same, spells⟩ := spelled_ok read
      exact ⟨t, same, spells⟩
    · obtain ⟨rfl, t, same, spells⟩ := spelled_ok read
      exact ⟨t, same, spells⟩
    · obtain ⟨rfl, t, same, spells⟩ := spelled_ok read
      exact ⟨t, same, spells⟩
    · obtain ⟨text, inner, rfl⟩ := map_ok.mp read
      obtain ⟨q, member, marked⟩ := firstOf_ok inner
      simp only [List.mem_cons, List.not_mem_nil, or_false] at member
      rcases member with rfl | rfl
      · obtain ⟨t, same, spells⟩ := between_ok marked
        exact ⟨t, same, .inl spells⟩
      · obtain ⟨t, same, spells⟩ := between_ok marked
        exact ⟨t, same, .inr spells⟩
    · obtain ⟨items, inner, rfl⟩ := map_ok.mp read
      obtain ⟨t, same, spells⟩ := enclosed_ok ih inner
      exact ⟨t, same, .inl spells⟩
    · obtain ⟨items, inner, rfl⟩ := map_ok.mp read
      obtain ⟨t, same, spells⟩ := enclosed_ok ih inner
      exact ⟨t, same, .inr spells⟩
    · obtain ⟨entries, inner, rfl⟩ := map_ok.mp read
      exact enclosed_ok (entry_sound ih) inner
    · obtain ⟨x, inner, rfl⟩ := map_ok.mp read
      exact number_ok inner

end Soundness

section Completeness

/-- Marks that may follow an item, before which no literal stands. -/
def closings : List Char := [']', ')', '\x7d']

/-- A literal does not start with layout, a comma, a colon or a closing mark. -/
def startsLiteral (c : Char) : Bool :=
  startsNumber c || ['N', 'n', 'T', 't', 'F', 'f', '\x27', '"', '[', '(', '\x7b'].contains c

theorem startsLiteral_not_layout {c : Char} (starts : startsLiteral c = true) :
    Text.isLayout c = false := by
  cases blank : Text.isLayout c with
  | false => rfl
  | true =>
    simp only [Text.isLayout, Bool.or_eq_true, beq_iff_eq] at blank
    rcases blank with ((rfl | rfl) | rfl) | rfl <;> exact absurd starts (by decide)

theorem spelled_misses {first second : String} {value : Literal} {s : List Char}
    (notFirst : first.toList.isPrefixOf s = false) (notSecond : second.toList.isPrefixOf s = false) :
    Misses (spelled first second value) s := by
  refine bind_misses _ (firstOf_misses _ fun r member => ?_)
  rcases List.mem_cons.mp member with rfl | member
  · exact word_misses notFirst
  · rw [List.mem_singleton.mp member]
    exact word_misses notSecond

theorem between_misses {mark : Char} {s : List Char} (other : s.head? ≠ some mark) :
    Misses (between mark) s := bind_misses _ (char_misses other)

theorem enclosed_misses {α : Type} {opening closing : Char} {part : String} {content : Reader α}
    {s : List Char} (other : s.head? ≠ some opening) :
    Misses (enclosed opening closing part content) s := bind_misses _ (char_misses other)

theorem isPrefixOf_of_head {c : Char} {w s : List Char} (other : s.head? ≠ some c) :
    (c :: w).isPrefixOf s = false := by
  cases s with
  | nil => rfl
  | cons d s =>
    have apart : (c == d) = false := beq_false_of_ne fun same => other (by rw [same]; rfl)
    simp only [List.isPrefixOf, apart, Bool.false_and]

/-- No word of the grammar stands at the start of a text. -/
def NoWord (s : List Char) : Prop :=
  ∀ w ∈ ["None", "null", "True", "true", "False", "false"], w.toList.isPrefixOf s = false

theorem noWord_of_head {s : List Char}
    (other : ∀ c ∈ ['N', 'n', 'T', 't', 'F', 'f'], s.head? ≠ some c) : NoWord s := by
  intro w member
  simp only [List.mem_cons, List.not_mem_nil, or_false] at member
  rcases member with rfl | rfl | rfl | rfl | rfl | rfl <;>
    exact isPrefixOf_of_head (other _ (by decide))

theorem words_miss {s : List Char} (noWord : NoWord s) :
    ∀ r ∈ [spelled "None" "null" none, spelled "True" "true" (bool true),
      spelled "False" "false" (bool false)], Misses r s := by
  intro r member
  simp only [List.mem_cons, List.not_mem_nil, or_false] at member
  rcases member with rfl | rfl | rfl <;>
    exact spelled_misses (noWord _ (by decide)) (noWord _ (by decide))

theorem quoted_misses {s : List Char} (apostrophe : s.head? ≠ some '\x27')
    (quote : s.head? ≠ some '"') : Misses (text <$> quoted) s := by
  refine map_misses _ (firstOf_misses _ fun r member => ?_)
  simp only [List.mem_cons, List.not_mem_nil, or_false] at member
  rcases member with rfl | rfl
  · exact between_misses apostrophe
  · exact between_misses quote

/-- The readers of literals that stand between marks. -/
def markedReaders (depth : Nat) : List (Reader Literal) :=
  [text <$> quoted, list <$> enclosed '[' ']' "closing bracket" (separated comma (nested depth)),
    list <$> enclosed '(' ')' "closing parenthesis" (separated comma (nested depth)),
    dict <$> enclosed '\x7b' '\x7d' "closing brace" (separated comma (entry (nested depth)))]

theorem marked_miss (depth : Nat) {s : List Char}
    (other : ∀ c ∈ ['\x27', '"', '[', '(', '\x7b'], s.head? ≠ some c) :
    ∀ r ∈ markedReaders depth, Misses r s := by
  intro r member
  simp only [markedReaders, List.mem_cons, List.not_mem_nil, or_false] at member
  rcases member with rfl | rfl | rfl | rfl
  · exact quoted_misses (other _ (by decide)) (other _ (by decide))
  · exact map_misses _ (enclosed_misses (other _ (by decide)))
  · exact map_misses _ (enclosed_misses (other _ (by decide)))
  · exact map_misses _ (enclosed_misses (other _ (by decide)))

theorem nested_misses (depth : Nat) {s : List Char}
    (other : ∀ c, s.head? = some c → startsLiteral c = false) : Misses (nested depth) s := by
  have apart {d : Char} (starts : startsLiteral d = true) : s.head? ≠ some d := by
    intro first
    rw [other d first] at starts
    cases starts
  cases depth with
  | zero => exact ⟨_, rfl⟩
  | succ depth =>
    refine firstOf_misses _ fun r member => ?_
    have member : r ∈ [spelled "None" "null" none, spelled "True" "true" (bool true),
        spelled "False" "false" (bool false)] ++ (markedReaders depth ++
          [number <$> Reading.number]) := member
    rcases List.mem_append.mp member with word | member
    · refine words_miss (noWord_of_head fun c member => apart ?_) r word
      simp only [List.mem_cons, List.not_mem_nil, or_false] at member
      rcases member with rfl | rfl | rfl | rfl | rfl | rfl <;> decide
    rcases List.mem_append.mp member with marked | number
    · refine marked_miss depth (fun c member => apart ?_) r marked
      simp only [List.mem_cons, List.not_mem_nil, or_false] at member
      rcases member with rfl | rfl | rfl | rfl | rfl <;> decide
    · rw [List.mem_singleton.mp number]
      refine map_misses _ (number_misses fun c first => ?_)
      have none := other c first
      simp only [startsLiteral, Bool.or_eq_false_iff] at none
      exact none.1

theorem nested_of_word {depth : Nat} {s rest : List Char} {l : Literal}
    (before : List (Reader Literal)) {after : List (Reader Literal)} {r : Reader Literal}
    (split : [spelled "None" "null" none, spelled "True" "true" (bool true),
      spelled "False" "false" (bool false)] = before ++ r :: after)
    (missed : ∀ q ∈ before, Misses q s) (read : r s = .ok l rest) :
    nested (depth + 1) s = .ok l rest := by
  have all : nested (depth + 1) = firstOf (before ++ r :: (after ++
      (markedReaders depth ++ [number <$> Reading.number]))) := by
    rw [← List.cons_append, ← List.append_assoc, ← split]
    rfl
  rw [all]
  exact firstOf_of_misses _ missed read

theorem nested_eq_marked {depth : Nat} {s : List Char} (before : List (Reader Literal))
    {after : List (Reader Literal)} {r : Reader Literal} (noWord : NoWord s)
    (split : markedReaders depth = before ++ r :: after)
    (missed : ∀ q ∈ before, Misses q s) (fits : ¬Misses r s) : nested (depth + 1) s = r s := by
  have all : nested (depth + 1) = firstOf (([spelled "None" "null" none,
      spelled "True" "true" (bool true), spelled "False" "false" (bool false)] ++ before) ++
      r :: (after ++ [number <$> Reading.number])) := by
    rw [List.append_assoc, ← List.cons_append, ← List.append_assoc before, ← split]
    rfl
  rw [all]
  refine firstOf_eq _ (fun q member => ?_) fits
  rcases List.mem_append.mp member with word | marked
  · exact words_miss noWord q word
  · exact missed q marked

theorem nested_of_marked {depth : Nat} {s rest : List Char} {l : Literal}
    (before : List (Reader Literal)) {after : List (Reader Literal)} {r : Reader Literal} (noWord : NoWord s)
    (split : markedReaders depth = before ++ r :: after)
    (missed : ∀ q ∈ before, Misses q s) (read : r s = .ok l rest) :
    nested (depth + 1) s = .ok l rest :=
  (nested_eq_marked before noWord split missed (not_misses_of_ok read)).trans read

theorem nested_of_number {depth : Nat} {s rest : List Char} {x : Binary64} (noWord : NoWord s)
    (other : ∀ c ∈ ['\x27', '"', '[', '(', '\x7b'], s.head? ≠ some c)
    (read : Reading.number s = .ok x rest) : nested (depth + 1) s = .ok (number x) rest := by
  have all : nested (depth + 1) = firstOf (([spelled "None" "null" none,
      spelled "True" "true" (bool true), spelled "False" "false" (bool false)] ++
      markedReaders depth) ++ (number <$> Reading.number) :: []) := rfl
  rw [all]
  refine firstOf_of_misses _ (fun q member => ?_) (map_ok.mpr ⟨x, read, rfl⟩)
  rcases List.mem_append.mp member with word | marked
  · exact words_miss noWord q word
  · exact marked_miss depth other q marked

theorem spelled_of {first second : String} {value : Literal} {t rest : List Char}
    (word : t = first.toList ∨ t = second.toList)
    (apart : first.toList.isPrefixOf (second.toList ++ rest) = false) :
    spelled first second value (t ++ rest) = .ok value rest := by
  have read : firstOf [Reading.word first.toList, Reading.word second.toList] (t ++ rest) =
      .ok () rest := by
    rcases word with rfl | rfl
    · exact firstOf_of_misses [] (by simp) (word_ok.mpr rfl)
    · refine firstOf_of_misses [Reading.word first.toList] (fun q member => ?_)
        (word_ok.mpr rfl)
      rw [List.mem_singleton.mp member]
      exact word_misses apart
  exact bind_ok.mpr ⟨(), rest, read, rfl⟩

theorem between_of {mark : Char} {text : String} {t rest : List Char}
    (spells : Between mark text t) : between mark (t ++ rest) = .ok text rest := by
  obtain ⟨inside, rfl⟩ := spells
  have all : ∀ c ∈ text.toList, (c != mark) = true := by
    intro c member
    simp only [bne_iff_ne]
    rintro rfl
    exact inside member
  have stops : ∀ c, (mark :: rest).head? = some c → (c != mark) = false := by simp
  have content : span (· != mark) (text.toList ++ mark :: rest) = .ok text.toList (mark :: rest) := by
    rw [span, Text.takeWhile_append all stops, Text.dropWhile_append all stops]
  have opened : char mark (mark :: (text.toList ++ [mark]) ++ rest) =
      .ok () (text.toList ++ mark :: rest) := char_ok.mpr (by simp)
  have closed : commit (within "closing quote" (char mark)) (mark :: rest) = .ok () rest := by
    rw [commit_ok, within_ok, char_ok]
  unfold between
  refine bind_ok.mpr ⟨(), _, opened, bind_ok.mpr ⟨_, _, content, bind_ok.mpr ⟨(), _, closed, ?_⟩⟩⟩
  rw [String.ofList_toList]
  rfl

theorem lastComma_none {w rest : List Char} (blank : Layout w) (stops : StopsLayout rest)
    (other : rest.head? ≠ some ',') : lastComma (w ++ rest) = .ok () rest := by
  have optional : Reading.optional (char ',') rest = .ok .none rest := by
    obtain ⟨trace, miss⟩ := char_misses other
    simp only [Reading.optional, miss]
  exact bind_ok.mpr ⟨(), _, layout_append blank stops, bind_ok.mpr ⟨_, _, optional, rfl⟩⟩

theorem lastComma_some {w : List Char} (blank : Layout w) (rest : List Char) :
    lastComma (w ++ ',' :: rest) = .ok () rest := by
  have stops : StopsLayout (',' :: rest) := by
    intro c first
    cases first
    rfl
  have optional : Reading.optional (char ',') (',' :: rest) = .ok (some ()) rest := by
    simp only [Reading.optional, char_ok.mpr rfl]
  exact bind_ok.mpr ⟨(), _, layout_append blank stops, bind_ok.mpr ⟨_, _, optional, rfl⟩⟩

/-- What closes a list: it is no layout, no comma, and nothing that goes on with a number. -/
structure Closing (closing : Char) : Prop where
  layout : Text.isLayout closing = false
  comma : closing ≠ ','
  numeral : ∀ rest, Binary64.StopsNumeral (closing :: rest)

theorem Closing.stopsLayout {closing : Char} (closes : Closing closing) (rest : List Char) :
    StopsLayout (closing :: rest) := by
  intro c first
  cases first
  exact closes.layout

/-- What may follow the items: perhaps a comma, then the closing mark. -/
def Tail (closing : Char) (rest left : List Char) : Prop :=
  ∃ left', lastComma left = .ok () left' ∧ layout left' = .ok () (closing :: rest)

theorem tail_none {closing : Char} (closes : Closing closing) {w : List Char} (blank : Layout w)
    (rest : List Char) : Tail closing rest (w ++ closing :: rest) :=
  ⟨_, lastComma_none blank (closes.stopsLayout rest) (by simpa using closes.comma),
    layout_append (w := []) (by simp [Layout]) (closes.stopsLayout rest)⟩

theorem tail_comma {closing : Char} (closes : Closing closing) {w x : List Char}
    (before : Layout w) (after : Layout x) (rest : List Char) :
    Tail closing rest (w ++ ',' :: (x ++ closing :: rest)) :=
  ⟨_, lastComma_some before _, layout_append after (closes.stopsLayout rest)⟩

theorem enclosed_of_content {α : Type} {opening closing : Char} {part : String}
    {content : Reader α} {v u left rest : List Char} {value : α} (before : Layout v)
    (stops : StopsLayout u) (read : content u = .ok value left) (tail : Tail closing rest left) :
    enclosed opening closing part content (opening :: (v ++ u)) = .ok value rest := by
  obtain ⟨left', comma, blank⟩ := tail
  have closed : commit (within part (char closing)) (closing :: rest) = .ok () rest := by
    rw [commit_ok, within_ok, char_ok]
  unfold enclosed
  exact bind_ok.mpr ⟨(), _, char_ok.mpr rfl, bind_ok.mpr ⟨(), _, layout_append before stops,
    bind_ok.mpr ⟨_, _, read, bind_ok.mpr ⟨(), _, comma, bind_ok.mpr ⟨(), _, blank,
      bind_ok.mpr ⟨(), _, closed, rfl⟩⟩⟩⟩⟩⟩

variable {α : Type} {opening closing : Char} {part : String} {item : Reader α}
  {Spells : α → List Char → Prop}

theorem enclosed_nil (closes : Closing closing)
    (misses : ∀ c rest, c = closing ∨ c = ',' → Misses item (c :: rest)) {v last x : List Char}
    (before : Layout v) (after : Layout x) (comma : last = [] ∨ last = [',']) (rest : List Char) :
    enclosed opening closing part (separated Reading.comma item)
      (opening :: (v ++ (last ++ (x ++ closing :: rest)))) = .ok [] rest := by
  rcases comma with rfl | rfl
  · have all : Layout (v ++ x) := fun c member =>
      (List.mem_append.mp member).elim (before c) (after c)
    rw [List.nil_append, ← List.append_assoc]
    exact enclosed_of_content all (closes.stopsLayout rest)
      (separated_nil (misses closing rest (.inl rfl)))
      (tail_none (w := []) closes (by simp [Layout]) rest)
  · have stops : StopsLayout (',' :: (x ++ closing :: rest)) := by
      intro c first
      cases first
      rfl
    exact enclosed_of_content before stops (separated_nil (misses ',' _ (.inr rfl)))
      (tail_comma (w := []) closes (by simp [Layout]) after rest)

theorem enclosed_listed (complete : Complete item Spells) (closes : Closing closing)
    (misses : ∀ c rest, c = closing ∨ c = ',' → Misses item (c :: rest)) {items : List α}
    {v body w last x : List Char} (listed : Listed Spells items body) (before : Layout v)
    (after : Layout w) (end_ : Layout x) (comma : last = [] ∨ last = [',']) (rest : List Char) :
    enclosed opening closing part (separated Reading.comma item)
      (opening :: (v ++ (body ++ (w ++ (last ++ (x ++ closing :: rest)))))) = .ok items rest := by
  have stops := closes.stopsLayout rest
  rcases comma with rfl | rfl
  · have all : Layout (w ++ x) := fun c member =>
      (List.mem_append.mp member).elim (after c) (end_ c)
    rw [List.nil_append, ← List.append_assoc w]
    exact enclosed_of_content before (listed.stopsLayout complete _)
      (separated_append complete listed
        (endsList_of_misses (comma_misses all stops (by simpa using closes.comma)))
        (stopsNumeral_layout all (closes.numeral rest)))
      (tail_none closes all rest)
  · have ends : EndsList item (w ++ ',' :: (x ++ closing :: rest)) :=
      endsList_of_lastComma (comma_append after end_ stops) (misses closing rest (.inl rfl))
    exact enclosed_of_content before (listed.stopsLayout complete _)
      (separated_append complete listed ends
        (stopsNumeral_layout after (stopsNumeral_comma _)))
      (tail_comma closes after end_ rest)

/-- A list is read from every spelling of it. -/
theorem enclosed_of (complete : Complete item Spells) (closes : Closing closing)
    (misses : ∀ c rest, c = closing ∨ c = ',' → Misses item (c :: rest)) {items : List α}
    {t : List Char} (spells : Enclosed opening closing Spells items t) (rest : List Char) :
    enclosed opening closing part (separated Reading.comma item) (t ++ rest) = .ok items rest := by
  obtain ⟨v, body, w, last, x, rfl, before, after, end_, comma, listed⟩ := spells
  have whole : opening :: (v ++ (body ++ (w ++ (last ++ (x ++ [closing]))))) ++ rest =
      opening :: (v ++ (body ++ (w ++ (last ++ (x ++ closing :: rest))))) := by simp
  rw [whole]
  rcases listed with ⟨rfl, rfl⟩ | listed
  · have all : Layout (v ++ w) := fun c member =>
      (List.mem_append.mp member).elim (before c) (after c)
    rw [List.nil_append, ← List.append_assoc v]
    exact enclosed_nil closes misses all end_ comma rest
  · exact enclosed_listed complete closes misses listed before after end_ comma rest

theorem entry_complete {item : Reader Literal} {Spells : Literal → List Char → Prop}
    (complete : Complete item Spells) : Complete (entry item) (Paired Spells) where
  reads := by
    rintro e t rest ⟨key, v, w, value, rfl, keySpelled, valueSpelled, before, after⟩ stops
    have whole : key ++ (v ++ ':' :: (w ++ value)) ++ rest =
        key ++ (v ++ ':' :: (w ++ (value ++ rest))) := by simp
    have colon : Binary64.StopsNumeral (':' :: (w ++ (value ++ rest))) := by
      intro c first
      cases first
      decide
    have stopsColon : StopsLayout (':' :: (w ++ (value ++ rest))) := by
      intro c first
      cases first
      rfl
    have valueRead : commit (within "dict value" item) (value ++ rest) = .ok e.2 rest := by
      rw [commit_ok, within_ok]
      exact complete.reads _ _ _ valueSpelled stops
    rw [whole]
    unfold entry
    exact bind_ok.mpr ⟨_, _, complete.reads _ _ _ keySpelled (stopsNumeral_layout before colon),
      bind_ok.mpr ⟨(), _, layout_append before stopsColon, bind_ok.mpr ⟨(), _, char_ok.mpr rfl,
        bind_ok.mpr ⟨(), _, layout_append after (complete.stopsLayout valueSpelled rest),
          bind_ok.mpr ⟨_, _, valueRead, rfl⟩⟩⟩⟩⟩
  starts := by
    rintro e t ⟨key, v, w, value, rfl, keySpelled, -⟩
    obtain ⟨c, r, rfl, stop⟩ := complete.starts _ _ keySpelled
    exact ⟨c, _, rfl, stop⟩

theorem closing_of_mem {c : Char} (member : c ∈ closings) : Closing c := by
  simp only [closings, List.mem_cons, List.not_mem_nil, or_false] at member
  rcases member with rfl | rfl | rfl <;>
    exact ⟨by decide, by decide, fun rest d first => by cases first; decide⟩

/-- No literal starts with the mark that closes a list, or with the comma that may stand before it. -/
theorem nested_closing (depth : Nat) {closing : Char} (member : closing ∈ closings) (c : Char)
    (rest : List Char) (closes : c = closing ∨ c = ',') : Misses (nested depth) (c :: rest) := by
  refine nested_misses depth fun d first => ?_
  cases first
  simp only [closings, List.mem_cons, List.not_mem_nil, or_false] at member
  rcases closes with rfl | rfl
  · rcases member with rfl | rfl | rfl <;> decide
  · decide

theorem entry_closing (depth : Nat) {closing : Char} (member : closing ∈ closings) (c : Char)
    (rest : List Char) (closes : c = closing ∨ c = ',') : Misses (entry (nested depth)) (c :: rest) :=
  bind_misses _ (nested_closing depth member c rest closes)

theorem not_lower {c d e : Char} (lower : c.toLower = d) (other : e.toLower ≠ d) : c ≠ e := by
  rintro rfl
  exact other lower

/-- A number starts with nothing that another literal starts with. Only the second letter tells
`nan` from the words for the empty value. -/
theorem number_apart {x : Binary64} {t : List Char} (text : NumberText x t) (rest : List Char) :
    NoWord (t ++ rest) ∧ ∀ c ∈ ['\x27', '"', '[', '(', '\x7b'], (t ++ rest).head? ≠ some c := by
  have apart {c : Char} {u : List Char}
      (other : ∀ d ∈ ['N', 'n', 'T', 't', 'F', 'f', '\x27', '"', '[', '(', '\x7b'], c ≠ d) :
      NoWord (c :: u) ∧ ∀ d ∈ ['\x27', '"', '[', '(', '\x7b'], (c :: u).head? ≠ some d := by
    refine ⟨noWord_of_head fun d member => ?_, fun d member => ?_⟩
    · rw [List.head?_cons, Ne, Option.some.injEq]
      exact other d (List.mem_append_left _ member)
    · rw [List.head?_cons, Ne, Option.some.injEq]
      exact other d (List.mem_append_right ['N', 'n', 'T', 't', 'F', 'f'] member)
  rcases text with numeral | ⟨lower, -⟩ | ⟨lower, -⟩
  · cases t with
    | nil => cases numeral
    | cons c t =>
      refine apart fun d member same => ?_
      subst same
      have none : Binary64.scan (c :: t) = .none := scan_none fun e first => by
        cases first
        simp only [List.mem_cons, List.not_mem_nil, or_false] at member
        rcases member with rfl | rfl | rfl | rfl | rfl | rfl | rfl | rfl | rfl | rfl | rfl <;>
          decide
      rw [none] at numeral
      cases numeral
  · obtain ⟨c, d, e, rfl⟩ := exists_letters lower rfl
    obtain ⟨first, lower⟩ := List.cons.inj lower
    have second : d.toLower = 'a' := (List.cons.inj lower).1
    have never (w : List Char) (c' d' : Char) (other : d'.toLower ≠ 'a') :
        (c' :: d' :: w).isPrefixOf ([c, d, e] ++ rest) = false := by
      have differs : (d' == d) = false := beq_false_of_ne (not_lower second other).symm
      simp [List.isPrefixOf, differs]
    refine ⟨fun w member => ?_, fun a member => ?_⟩
    · simp only [List.mem_cons, List.not_mem_nil, or_false] at member
      rcases member with rfl | rfl | rfl | rfl | rfl | rfl
      · exact never _ _ _ (by decide)
      · exact never _ _ _ (by decide)
      · exact never _ _ _ (by decide)
      · exact never _ _ _ (by decide)
      · exact isPrefixOf_of_head (by simpa using not_lower first (by decide))
      · exact isPrefixOf_of_head (by simpa using not_lower first (by decide))
    · simp only [List.mem_cons, List.not_mem_nil, or_false] at member
      rcases member with rfl | rfl | rfl | rfl | rfl <;>
        simpa using not_lower first (by decide)
  · obtain ⟨c, d, e, rfl⟩ := exists_letters lower rfl
    have first : c.toLower = 'i' := (List.cons.inj lower).1
    refine apart fun a member => ?_
    simp only [List.mem_cons, List.not_mem_nil, or_false] at member
    rcases member with rfl | rfl | rfl | rfl | rfl | rfl | rfl | rfl | rfl | rfl | rfl <;>
      exact not_lower first (by decide)

theorem Enclosed.head {items : List α} {t : List Char}
    (spells : Enclosed opening closing Spells items t) : ∃ u, t = opening :: u := by
  obtain ⟨v, body, w, last, x, rfl, -⟩ := spells
  exact ⟨_, rfl⟩

theorem Between.head {mark : Char} {text : String} {t : List Char}
    (spells : Between mark text t) : ∃ u, t = mark :: u := ⟨_, spells.2⟩

theorem noWord_mark {c : Char} (mark : c ∈ ['\x27', '"', '[', '(', '\x7b']) (s : List Char) :
    NoWord (c :: s) := by
  refine noWord_of_head fun d letter same => ?_
  cases same
  simp only [List.mem_cons, List.not_mem_nil, or_false] at mark letter
  rcases mark with rfl | rfl | rfl | rfl | rfl <;> revert letter <;> decide

/-- The first character of a literal is no layout. -/
theorem spelled_starts {depth : Nat} {l : Literal} {t : List Char} (spells : Spelled depth l t) :
    ∃ c r, t = c :: r ∧ Text.isLayout c = false := by
  cases depth with
  | zero => exact spells.elim
  | succ depth =>
    cases l with
    | none => rcases spells with rfl | rfl <;> exact ⟨_, _, rfl, rfl⟩
    | bool b =>
      cases b with
      | true => rcases spells with rfl | rfl <;> exact ⟨_, _, rfl, rfl⟩
      | false => rcases spells with rfl | rfl <;> exact ⟨_, _, rfl, rfl⟩
    | number x =>
      obtain ⟨c, r, rfl, starts⟩ := NumberText.head spells
      exact ⟨c, r, rfl, startsLiteral_not_layout (by simp [startsLiteral, starts])⟩
    | text s =>
      rcases spells with spells | spells <;> obtain ⟨u, rfl⟩ := spells.head <;>
        exact ⟨_, _, rfl, rfl⟩
    | list items =>
      rcases spells with spells | spells <;> obtain ⟨u, rfl⟩ := spells.head <;>
        exact ⟨_, _, rfl, rfl⟩
    | dict entries =>
      obtain ⟨u, rfl⟩ := Enclosed.head spells
      exact ⟨_, _, rfl, rfl⟩

theorem quoted_of {s : String} {t rest : List Char}
    (spells : Between '\x27' s t ∨ Between '"' s t) : quoted (t ++ rest) = .ok s rest := by
  rcases spells with spells | spells
  · exact firstOf_of_misses [] (by simp) (between_of spells)
  · refine firstOf_of_misses [between '\x27'] (fun q member => ?_) (between_of spells)
    obtain ⟨u, rfl⟩ := spells.head
    rw [List.mem_singleton.mp member]
    exact between_misses (by simp)

/-- What starts with a brace is a mapping, or nothing. -/
theorem nested_eq_dict (depth : Nat) (s : List Char)
    (fits : ¬Misses (enclosed '\x7b' '\x7d' "closing brace"
      (separated Reading.comma (entry (nested depth)))) ('\x7b' :: s)) :
    nested (depth + 1) ('\x7b' :: s) = (dict <$> enclosed '\x7b' '\x7d' "closing brace"
      (separated Reading.comma (entry (nested depth)))) ('\x7b' :: s) := by
  refine nested_eq_marked [text <$> quoted,
    list <$> enclosed '[' ']' "closing bracket" (separated Reading.comma (nested depth)),
    list <$> enclosed '(' ')' "closing parenthesis" (separated Reading.comma (nested depth))]
    (noWord_mark (by decide) _) rfl (fun q member => ?_) fun misses => fits ?_
  · simp only [List.mem_cons, List.not_mem_nil, or_false] at member
    rcases member with rfl | rfl | rfl
    · exact quoted_misses (by simp) (by simp)
    · exact map_misses _ (enclosed_misses (by simp))
    · exact map_misses _ (enclosed_misses (by simp))
  · exact misses_of_map misses

/-- A literal is read from every text that spells it. -/
theorem nested_complete (depth : Nat) : Complete (nested depth) (Spelled depth) := by
  induction depth with
  | zero => exact ⟨fun _ _ _ spells => spells.elim, fun _ _ spells => spells.elim⟩
  | succ depth ih =>
    refine ⟨fun l t rest spells stops => ?_, fun l t spells => spelled_starts spells⟩
    cases l with
    | none => exact nested_of_word [] rfl (by simp) (spelled_of spells rfl)
    | bool b =>
      cases b with
      | true =>
        refine nested_of_word [spelled "None" "null" none] rfl (fun q member => ?_)
          (spelled_of spells rfl)
        rw [List.mem_singleton.mp member]
        rcases spells with rfl | rfl <;> exact spelled_misses rfl rfl
      | false =>
        refine nested_of_word
          [spelled "None" "null" none, spelled "True" "true" (bool true)] rfl
          (fun q member => ?_) (spelled_of spells rfl)
        simp only [List.mem_cons, List.not_mem_nil, or_false] at member
        rcases member with rfl | rfl <;> rcases spells with rfl | rfl <;>
          exact spelled_misses rfl rfl
    | number x =>
      obtain ⟨noWord, other⟩ := number_apart spells rest
      exact nested_of_number noWord other (number_append spells stops)
    | text s =>
      have noWord : NoWord (t ++ rest) := by
        rcases spells with spells | spells <;> obtain ⟨u, rfl⟩ := spells.head <;>
          exact noWord_mark (by decide) _
      exact nested_of_marked [] noWord rfl (by simp)
        (map_ok.mpr ⟨s, quoted_of spells, rfl⟩)
    | list items =>
      rcases spells with spells | spells
      · have read : enclosed '[' ']' "closing bracket" (separated Reading.comma (nested depth))
            (t ++ rest) = .ok items rest :=
          enclosed_of ih (closing_of_mem (by decide)) (nested_closing depth (by decide)) spells rest
        obtain ⟨u, rfl⟩ := spells.head
        refine nested_of_marked [text <$> quoted] (noWord_mark (by decide) _) rfl
          (fun q member => ?_) (map_ok.mpr ⟨items, read, rfl⟩)
        rw [List.mem_singleton.mp member]
        exact quoted_misses (by simp) (by simp)
      · have read : enclosed '(' ')' "closing parenthesis" (separated Reading.comma (nested depth))
            (t ++ rest) = .ok items rest :=
          enclosed_of ih (closing_of_mem (by decide)) (nested_closing depth (by decide)) spells rest
        obtain ⟨u, rfl⟩ := spells.head
        refine nested_of_marked [text <$> quoted, list <$> enclosed '[' ']' "closing bracket"
          (separated Reading.comma (nested depth))]
          (noWord_mark (by decide) _) rfl (fun q member => ?_) (map_ok.mpr ⟨items, read, rfl⟩)
        simp only [List.mem_cons, List.not_mem_nil, or_false] at member
        rcases member with rfl | rfl
        · exact quoted_misses (by simp) (by simp)
        · exact map_misses _ (enclosed_misses (by simp))
    | dict entries =>
      have read : enclosed '\x7b' '\x7d' "closing brace" (separated Reading.comma
          (entry (nested depth))) (t ++ rest) = .ok entries rest :=
        enclosed_of (entry_complete ih) (closing_of_mem (by decide)) (entry_closing depth (by decide))
          spells rest
      obtain ⟨u, rfl⟩ := Enclosed.head spells
      exact (nested_eq_dict depth _ (not_misses_of_ok read)).trans
        (map_ok.mpr ⟨entries, read, rfl⟩)

end Completeness

end HazardJob.Literal
