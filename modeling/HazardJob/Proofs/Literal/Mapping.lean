import HazardJob.Proofs.Basic
import HazardJob.Proofs.Literal.Grammar
import HazardJob.Proofs.Reading.Written
import HazardJob.Proofs.Text

/-! Whole texts as literals, and mappings with quoted keys as values of parameters write them. Such a
mapping is read back entry by entry unless a key holds the quotation mark; a value that no literal
spells ends the reading. -/
namespace HazardJob.Literal

open Reading

section Document

/-- More levels of nesting spell no less. -/
theorem Spelled.succ {depth : Nat} {l : Literal} {t : List Char} (spells : Spelled depth l t) :
    Spelled (depth + 1) l t := by
  have enclosed {α : Type} {opening closing : Char} {P Q : α → List Char → Prop}
      (grows : ∀ a t, P a t → Q a t) {items : List α} {t : List Char}
      (inside : Enclosed opening closing P items t) : Enclosed opening closing Q items t := by
    obtain ⟨v, body, w, last, x, same, before, after, end_, comma, listed⟩ := inside
    refine ⟨v, body, w, last, x, same, before, after, end_, comma, ?_⟩
    exact listed.imp id fun listed => listed.mono grows
  induction depth generalizing l t with
  | zero => exact spells.elim
  | succ depth ih =>
    cases l with
    | none => exact spells
    | bool b => cases b <;> exact spells
    | number x => exact spells
    | text s => exact spells
    | list items =>
      have grows : ∀ l t, Spelled depth l t → Spelled (depth + 1) l t := fun _ _ spells => ih spells
      exact Or.imp (enclosed grows) (enclosed grows) spells
    | dict entries =>
      refine enclosed (fun e t paired => ?_) spells
      obtain ⟨key, v, w, value, same, keySpelled, valueSpelled, blanks⟩ := paired
      exact ⟨key, v, w, value, same, ih keySpelled, ih valueSpelled, blanks⟩

theorem Spelled.mono {depth more : Nat} (le : depth ≤ more) {l : Literal} {t : List Char}
    (spells : Spelled depth l t) : Spelled more l t := by
  induction le with
  | refl => exact spells
  | step _ ih => exact ih.succ

/-- A text that spells a literal with layout around it is read as the literal. -/
theorem ofText_of_layout {depth : Nat} {l : Literal} {text : String} {v t w : List Char}
    (split : text.toList = v ++ (t ++ w)) (before : Layout v) (spells : Spelled depth l t)
    (after : Layout w) (enough : depth ≤ text.toList.length + 1) : ofText text = .ok l := by
  have complete := nested_complete (text.toList.length + 1)
  have spells := spells.mono enough
  have stops : StopsLayout (t ++ w) := complete.stopsLayout spells w
  have numeral : Binary64.StopsNumeral w := by
    rw [← List.append_nil w]
    exact stopsNumeral_layout after .nil
  have read := complete.reads l t w spells numeral
  have ends : layout w = .ok () [] := by
    rw [← List.append_nil w]
    exact layout_append after (fun c first => by cases first)
  have whole : document text.toList = .ok l [] := by
    refine bind_ok.mpr ⟨(), t ++ w, ?_, bind_ok.mpr ⟨l, w, read, bind_ok.mpr ⟨(), [], ends, rfl⟩⟩⟩
    rw [split]
    exact layout_append before stops
  simp only [ofText, Literal.read, readAll, whole, Except.mapError]

/-- A text that spells a literal is read as it. -/
theorem ofText_of_spelled {depth : Nat} {l : Literal} {text : String}
    (spells : Spelled depth l text.toList) (enough : depth ≤ text.toList.length + 1) :
    ofText text = .ok l :=
  ofText_of_layout (v := []) (w := []) (by simp) (by simp [Layout]) spells (by simp [Layout]) enough

/-- What is read from a text is spelled in it. -/
theorem spelled_of_ofText {text : String} {l : Literal} (read : ofText text = .ok l) :
    ∃ depth v t w, text.toList = v ++ (t ++ w) ∧ Layout v ∧ Layout w ∧ Spelled depth l t := by
  have whole : document text.toList = .ok l [] := by
    rw [ofText, mapError_eq_ok] at read
    simp only [Literal.read, readAll] at read
    split at read
    · rename_i found
      cases read
      exact found
    · cases read
    · cases read
    · cases read
  obtain ⟨_, s₁, before, inner⟩ := bind_ok.mp whole
  obtain ⟨_, s₂, found, inner⟩ := bind_ok.mp inner
  obtain ⟨_, s₃, after, same⟩ := bind_ok.mp inner
  cases same
  obtain ⟨v, split, blank, -⟩ := layout_ok before
  obtain ⟨t, rfl, spells⟩ := nested_sound _ _ _ _ found
  obtain ⟨w, rfl, blank', -⟩ := layout_ok after
  rw [List.append_nil] at split
  exact ⟨_, v, t, w, split, blank, blank', spells⟩

/-- A text is not read if its first literal halts. -/
theorem ofText_of_halt {text : String} {trace : Trace} (stops : StopsLayout text.toList)
    (halts : nested (text.toList.length + 1) text.toList = .halt trace) (l : Literal) :
    ofText text ≠ .ok l := by
  have whole : document text.toList = .halt trace := by
    unfold document
    rw [bind_of_ok (layout_nothing stops), bind_of_halt _ halts]
  simp only [ofText, Literal.read, readAll, whole, Except.mapError]
  exact fun same => by cases same

end Document

section Mapping

variable {β : Type}

/-- The text of an entry with a quoted key. -/
def entryText (key value : β → List Char) (e : β) : List Char :=
  '"' :: (key e ++ '"' :: ':' :: ' ' :: value e)

/-- The text of a mapping from quoted keys. -/
def mappingText (key value : β → List Char) (es : List β) : List Char :=
  '\x7b' :: ([',', ' '].intercalate (es.map (entryText key value)) ++ ['\x7d'])

theorem toList_mapping (key value : β → String) (es : List β) :
    ("\x7b" ++ Text.join ", " (es.map fun e => "\"" ++ key e ++ "\": " ++ value e) ++
      "\x7d").toList = mappingText (fun e => (key e).toList) (fun e => (value e).toList) es := by
  have entry : (String.toList ∘ fun e => "\"" ++ key e ++ "\": " ++ value e) =
      entryText (fun e => (key e).toList) (fun e => (value e).toList) := by
    funext e
    simp [entryText]
  rw [String.toList_append, String.toList_append, Text.toList_join, List.map_map, entry]
  rfl

theorem layout_space : Layout [' '] := by
  intro c member
  rw [List.mem_singleton.mp member]
  rfl

/-- Items with a comma and a space between neighbours. -/
theorem listed_map {α : Type} {Spells : α → List Char → Prop} {f : β → α} {g : β → List Char}
    {es : List β} (spells : ∀ e ∈ es, Spells (f e) (g e)) (some : es ≠ []) :
    Listed Spells (es.map f) ([',', ' '].intercalate (es.map g)) := by
  induction es with
  | nil => exact absurd rfl some
  | cons e more ih =>
    have first := spells e List.mem_cons_self
    cases more with
    | nil =>
      rw [List.map_singleton, List.map_singleton, List.intercalate_singleton]
      exact .one first
    | cons e' more =>
      have others := ih (fun e member => spells e (List.mem_cons_of_mem _ member)) (by simp)
      rw [List.map_cons, List.map_cons (f := g), List.intercalate_cons_of_ne_nil (by simp)]
      simpa using Listed.more (v := []) first (by simp [Layout]) layout_space others

theorem enclosed_map {α : Type} {Spells : α → List Char → Prop} {opening closing : Char}
    {f : β → α} {g : β → List Char} {es : List β} (spells : ∀ e ∈ es, Spells (f e) (g e)) :
    Enclosed opening closing Spells (es.map f)
      (opening :: ([',', ' '].intercalate (es.map g) ++ [closing])) := by
  refine ⟨[], _, [], [], [], rfl, by simp [Layout], by simp [Layout], by simp [Layout], .inl rfl, ?_⟩
  rcases List.eq_nil_or_concat es with rfl | ⟨_, _, rfl⟩
  · exact .inl ⟨rfl, rfl⟩
  · exact .inr (listed_map spells (by simp))

theorem paired_quoted {depth : Nat} {key : String} (plain : '"' ∉ key.toList) {value : Literal}
    {t : List Char} (spells : Spelled (depth + 1) value t) :
    Paired (Spelled (depth + 1)) (text key, value)
      ('"' :: (key.toList ++ '"' :: ':' :: ' ' :: t)) :=
  ⟨'"' :: (key.toList ++ ['"']), [], [' '], t, by simp, .inr ⟨plain, rfl⟩, spells,
    by simp [Layout], layout_space⟩

/-- A mapping from keys without the quotation mark spells its entries. -/
theorem spelled_mapping {depth : Nat} {key : β → String} {literal : β → Literal}
    {value : β → List Char} {es : List β}
    (proper : ∀ e ∈ es, '"' ∉ (key e).toList ∧ Spelled (depth + 1) (literal e) (value e)) :
    Spelled (depth + 2) (dict (es.map fun e => (text (key e), literal e)))
      (mappingText (fun e => (key e).toList) value es) :=
  enclosed_map fun e member => paired_quoted (proper e member).1 (proper e member).2

theorem length_mappingText (key value : β → List Char) (es : List β) :
    2 ≤ (mappingText key value es).length := by
  simp only [mappingText, List.length_cons, List.length_append, List.length_nil]
  omega

/-- Reading what a mapping is written as. -/
theorem ofText_mapping (depth : Nat) (shallow : depth ≤ 1) {key : β → String}
    {literal : β → Literal} {value : β → List Char} {es : List β} {s : String}
    (written : s.toList = mappingText (fun e => (key e).toList) value es)
    (proper : ∀ e ∈ es, '"' ∉ (key e).toList ∧ Spelled (depth + 1) (literal e) (value e)) :
    ofText s = .ok (dict (es.map fun e => (text (key e), literal e))) := by
  have spells := spelled_mapping proper
  have long := length_mappingText (fun e => (key e).toList) value es
  rw [← written] at spells long
  exact ofText_of_spelled spells (by omega)

/-- An entry halts at its value. -/
theorem entry_halts {item : Reader Literal} {Spells : Literal → List Char → Prop}
    (complete : Complete item Spells) {key : Literal} {k s : List Char} (spells : Spells key k)
    (stops : StopsLayout s) (misses : Misses item s) :
    ∃ trace, entry item (k ++ ':' :: ' ' :: s) = .halt trace := by
  have colon : Binary64.StopsNumeral (':' :: ' ' :: s) := by
    intro c first
    cases first
    decide
  have stopsColon : StopsLayout (':' :: ' ' :: s) := by
    intro c first
    cases first
    rfl
  obtain ⟨trace, miss⟩ := misses
  have halts : commit (within "dict value" item) s =
      .halt (trace ++ [⟨s, .part "dict value"⟩]) := by
    rw [commit, within, miss]
    rfl
  have blank : layout (' ' :: s) = .ok () s := layout_append layout_space stops
  refine ⟨trace ++ [⟨s, .part "dict value"⟩], ?_⟩
  unfold entry
  rw [bind_of_ok (complete.reads _ _ _ spells colon),
    bind_of_ok (layout_nothing stopsColon), bind_of_ok (char_ok.mpr rfl),
    bind_of_ok blank, bind_of_halt _ halts]

theorem enclosed_halts {α : Type} {opening closing : Char} {part : String} {content : Reader α}
    {s : List Char} {trace : Trace} (stops : StopsLayout s) (halts : content s = .halt trace) :
    enclosed opening closing part content (opening :: s) = .halt trace := by
  unfold enclosed
  rw [bind_of_ok (char_ok.mpr rfl), bind_of_ok (layout_nothing stops), bind_of_halt _ halts]

/-- A value that no literal spells, between a key and the rest of a mapping. -/
def Unreadable (t : List Char) : Prop :=
  ∀ depth rest, Misses (nested depth) (t ++ rest) ∧ StopsLayout (t ++ rest)

/-- An entry whose value is not read halts, whatever comes after it. -/
theorem entryText_halts {key : β → String} {value : β → List Char} {e : β} (depth : Nat)
    (plain : '"' ∉ (key e).toList) (unreadable : Unreadable (value e)) (rest : List Char) :
    ∃ trace, entry (nested (depth + 1))
      (entryText (fun e => (key e).toList) value e ++ rest) = .halt trace := by
  obtain ⟨misses, stops⟩ := unreadable (depth + 1) rest
  have keySpelled : Spelled (depth + 1) (text (key e)) ('"' :: ((key e).toList ++ ['"'])) :=
    .inr ⟨plain, rfl⟩
  obtain ⟨trace, halts⟩ := entry_halts (nested_complete (depth + 1)) keySpelled stops misses
  refine ⟨trace, ?_⟩
  rw [← halts]
  simp [entryText]

/-- The entries before one whose value is not read are read; they make the list go on up to it. -/
theorem entries_halt (depth : Nat) {key : β → String} (literal : β → Literal)
    {value : β → List Char} {before : List β} (after : List β) {e : β}
    (proper : ∀ e ∈ before, '"' ∉ (key e).toList ∧ Spelled (depth + 1) (literal e) (value e))
    (plain : '"' ∉ (key e).toList) (unreadable : Unreadable (value e)) {s : List Char}
    (written : s = [',', ' '].intercalate ((before ++ e :: after).map
      (entryText (fun e => (key e).toList) value)) ++ ['\x7d']) :
    (∃ trace, separated comma (entry (nested (depth + 1))) s = .halt trace) ∧ StopsLayout s := by
  let text' := entryText (fun e => (key e).toList) value
  have complete := entry_complete (nested_complete (depth + 1))
  obtain ⟨tail, split⟩ := Text.intercalate_cons [',', ' '] (text' e) (after.map text')
  obtain ⟨trace, here⟩ := entryText_halts depth plain unreadable (tail ++ ['\x7d'])
  have starts : StopsLayout (text' e ++ (tail ++ ['\x7d'])) := by
    intro c first
    cases first
    rfl
  rcases eq_or_ne before [] with rfl | some
  · rw [written, List.nil_append, List.map_cons, split, List.append_assoc]
    exact ⟨⟨trace, separated_halts_first here⟩, starts⟩
  · have listed : Listed (Paired (Spelled (depth + 1))) (before.map fun e => (text (key e), literal e))
        ([',', ' '].intercalate (before.map text')) :=
      listed_map (fun e member => paired_quoted (proper e member).1 (proper e member).2) some
    have whole : s = [',', ' '].intercalate (before.map text') ++
        ([] ++ ',' :: ([' '] ++ (text' e ++ (tail ++ ['\x7d'])))) := by
      rw [written, List.map_append, Text.intercalate_append _ (by simpa using some) (by simp),
        List.map_cons, split]
      simp [text']
    rw [whole]
    exact ⟨⟨trace, separated_halts complete listed (by simp [Layout]) layout_space starts here⟩,
      listed.stopsLayout complete _⟩

/-- A mapping is not read if one of its values is not. -/
theorem ofText_unreadable (depth : Nat) (shallow : depth ≤ 1) {key : β → String}
    (literal : β → Literal) {value : β → List Char} {before after : List β} {e : β} {s : String}
    (written : s.toList = mappingText (fun e => (key e).toList) value (before ++ e :: after))
    (proper : ∀ e ∈ before, '"' ∉ (key e).toList ∧ Spelled (depth + 1) (literal e) (value e))
    (plain : '"' ∉ (key e).toList) (unreadable : Unreadable (value e)) (l : Literal) :
    ofText s ≠ .ok l := by
  obtain ⟨bound, enough⟩ : ∃ bound, s.toList.length = bound + 2 := Nat.exists_eq_add_of_le'
    (by rw [written]; exact length_mappingText _ _ _)
  have deeper : ∀ e ∈ before, '"' ∉ (key e).toList ∧ Spelled (bound + 2) (literal e) (value e) :=
    fun e member => ⟨(proper e member).1, (proper e member).2.mono (by omega)⟩
  obtain ⟨⟨trace, halts⟩, stops⟩ :=
    entries_halt (bound + 1) literal after deeper plain unreadable rfl
  have enclosed : enclosed '\x7b' '\x7d' "closing brace" (separated comma
      (entry (nested (bound + 2)))) _ = .halt trace := enclosed_halts stops halts
  refine ofText_of_halt ?_ (?_ : _ = Outcome.halt trace) l
  · rw [written]
    intro c first
    cases first
    rfl
  · rw [enough, written]
    exact (nested_eq_dict (bound + 2) _ (not_misses_of_halt enclosed)).trans
      (map_of_halt _ enclosed)

/-- Minus infinity is written in a way that no literal is. -/
theorem unreadable_minusInfinity : Unreadable (Binary64.infinity true).text.toList := by
  intro depth rest
  have missed := number_minusInfinity rest
  have written : (Binary64.infinity true).text.toList = ['-', 'i', 'n', 'f'] := rfl
  rw [written] at missed ⊢
  refine ⟨?_, fun c first => by cases first; rfl⟩
  cases depth with
  | zero => exact ⟨_, rfl⟩
  | succ depth =>
    have noWord : NoWord (['-', 'i', 'n', 'f'] ++ rest) := noWord_of_head (by simp)
    refine firstOf_misses ([spelled "None" "null" none, spelled "True" "true" (bool true),
      spelled "False" "false" (bool false)] ++ (markedReaders depth ++ [number <$> Reading.number]))
      fun r member => ?_
    rcases List.mem_append.mp member with word | member
    · exact words_miss noWord r word
    rcases List.mem_append.mp member with marked | number
    · exact marked_miss depth (by simp) r marked
    · rw [List.mem_singleton.mp number]
      exact map_misses _ missed

end Mapping

end HazardJob.Literal
