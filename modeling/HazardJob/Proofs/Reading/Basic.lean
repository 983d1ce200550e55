import HazardJob.Proofs.Binary64.Numeral
import HazardJob.Reading.Token

/-! What the readers of tokens and lists take from a text, and that they take it in front of any
text that does not extend it. -/
namespace HazardJob.Reading

variable {α β : Type}

/-- A reader does not fit. -/
def Misses (reader : Reader α) (s : List Char) : Prop := ∃ trace, reader s = .miss trace

section Combinators

theorem bind_apply (reader : Reader α) (next : α → Reader β) (s : List Char) :
    (reader >>= next) s = (reader s).bind fun value rest => next value rest := rfl

theorem bind_of_ok {reader : Reader α} {next : α → Reader β} {s left : List Char} {first : α}
    (read : reader s = .ok first left) : (reader >>= next) s = next first left := by
  rw [bind_apply, read]
  rfl

theorem bind_of_halt {reader : Reader α} (next : α → Reader β) {s : List Char} {trace : Trace}
    (read : reader s = .halt trace) : (reader >>= next) s = .halt trace := by
  rw [bind_apply, read]
  rfl

theorem bind_ok {reader : Reader α} {next : α → Reader β} {s rest : List Char} {value : β} :
    (reader >>= next) s = .ok value rest ↔
      ∃ first left, reader s = .ok first left ∧ next first left = .ok value rest := by
  rw [bind_apply]
  cases reader s with
  | ok first left =>
    simp only [Outcome.bind, Outcome.ok.injEq]
    exact ⟨fun read => ⟨first, left, ⟨rfl, rfl⟩, read⟩,
      fun ⟨_, _, ⟨same, same'⟩, read⟩ => by rw [same, same']; exact read⟩
  | miss trace => simp [Outcome.bind]
  | halt trace => simp [Outcome.bind]

theorem bind_misses {reader : Reader α} (next : α → Reader β) {s : List Char}
    (misses : Misses reader s) : Misses (reader >>= next) s := by
  obtain ⟨trace, missed⟩ := misses
  exact ⟨trace, by rw [bind_apply, missed]; rfl⟩

theorem map_apply (f : α → β) (reader : Reader α) (s : List Char) :
    (f <$> reader) s = (reader s).bind fun value rest => .ok (f value) rest := rfl

theorem map_ok {f : α → β} {reader : Reader α} {s rest : List Char} {value : β} :
    (f <$> reader) s = .ok value rest ↔ ∃ first, reader s = .ok first rest ∧ f first = value := by
  rw [map_apply]
  cases reader s with
  | ok first left =>
    simp only [Outcome.bind, Outcome.ok.injEq]
    exact ⟨fun ⟨same, same'⟩ => ⟨first, ⟨rfl, same'⟩, same⟩,
      fun ⟨_, ⟨same, same'⟩, mapped⟩ => ⟨by rw [same]; exact mapped, same'⟩⟩
  | miss trace => simp [Outcome.bind]
  | halt trace => simp [Outcome.bind]

theorem map_misses (f : α → β) {reader : Reader α} {s : List Char} (misses : Misses reader s) :
    Misses (f <$> reader) s := bind_misses _ misses

theorem map_of_halt (f : α → β) {reader : Reader α} {s : List Char} {trace : Trace}
    (read : reader s = .halt trace) : (f <$> reader) s = .halt trace := by
  rw [map_apply, read]
  rfl

theorem misses_of_map {f : α → β} {reader : Reader α} {s : List Char}
    (misses : Misses (f <$> reader) s) : Misses reader s := by
  obtain ⟨trace, missed⟩ := misses
  rw [map_apply] at missed
  cases read : reader s with
  | ok value rest => rw [read] at missed; cases missed
  | miss trace => exact ⟨trace, read⟩
  | halt trace => rw [read] at missed; cases missed

theorem char_ok {c : Char} {s rest : List Char} : char c s = .ok () rest ↔ s = c :: rest := by
  cases s with
  | nil => simp [char, missed]
  | cons d s =>
    by_cases same : d = c
    · simp [char, same]
    · simp [char, same, missed]

theorem char_misses {c : Char} {s : List Char} (other : s.head? ≠ some c) : Misses (char c) s := by
  cases s with
  | nil => exact ⟨_, rfl⟩
  | cons d s =>
    have apart : d ≠ c := by simpa using other
    exact ⟨_, if_neg apart⟩

theorem word_ok {text s rest : List Char} : word text s = .ok () rest ↔ s = text ++ rest := by
  unfold word
  split
  · rename_i starts
    obtain ⟨tail, rfl⟩ := List.isPrefixOf_iff_prefix.mp starts
    simp
  · rename_i other
    constructor
    · intro read
      cases read
    · rintro rfl
      exact absurd (List.isPrefixOf_iff_prefix.mpr (List.prefix_append _ _)) other

theorem word_misses {text s : List Char} (other : text.isPrefixOf s = false) :
    Misses (word text) s :=
  ⟨_, by simp only [word, other, Bool.false_eq_true, if_false]; rfl⟩

theorem commit_ok {reader : Reader α} {s rest : List Char} {value : α} :
    commit reader s = .ok value rest ↔ reader s = .ok value rest := by
  unfold commit
  cases reader s <;> simp

theorem within_ok {name : String} {reader : Reader α} {s rest : List Char} {value : α} :
    within name reader s = .ok value rest ↔ reader s = .ok value rest := by
  unfold within
  cases reader s <;> simp [Outcome.mapTrace]

theorem optional_ok {reader : Reader α} {s rest : List Char} {value : Option α} :
    optional reader s = .ok value rest ↔
      (∃ a, value = some a ∧ reader s = .ok a rest) ∨
        value = none ∧ rest = s ∧ Misses reader s := by
  unfold optional Misses
  cases reader s with
  | ok a left =>
    simp only [Outcome.ok.injEq, reduceCtorEq, exists_false, and_false, or_false]
    constructor
    · rintro ⟨rfl, rfl⟩
      exact ⟨a, rfl, rfl, rfl⟩
    · rintro ⟨b, rfl, rfl, rfl⟩
      exact ⟨rfl, rfl⟩
  | miss trace => simp [eq_comm]
  | halt trace => simp

theorem readAll_ok {reader : Reader α} {s : List Char} {value : α} :
    readAll reader s = .ok value ↔ reader s = .ok value [] := by
  unfold readAll
  split
  · rename_i found
    simp [found]
  · rename_i rest full found
    simp only [found, reduceCtorEq, Outcome.ok.injEq, false_iff, not_and]
    intro _
    exact full
  · rename_i found
    simp [found]
  · rename_i found
    simp [found]

theorem firstOf_ok {readers : List (Reader α)} {s rest : List Char} {value : α}
    (read : firstOf readers s = .ok value rest) : ∃ r ∈ readers, r s = .ok value rest := by
  unfold firstOf at read
  generalize ([] : Trace) = last at read
  induction readers generalizing last with
  | nil => cases read
  | cons r more ih =>
    rw [firstOf.go] at read
    split at read
    · obtain ⟨q, member, found⟩ := ih _ read
      exact ⟨q, List.mem_cons_of_mem _ member, found⟩
    · exact ⟨r, List.mem_cons_self, read⟩

/-- A reader is used if all before it miss and it does not. -/
theorem firstOf_eq (before : List (Reader α)) {after : List (Reader α)} {r : Reader α} {s : List Char}
    (missed : ∀ q ∈ before, Misses q s) (fits : ¬Misses r s) :
    firstOf (before ++ r :: after) s = r s := by
  unfold firstOf
  generalize ([] : Trace) = last
  induction before generalizing last with
  | nil =>
    rw [List.nil_append, firstOf.go]
    cases found : r s with
    | miss trace => exact absurd ⟨trace, found⟩ fits
    | ok value rest => rfl
    | halt trace => rfl
  | cons q more ih =>
    obtain ⟨trace, miss⟩ := missed q List.mem_cons_self
    rw [List.cons_append, firstOf.go, miss]
    exact ih (fun r member => missed r (List.mem_cons_of_mem _ member)) trace

theorem not_misses_of_ok {reader : Reader α} {s rest : List Char} {value : α}
    (read : reader s = .ok value rest) : ¬Misses reader s := by
  rintro ⟨trace, miss⟩
  rw [read] at miss
  cases miss

theorem not_misses_of_halt {reader : Reader α} {s : List Char} {trace : Trace}
    (read : reader s = .halt trace) : ¬Misses reader s := by
  rintro ⟨trace, miss⟩
  rw [read] at miss
  cases miss

theorem firstOf_of_misses (before : List (Reader α)) {after : List (Reader α)} {r : Reader α}
    {s rest : List Char} {value : α} (missed : ∀ q ∈ before, Misses q s) (read : r s = .ok value rest) :
    firstOf (before ++ r :: after) s = .ok value rest :=
  (firstOf_eq before missed (not_misses_of_ok read)).trans read

theorem firstOf_misses (readers : List (Reader α)) {s : List Char}
    (missed : ∀ r ∈ readers, Misses r s) : Misses (firstOf readers) s := by
  unfold Misses firstOf
  generalize ([] : Trace) = last
  induction readers generalizing last with
  | nil => exact ⟨_, rfl⟩
  | cons r more ih =>
    obtain ⟨trace, miss⟩ := missed r List.mem_cons_self
    rw [firstOf.go, miss]
    exact ih (fun r member => missed r (List.mem_cons_of_mem _ member)) trace

end Combinators

section Layout

/-- Spaces, tabs and line ends. -/
def Layout (s : List Char) : Prop := ∀ c ∈ s, Text.isLayout c = true

/-- A text that does not continue layout. -/
def StopsLayout (s : List Char) : Prop := ∀ c, s.head? = some c → Text.isLayout c = false

theorem layout_append {w rest : List Char} (blank : Layout w) (stops : StopsLayout rest) :
    layout (w ++ rest) = .ok () rest := by
  show Outcome.ok () ((w ++ rest).dropWhile Text.isLayout) = _
  rw [Text.dropWhile_append blank stops]

theorem layout_nothing {s : List Char} (stops : StopsLayout s) : layout s = .ok () s :=
  layout_append (w := []) (by simp [Layout]) stops

theorem layout_ok {s rest : List Char} (read : layout s = .ok () rest) :
    ∃ w, s = w ++ rest ∧ Layout w ∧ StopsLayout rest := by
  have gone : s.dropWhile Text.isLayout = rest := by
    simpa using show Outcome.ok () (s.dropWhile Text.isLayout) = .ok () rest from read
  refine ⟨s.takeWhile Text.isLayout, ?_, ?_, ?_⟩
  · rw [← gone, List.takeWhile_append_dropWhile]
  · intro c member
    exact List.all_eq_true.mp List.all_takeWhile c member
  · rw [← gone]
    exact fun c first => Text.head?_dropWhile first

theorem comma_append {v w rest : List Char} (before : Layout v) (after : Layout w)
    (stops : StopsLayout rest) : comma (v ++ ',' :: (w ++ rest)) = .ok () rest := by
  have stop : StopsLayout (',' :: (w ++ rest)) := by
    intro c first
    cases first
    rfl
  simp only [comma, bind_ok]
  exact ⟨(), _, layout_append before stop, (), _, char_ok.mpr rfl, layout_append after stops⟩

theorem comma_ok {s rest : List Char} (read : comma s = .ok () rest) :
    ∃ v w, s = v ++ ',' :: (w ++ rest) ∧ Layout v ∧ Layout w ∧ StopsLayout rest := by
  simp only [comma, bind_ok] at read
  obtain ⟨_, s₁, read₁, _, s₂, read₂, read₃⟩ := read
  obtain ⟨v, rfl, before, -⟩ := layout_ok read₁
  obtain rfl := char_ok.mp read₂
  obtain ⟨w, rfl, after, stops⟩ := layout_ok read₃
  exact ⟨v, w, rfl, before, after, stops⟩

theorem comma_misses {w rest : List Char} (blank : Layout w) (stops : StopsLayout rest)
    (other : rest.head? ≠ some ',') : Misses comma (w ++ rest) := by
  obtain ⟨trace, miss⟩ := char_misses other
  refine ⟨trace, ?_⟩
  simp only [comma, bind_apply, layout_append blank stops, Outcome.bind, miss]

end Layout

section Number

/-- A text that is read as a number. -/
def NumberText (x : Binary64) (t : List Char) : Prop :=
  Binary64.scan t = .number x [] ∨ t.map Char.toLower = ['n', 'a', 'n'] ∧ x = .nan ∨
    t.map Char.toLower = ['i', 'n', 'f'] ∧ x = .infinity false

/-- A character that a number may start with. -/
def startsNumber (c : Char) : Bool :=
  c.isDigit || c == '-' || c == '+' || c == '.' || c.toLower == 'n' || c.toLower == 'i'

theorem scan_none {s : List Char} (other : ∀ c, s.head? = some c → c.isDigit = false ∧
    c ≠ '-' ∧ c ≠ '+' ∧ c ≠ '.') : Binary64.scan s = .none := by
  cases s with
  | nil => rfl
  | cons c s =>
    obtain ⟨digit, minus, plus, point⟩ := other c rfl
    have unsigned : Binary64.signAt (c :: s) = (false, c :: s) :=
      Binary64.signAt_complete .none fun d first => Option.some.inj first ▸ ⟨minus, plus⟩
    have run : Binary64.digitRun (c :: s) = ([], c :: s) := by simp [Binary64.digitRun, digit]
    have mantissa : Binary64.mantissaAt? (c :: s) = .none := by
      simp [Binary64.mantissaAt?, run, point]
    simp only [Binary64.scan, unsigned, mantissa]

theorem toLower_of_isDigit {c : Char} (digit : c.isDigit = true) : c.toLower = c := by
  have bounds := Char.isDigit_iff_toNat.mp digit
  unfold Char.toLower
  rw [dif_neg]
  rintro ⟨low, -⟩
  have capital : 65 ≤ c.toNat := UInt32.le_iff_toNat_le.mp low
  have last : c.toNat ≤ 57 := bounds.2
  omega

theorem letter_of_toLower {c d : Char} (lower : c.toLower = d) (letter : d = 'n' ∨ d = 'i') :
    c.isDigit = false ∧ c ≠ '-' ∧ c ≠ '+' ∧ c ≠ '.' := by
  have other (e : Char) (fixed : e.toLower = e) (apart : e ≠ 'n' ∧ e ≠ 'i') : c ≠ e := by
    rintro rfl
    rw [fixed] at lower
    rcases letter with rfl | rfl
    · exact apart.1 lower
    · exact apart.2 lower
  refine ⟨Bool.eq_false_iff.mpr fun digit => ?_, other '-' (by decide) (by decide),
    other '+' (by decide) (by decide), other '.' (by decide) (by decide)⟩
  rw [toLower_of_isDigit digit] at lower
  subst lower
  rcases letter with rfl | rfl <;> cases digit

theorem exists_letters {t w : List Char} (lower : t.map Char.toLower = w) (size : w.length = 3) :
    ∃ c d e, t = [c, d, e] := by
  have length : t.length = 3 := by rw [← size, ← lower, List.length_map]
  match t, length with
  | [c, d, e], _ => exact ⟨c, d, e, rfl⟩

theorem number_append {x : Binary64} {t rest : List Char} (text : NumberText x t)
    (stops : Binary64.StopsNumeral rest) : number (t ++ rest) = .ok x rest := by
  have word {c d e : Char} (letter : c.toLower = 'n' ∨ c.toLower = 'i') :
      Binary64.scan ([c, d, e] ++ rest) = .none := by
    refine scan_none fun a first => ?_
    cases first
    rcases letter with letter | letter
    · exact letter_of_toLower letter (.inl rfl)
    · exact letter_of_toLower letter (.inr rfl)
  unfold number
  rcases text with numeral | ⟨lower, rfl⟩ | ⟨lower, rfl⟩
  · rw [Binary64.scan_complete (Binary64.scan_iff.mp numeral) stops]
  · obtain ⟨c, d, e, rfl⟩ := exists_letters lower rfl
    have first : c.toLower = 'n' := (List.cons.inj lower).1
    rw [word (.inl first)]
    have found : Binary64.dropWord? ['n', 'a', 'n'] ([c, d, e] ++ rest) = some rest := by
      simp [Binary64.dropWord?, List.map_cons] at lower ⊢
      exact lower
    rw [found]
  · obtain ⟨c, d, e, rfl⟩ := exists_letters lower rfl
    have first : c.toLower = 'i' := (List.cons.inj lower).1
    rw [word (.inr first)]
    have other : Binary64.dropWord? ['n', 'a', 'n'] ([c, d, e] ++ rest) = none := by
      simp [Binary64.dropWord?, first]
    have found : Binary64.dropWord? ['i', 'n', 'f'] ([c, d, e] ++ rest) = some rest := by
      simp [Binary64.dropWord?, List.map_cons] at lower ⊢
      exact lower
    rw [other, found]

theorem dropWord?_some {w s rest : List Char} (found : Binary64.dropWord? w s = some rest) :
    ∃ t, s = t ++ rest ∧ t.map Char.toLower = w := by
  unfold Binary64.dropWord? at found
  split at found
  · rename_i starts
    cases found
    exact ⟨s.take w.length, (List.take_append_drop ..).symm, starts.2⟩
  · cases found

theorem number_ok {s rest : List Char} {x : Binary64} (read : number s = .ok x rest) :
    ∃ t, s = t ++ rest ∧ NumberText x t := by
  unfold number at read
  split at read
  · rename_i found
    cases read
    obtain ⟨t, numeral, same⟩ := Binary64.scan_sound found
    exact ⟨t, same, .inl (Binary64.scan_iff.mpr numeral)⟩
  · cases read
  · split at read
    · rename_i found
      cases read
      obtain ⟨t, same, lower⟩ := dropWord?_some found
      exact ⟨t, same, .inr (.inl ⟨lower, rfl⟩)⟩
    · rename_i found
      cases read
      obtain ⟨t, same, lower⟩ := dropWord?_some found
      exact ⟨t, same, .inr (.inr ⟨lower, rfl⟩)⟩
    · cases read

theorem number_misses {s : List Char} (other : ∀ c, s.head? = some c → startsNumber c = false) :
    Misses number s := by
  have apart (c : Char) (first : s.head? = some c) : c.isDigit = false ∧ c ≠ '-' ∧ c ≠ '+' ∧
      c ≠ '.' ∧ c.toLower ≠ 'n' ∧ c.toLower ≠ 'i' := by
    simpa [startsNumber, and_assoc] using other c first
  have scanned : Binary64.scan s = .none := scan_none fun c first =>
    let ⟨digit, minus, plus, point, _⟩ := apart c first
    ⟨digit, minus, plus, point⟩
  have noWord {first : Char} {w : List Char} (letter : first = 'n' ∨ first = 'i') :
      Binary64.dropWord? (first :: w) s = none := by
    cases found : Binary64.dropWord? (first :: w) s with
    | none => rfl
    | some rest =>
      obtain ⟨t, rfl, lower⟩ := dropWord?_some found
      cases t with
      | nil => cases lower
      | cons c t =>
        obtain ⟨-, -, -, -, n, i⟩ := apart c rfl
        have same : c.toLower = first := (List.cons.inj lower).1
        rcases letter with rfl | rfl
        · exact absurd same n
        · exact absurd same i
  exact ⟨[⟨s, .kind .number⟩, ⟨s, .kind .alternative⟩], by
    simp only [number, scanned, noWord (.inl rfl), noWord (.inr rfl)]⟩

theorem NumberText.head {x : Binary64} {t : List Char} (text : NumberText x t) :
    ∃ c rest, t = c :: rest ∧ startsNumber c = true := by
  have read := number_append text Binary64.StopsNumeral.nil
  rw [List.append_nil] at read
  cases t with
  | nil => cases read
  | cons c rest =>
    refine ⟨c, rest, rfl, ?_⟩
    cases starts : startsNumber c with
    | true => rfl
    | false =>
      obtain ⟨trace, miss⟩ := number_misses (s := c :: rest) fun d first => by
        cases first
        exact starts
      rw [miss] at read
      cases read

end Number

section Lists

/-- Texts of items with commas between neighbours. -/
inductive Listed (Spells : α → List Char → Prop) : List α → List Char → Prop
  | one {a : α} {t : List Char} : Spells a t → Listed Spells [a] t
  | more {a : α} {t v w : List Char} {as : List α} {u : List Char} :
    Spells a t → Layout v → Layout w → Listed Spells as u →
      Listed Spells (a :: as) (t ++ (v ++ ',' :: (w ++ u)))

theorem Listed.mono {P Q : α → List Char → Prop} (grows : ∀ a t, P a t → Q a t) {as : List α}
    {u : List Char} (listed : Listed P as u) : Listed Q as u := by
  induction listed with
  | one spells => exact .one (grows _ _ spells)
  | more spells before after _ ih => exact .more (grows _ _ spells) before after ih

/-- What an item takes from a text is a spelling of it. -/
def Sound (item : Reader α) (Spells : α → List Char → Prop) : Prop :=
  ∀ s a rest, item s = .ok a rest → ∃ t, s = t ++ rest ∧ Spells a t

/-- An item is read from each of its spellings, none of which starts with layout. -/
structure Complete (item : Reader α) (Spells : α → List Char → Prop) : Prop where
  reads : ∀ a t rest, Spells a t → Binary64.StopsNumeral rest → item (t ++ rest) = .ok a rest
  starts : ∀ a t, Spells a t → ∃ c r, t = c :: r ∧ Text.isLayout c = false

variable {item : Reader α} {Spells : α → List Char → Prop}

theorem itemsAfter_succ (bound : Nat) (s : List Char) :
    itemsAfter comma item (bound + 1) s =
      match comma s with
      | .miss _ => .ok [] s
      | .halt trace => .halt trace
      | .ok _ afterComma =>
        match item afterComma with
        | .miss _ => .ok [] s
        | .halt trace => .halt trace
        | .ok value rest => (itemsAfter comma item bound rest).map (value :: ·) := rfl

theorem itemsAfter_ok (sound : Sound item Spells) {bound : Nat} {s rest : List Char} {as : List α}
    (read : itemsAfter comma item bound s = .ok as rest) :
    as = [] ∧ s = rest ∨ ∃ v w u, s = v ++ ',' :: (w ++ (u ++ rest)) ∧ Layout v ∧ Layout w ∧
      Listed Spells as u := by
  induction bound generalizing s as with
  | zero => cases read; exact .inl ⟨rfl, rfl⟩
  | succ bound ih =>
    rw [itemsAfter_succ] at read
    split at read
    · cases read; exact .inl ⟨rfl, rfl⟩
    · cases read
    · rename_i afterComma separated
      obtain ⟨v, w, rfl, before, after, -⟩ := comma_ok separated
      split at read
      · cases read; exact .inl ⟨rfl, rfl⟩
      · cases read
      · rename_i a left first
        obtain ⟨t, rfl, spells⟩ := sound _ _ _ first
        cases others : itemsAfter comma item bound left with
        | miss trace => rw [others] at read; cases read
        | halt trace => rw [others] at read; cases read
        | ok more rest' =>
          rw [others] at read
          cases read
          refine .inr ?_
          rcases ih others with ⟨rfl, rfl⟩ | ⟨v', w', u, rfl, before', after', listed⟩
          · exact ⟨v, w, t, rfl, before, after, .one spells⟩
          · exact ⟨v, w, t ++ (v' ++ ',' :: (w' ++ u)), by simp, before, after,
              .more spells before' after' listed⟩

theorem separated1_ok (sound : Sound item Spells) {s rest : List Char} {as : List α}
    (read : separated1 comma item s = .ok as rest) : ∃ u, s = u ++ rest ∧ Listed Spells as u := by
  unfold separated1 at read
  cases first : item s with
  | miss trace => rw [first] at read; cases read
  | halt trace => rw [first] at read; cases read
  | ok a left =>
    obtain ⟨t, rfl, spells⟩ := sound _ _ _ first
    simp only [first, Outcome.bind] at read
    cases others : itemsAfter comma item left.length left with
    | miss trace => rw [others] at read; cases read
    | halt trace => rw [others] at read; cases read
    | ok more rest' =>
      rw [others] at read
      cases read
      rcases itemsAfter_ok sound others with ⟨rfl, rfl⟩ | ⟨v, w, u, rfl, before, after, listed⟩
      · exact ⟨t, rfl, .one spells⟩
      · exact ⟨t ++ (v ++ ',' :: (w ++ u)), by simp, .more spells before after listed⟩

theorem separated_ok (sound : Sound item Spells) {s rest : List Char} {as : List α}
    (read : separated comma item s = .ok as rest) :
    as = [] ∧ s = rest ∨ ∃ u, s = u ++ rest ∧ Listed Spells as u := by
  unfold separated at read
  split at read
  · cases read; exact .inl ⟨rfl, rfl⟩
  · cases read
  · rename_i a left first
    refine .inr (separated1_ok sound ?_)
    simp only [separated1, first, Outcome.bind]
    exact read

/-- A list of items ends in front of a text. -/
def EndsList (item : Reader α) (rest : List Char) : Prop :=
  ∀ bound, itemsAfter comma item bound rest = .ok [] rest

theorem endsList_of_misses {rest : List Char} (misses : Misses comma rest) :
    EndsList item rest := by
  intro bound
  cases bound with
  | zero => rfl
  | succ bound =>
    obtain ⟨trace, miss⟩ := misses
    rw [itemsAfter_succ, miss]

theorem endsList_of_lastComma {rest left : List Char} (separated : comma rest = .ok () left)
    (misses : Misses item left) : EndsList item rest := by
  intro bound
  cases bound with
  | zero => rfl
  | succ bound =>
    obtain ⟨trace, miss⟩ := misses
    rw [itemsAfter_succ, separated]
    simp only [miss]

theorem stopsNumeral_layout {v rest : List Char} (blank : Layout v)
    (stops : Binary64.StopsNumeral rest) : Binary64.StopsNumeral (v ++ rest) := by
  cases v with
  | nil => exact stops
  | cons c v =>
    intro d first
    cases first
    have layout := blank c List.mem_cons_self
    simp only [Text.isLayout, Bool.or_eq_true, beq_iff_eq] at layout
    rcases layout with ((rfl | rfl) | rfl) | rfl <;> decide

theorem stopsNumeral_comma (rest : List Char) : Binary64.StopsNumeral (',' :: rest) := by
  intro c first
  cases first
  decide

theorem Complete.stopsLayout (complete : Complete item Spells) {a : α} {t : List Char}
    (spells : Spells a t) (rest : List Char) : StopsLayout (t ++ rest) := by
  obtain ⟨c, r, rfl, stop⟩ := complete.starts a t spells
  intro d first
  cases first
  exact stop

theorem Listed.stopsLayout (complete : Complete item Spells) {as : List α} {u : List Char}
    (listed : Listed Spells as u) (rest : List Char) : StopsLayout (u ++ rest) := by
  cases listed with
  | one spells => exact complete.stopsLayout spells rest
  | more spells _ _ _ =>
    rw [List.append_assoc]
    exact complete.stopsLayout spells _

theorem Listed.length_le (complete : Complete item Spells) {as : List α} {u : List Char}
    (listed : Listed Spells as u) : as.length ≤ u.length := by
  induction listed with
  | one spells =>
    obtain ⟨c, r, rfl, -⟩ := complete.starts _ _ spells
    simp
  | more spells _ _ _ ih =>
    simp only [List.length_cons, List.length_append]
    omega

/-- Items in front of a text are taken first. -/
theorem itemsAfter_append (complete : Complete item Spells) {as : List α} {u rest : List Char}
    (listed : Listed Spells as u) (stops : Binary64.StopsNumeral rest) (bound : Nat)
    {v w : List Char} (before : Layout v) (after : Layout w) :
    itemsAfter comma item (bound + as.length) (v ++ ',' :: (w ++ (u ++ rest))) =
      (itemsAfter comma item bound rest).map (as ++ ·) := by
  induction listed generalizing v w with
  | one spells =>
    rw [List.length_singleton, itemsAfter_succ,
      comma_append before after (complete.stopsLayout spells rest)]
    simp only [complete.reads _ _ rest spells stops]
    rfl
  | @more a t v' w' as u spells before' after' listed ih =>
    have next : Binary64.StopsNumeral (v' ++ ',' :: (w' ++ u) ++ rest) := by
      rw [List.append_assoc]
      exact stopsNumeral_layout before' (stopsNumeral_comma _)
    have regrouped : t ++ (v' ++ ',' :: (w' ++ u)) ++ rest =
        t ++ (v' ++ ',' :: (w' ++ u) ++ rest) := by simp
    have tail : v' ++ ',' :: (w' ++ u) ++ rest = v' ++ ',' :: (w' ++ (u ++ rest)) := by simp
    rw [List.length_cons, ← Nat.add_assoc, itemsAfter_succ, regrouped,
      comma_append before after (complete.stopsLayout spells _)]
    simp only [complete.reads _ _ _ spells next]
    rw [tail, ih before' after']
    cases itemsAfter comma item bound rest <;> rfl

/-- A list goes on after its first items as it does after any. -/
theorem separated_eq (complete : Complete item Spells) {as : List α} {u rest : List Char}
    (listed : Listed Spells as u) (stops : Binary64.StopsNumeral rest) :
    ∃ bound, rest.length ≤ bound ∧
      separated comma item (u ++ rest) = (itemsAfter comma item bound rest).map (as ++ ·) := by
  unfold separated
  cases listed with
  | one spells =>
    refine ⟨rest.length, Nat.le_refl _, ?_⟩
    simp only [complete.reads _ _ rest spells stops]
    rfl
  | @more a t v w as u spells before after listed =>
    have next : Binary64.StopsNumeral (v ++ ',' :: (w ++ u) ++ rest) := by
      rw [List.append_assoc]
      exact stopsNumeral_layout before (stopsNumeral_comma _)
    have size := listed.length_le complete
    have tail : v ++ ',' :: (w ++ u) ++ rest = v ++ ',' :: (w ++ (u ++ rest)) := by simp
    obtain ⟨bound, enough⟩ : ∃ bound, (v ++ ',' :: (w ++ u) ++ rest).length = bound + as.length :=
      Nat.exists_eq_add_of_le' (by simp only [List.length_append, List.length_cons]; omega)
    refine ⟨bound, ?_, ?_⟩
    · simp only [List.length_append, List.length_cons] at enough
      omega
    · rw [List.append_assoc]
      simp only [complete.reads _ _ _ spells next]
      rw [enough, tail, itemsAfter_append complete listed stops bound before after]
      cases itemsAfter comma item bound rest <;> rfl

/-- A list is read from its items, up to where it ends. -/
theorem separated_append (complete : Complete item Spells) {as : List α} {u rest : List Char}
    (listed : Listed Spells as u) (ends : EndsList item rest)
    (stops : Binary64.StopsNumeral rest) : separated comma item (u ++ rest) = .ok as rest := by
  obtain ⟨bound, -, read⟩ := separated_eq complete listed stops
  rw [read, ends bound]
  simp only [Outcome.map, List.append_nil]

/-- A list halts at the first item that does. -/
theorem separated_halts (complete : Complete item Spells) {as : List α} {u v w s : List Char}
    (listed : Listed Spells as u) (before : Layout v) (after : Layout w) (stops : StopsLayout s)
    {trace : Trace} (halts : item s = .halt trace) :
    separated comma item (u ++ (v ++ ',' :: (w ++ s))) = .halt trace := by
  obtain ⟨bound, enough, read⟩ :=
    separated_eq complete listed (stopsNumeral_layout before (stopsNumeral_comma (w ++ s)))
  obtain ⟨bound, rfl⟩ : ∃ k, bound = k + 1 := Nat.exists_eq_add_of_le' (by
    simp only [List.length_append, List.length_cons] at enough
    omega)
  rw [read, itemsAfter_succ, comma_append before after stops]
  simp only [halts, Outcome.map]

theorem separated1_append (complete : Complete item Spells) {as : List α} {u rest : List Char}
    (listed : Listed Spells as u) (ends : EndsList item rest)
    (stops : Binary64.StopsNumeral rest) : separated1 comma item (u ++ rest) = .ok as rest := by
  have read := separated_append complete listed ends stops
  unfold separated at read
  unfold separated1
  cases found : item (u ++ rest) with
  | ok a left => rw [found] at read; exact read
  | halt trace => rw [found] at read; cases read
  | miss trace =>
    rw [found] at read
    injection read with none
    subst none
    cases listed

theorem separated_halts_first {s : List Char} {trace : Trace} (halts : item s = .halt trace) :
    separated comma item s = .halt trace := by
  simp only [separated, halts]

theorem separated_nil {s : List Char} (misses : Misses item s) :
    separated comma item s = .ok [] s := by
  obtain ⟨trace, miss⟩ := misses
  simp only [separated, miss]

end Lists

end HazardJob.Reading
