import HazardJob.Proofs.Literal.Mapping

/-! The language of literals. A whole text is read as a literal exactly if the text is derived from the
literal by the grammar below, with layout around it: the reader neither refuses a derivation nor reads
anything else, however deep the literal is nested. -/
namespace HazardJob.Literal

open Reading

/-- A comma or nothing. -/
inductive LastComma : List Char → Prop
  | none : LastComma []
  | comma : LastComma [',']

/-- Items with commas between them, and perhaps one after the last. Layout may stand around items and
commas. -/
inductive Items {α : Type} (Derives : α → List Char → Prop) : List α → List Char → Prop
  | none {v w last x : List Char} : Layout v → Layout w → LastComma last → Layout x →
      Items Derives [] (v ++ (w ++ (last ++ x)))
  | some {items : List α} {v body w last x : List Char} : Layout v → Listed Derives items body →
      Layout w → LastComma last → Layout x →
      Items Derives items (v ++ (body ++ (w ++ (last ++ x))))

/-- A key, a colon and a value. -/
inductive Entry (Derives : Literal → List Char → Prop) : Literal × Literal → List Char → Prop
  | pair {key value : Literal} {k v w t : List Char} : Derives key k → Layout v → Layout w →
      Derives value t → Entry Derives (key, value) (k ++ (v ++ ':' :: (w ++ t)))

/-- A literal and a text that is derived from it. -/
inductive Derives : Literal → List Char → Prop
  | none {word : String} : word = "None" ∨ word = "null" → Derives none word.toList
  | true {word : String} : word = "True" ∨ word = "true" → Derives (bool true) word.toList
  | false {word : String} : word = "False" ∨ word = "false" → Derives (bool false) word.toList
  | text {mark : Char} {s : String} : mark = '\x27' ∨ mark = '"' → mark ∉ s.toList →
      Derives (text s) (mark :: (s.toList ++ [mark]))
  | brackets {items : List Literal} {t : List Char} : Items Derives items t →
      Derives (list items) ('[' :: (t ++ [']']))
  | parentheses {items : List Literal} {t : List Char} : Items Derives items t →
      Derives (list items) ('(' :: (t ++ [')']))
  | braces {entries : List (Literal × Literal)} {t : List Char} : Items (Entry Derives) entries t →
      Derives (dict entries) ('\x7b' :: (t ++ ['\x7d']))
  | numeral {x : Binary64} {t : List Char} : Binary64.Numeral x t → Derives (number x) t
  | nan {t : List Char} : t.map Char.toLower = "nan".toList → Derives (number .nan) t
  | infinity {t : List Char} : t.map Char.toLower = "inf".toList →
      Derives (number (.infinity false)) t

section Shorter

variable {α : Type} {P Q : α → List Char → Prop} {bound : Nat}

/-- What holds of the items of a list is asked only of texts that are no longer than the list. -/
theorem listed_of_shorter (grows : ∀ a t, t.length ≤ bound → P a t → Q a t) {items : List α}
    {t : List Char} (short : t.length ≤ bound) (listed : Listed P items t) : Listed Q items t := by
  induction listed with
  | one first => exact .one (grows _ _ short first)
  | more first before after _ ih =>
    simp only [List.length_append, List.length_cons] at short
    exact .more (grows _ _ (by omega) first) before after (ih (by omega))

theorem items_of_shorter (grows : ∀ a t, t.length ≤ bound → P a t → Q a t) {items : List α}
    {t : List Char} (short : t.length ≤ bound) (inside : Items P items t) : Items Q items t := by
  cases inside with
  | none before after last ends => exact .none before after last ends
  | some before listed after last ends =>
    simp only [List.length_append] at short
    exact .some before (listed_of_shorter grows (by omega) listed) after last ends

theorem entry_of_shorter {P Q : Literal → List Char → Prop}
    (grows : ∀ a t, t.length ≤ bound → P a t → Q a t) (e : Literal × Literal) (t : List Char)
    (short : t.length ≤ bound) (paired : Entry P e t) : Entry Q e t := by
  cases paired with
  | pair key before after value =>
    simp only [List.length_append, List.length_cons] at short
    exact .pair (grows _ _ (by omega) key) before after (grows _ _ (by omega) value)

end Shorter

section Spelling

theorem lastComma_iff {t : List Char} : LastComma t ↔ t = [] ∨ t = [','] := by
  constructor
  · rintro (_ | _)
    · exact .inl rfl
    · exact .inr rfl
  · rintro (rfl | rfl)
    · exact .none
    · exact .comma

theorem enclosed_iff {α : Type} {opening closing : Char} {P : α → List Char → Prop}
    {items : List α} {t : List Char} :
    Enclosed opening closing P items t ↔ ∃ u, t = opening :: (u ++ [closing]) ∧ Items P items u := by
  constructor
  · rintro ⟨v, body, w, last, x, rfl, before, after, ends, final, ⟨rfl, rfl⟩ | listed⟩
    · exact ⟨v ++ (w ++ (last ++ x)), by simp, .none before after (lastComma_iff.mpr final) ends⟩
    · exact ⟨v ++ (body ++ (w ++ (last ++ x))), by simp,
        .some before listed after (lastComma_iff.mpr final) ends⟩
  · rintro ⟨u, rfl, inside⟩
    cases inside with
    | @none v w last x before after final ends =>
      exact ⟨v, [], w, last, x, by simp, before, after, ends, lastComma_iff.mp final, .inl ⟨rfl, rfl⟩⟩
    | @some _ v body w last x before listed after final ends =>
      exact ⟨v, body, w, last, x, by simp, before, after, ends, lastComma_iff.mp final, .inr listed⟩

theorem paired_iff {P : Literal → List Char → Prop} {e : Literal × Literal} {t : List Char} :
    Paired P e t ↔ Entry P e t := by
  constructor
  · rintro ⟨k, v, w, u, rfl, key, value, before, after⟩
    exact .pair key before after value
  · rintro ⟨key, before, after, value⟩
    exact ⟨_, _, _, _, rfl, key, value, before, after⟩

theorem numberText_iff {x : Binary64} {t : List Char} :
    NumberText x t ↔ Binary64.Numeral x t ∨ t.map Char.toLower = "nan".toList ∧ x = .nan ∨
      t.map Char.toLower = "inf".toList ∧ x = .infinity false := by
  rw [NumberText, Binary64.scan_iff]
  rfl

/-- What is spelled with some bound on the nesting is derived. -/
theorem derives_of_spelled {depth : Nat} {l : Literal} {t : List Char} (spells : Spelled depth l t) :
    Derives l t := by
  induction depth generalizing l t with
  | zero => exact spells.elim
  | succ depth ih =>
    cases l with
    | none => rcases spells with rfl | rfl <;> exact .none (by simp)
    | bool b =>
      cases b with
      | true => rcases spells with rfl | rfl <;> exact .true (by simp)
      | false => rcases spells with rfl | rfl <;> exact .false (by simp)
    | text s =>
      rcases spells with ⟨free, rfl⟩ | ⟨free, rfl⟩
      · exact .text (.inl rfl) free
      · exact .text (.inr rfl) free
    | list items =>
      rcases spells with spells | spells
      · obtain ⟨u, rfl, inside⟩ := enclosed_iff.mp spells
        exact .brackets (items_of_shorter (fun _ _ _ => ih) le_rfl inside)
      · obtain ⟨u, rfl, inside⟩ := enclosed_iff.mp spells
        exact .parentheses (items_of_shorter (fun _ _ _ => ih) le_rfl inside)
    | dict entries =>
      obtain ⟨u, rfl, inside⟩ := enclosed_iff.mp spells
      refine .braces (items_of_shorter (fun e v _ paired => ?_) le_rfl inside)
      exact entry_of_shorter (fun _ _ _ => ih) e v le_rfl (paired_iff.mp paired)
    | number x =>
      rcases numberText_iff.mp spells with numeral | ⟨nan, rfl⟩ | ⟨infinity, rfl⟩
      · exact .numeral numeral
      · exact .nan nan
      · exact .infinity infinity

/-- One step of a derivation, once what is nested in it is spelled. -/
theorem spelled_of_nested {depth : Nat} {l : Literal} {t : List Char} (derives : Derives l t)
    (nested : ∀ l u, u.length + 2 ≤ t.length → Derives l u → Spelled depth l u) :
    Spelled (depth + 1) l t := by
  cases derives with
  | none word => rcases word with rfl | rfl <;> simp [Spelled]
  | true word => rcases word with rfl | rfl <;> simp [Spelled]
  | false word => rcases word with rfl | rfl <;> simp [Spelled]
  | text mark free =>
    rcases mark with rfl | rfl
    · exact .inl ⟨free, rfl⟩
    · exact .inr ⟨free, rfl⟩
  | @brackets items u inside =>
    refine .inl (enclosed_iff.mpr ⟨u, rfl, items_of_shorter (fun l v short => ?_) le_rfl inside⟩)
    exact nested l v (by simp; omega)
  | @parentheses items u inside =>
    refine .inr (enclosed_iff.mpr ⟨u, rfl, items_of_shorter (fun l v short => ?_) le_rfl inside⟩)
    exact nested l v (by simp; omega)
  | @braces entries u inside =>
    refine enclosed_iff.mpr ⟨u, rfl, items_of_shorter (fun e v short paired => ?_) le_rfl inside⟩
    refine paired_iff.mpr (entry_of_shorter (fun l v short => ?_) e v short paired)
    exact nested l v (by simp; omega)
  | numeral numeral => exact numberText_iff.mpr (.inl numeral)
  | nan nan => exact numberText_iff.mpr (.inr (.inl ⟨nan, rfl⟩))
  | infinity infinity => exact numberText_iff.mpr (.inr (.inr ⟨infinity, rfl⟩))

/-- What is derived is spelled with no more levels of nesting than the text has characters. -/
theorem spelled_of_derives {n : Nat} {l : Literal} {t : List Char} (short : t.length ≤ n)
    (derives : Derives l t) : Spelled (n + 1) l t := by
  induction n generalizing l t with
  | zero => exact spelled_of_nested derives fun l u shorter => by omega
  | succ n ih => exact spelled_of_nested derives fun l u shorter => ih (by omega)

theorem ofText_of_derives {text : String} {l : Literal} {v t w : List Char}
    (split : text.toList = v ++ (t ++ w)) (before : Layout v) (derives : Derives l t)
    (after : Layout w) : ofText text = .ok l := by
  have short : t.length ≤ text.toList.length := by
    rw [split]
    simp only [List.length_append]
    omega
  exact ofText_of_layout split before (spelled_of_derives short derives) after le_rfl

end Spelling

/-- A text is read as a literal exactly if it is derived from the literal, with layout around it. -/
theorem ofText_iff {text : String} {l : Literal} :
    ofText text = .ok l ↔
      ∃ v t w, text.toList = v ++ (t ++ w) ∧ Layout v ∧ Derives l t ∧ Layout w := by
  constructor
  · intro read
    obtain ⟨depth, v, t, w, split, before, after, spells⟩ := spelled_of_ofText read
    exact ⟨v, t, w, split, before, derives_of_spelled spells, after⟩
  · rintro ⟨v, t, w, split, before, derives, after⟩
    exact ofText_of_derives split before derives after

end HazardJob.Literal
