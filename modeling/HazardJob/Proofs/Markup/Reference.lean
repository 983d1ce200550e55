import HazardJob.Markup.Attribute
import HazardJob.Proofs.Basic
import HazardJob.Proofs.Text.Span

/-! References in texts: the texts that are resolved, and what they stand for. What is put around such a text
without references of its own is kept, so that white space does not matter to the references. -/
namespace HazardJob.Markup

/-- No reference starts in the text. -/
def Unreferenced (s : List Char) : Prop := ∀ c ∈ s, (c != '&') = true

/-- The character that a reference stands for, by what is between its marks. -/
def referred? : List Char → Option Char
  | '#' :: digits => (numericReference digits).toOption
  | name => entity? name

/-- A text and what it stands for. -/
inductive Resolved : List Char → List Char → Prop
  | plain {s : List Char} : Unreferenced s → Resolved s s
  | reference {plain name rest value : List Char} {c : Char} : Unreferenced plain →
      (∀ d ∈ name, (d != '&' && d != ';') = true) → referred? name = some c → Resolved rest value →
      Resolved (plain ++ '&' :: (name ++ ';' :: rest)) (plain ++ c :: value)

theorem unreferenced_takeWhile (s : List Char) : Unreferenced (s.takeWhile (· != '&')) :=
  List.all_eq_true.mp List.all_takeWhile

theorem resolved_of_resolveFrom {bound position : Nat} {s value : List Char}
    (enough : s.length < bound) (read : resolveFrom bound position s = .ok value) :
    Resolved s value := by
  induction bound generalizing position s value with
  | zero => omega
  | succ bound ih =>
    unfold resolveFrom at read
    dsimp only at read
    split at read
    · rename_i nothing
      have free : Unreferenced s := List.dropWhile_eq_nil_iff.mp nothing
      cases read
      rw [List.takeWhile_eq_self_iff.mpr free]
      exact .plain free
    · rename_i mark body marked
      obtain ⟨whole, stops⟩ := Text.eq_of_dropWhile marked
      obtain rfl : mark = '&' := by simpa using stops
      split at read
      · rename_i rest closed
        obtain ⟨inner, -⟩ := Text.eq_of_dropWhile closed
        have shorter : rest.length < bound := by
          have lengths := congrArg List.length whole
          rw [inner] at lengths
          simp only [List.length_append, List.length_cons] at lengths
          omega
        have resolved {c : Char} {more : List Char}
            (referred : referred? (body.takeWhile fun c => c != '&' && c != ';') = some c)
            (later : Resolved rest more) :
            Resolved s (s.takeWhile (· != '&') ++ c :: more) := by
          conv => arg 1; rw [whole, inner]
          exact .reference (unreferenced_takeWhile s) (List.all_eq_true.mp List.all_takeWhile)
            referred later
        split at read
        · rename_i digits named
          obtain ⟨c, numbered, read⟩ := bind_eq_ok.mp read
          obtain ⟨more, later, same⟩ := bind_eq_ok.mp read
          cases same
          refine resolved ?_ (ih shorter later)
          rw [named, referred?, toOption_eq_some]
          exact mapError_eq_ok.mp numbered
        · rename_i name other
          split at read
          · rename_i c found
            obtain ⟨_, same, read⟩ := bind_eq_ok.mp read
            cases same
            obtain ⟨more, later, same⟩ := bind_eq_ok.mp read
            cases same
            refine resolved ?_ (ih shorter later)
            rw [referred?]
            · exact found
            · exact other
          · cases read
      · cases read

theorem resolveFrom_of_resolved {s value : List Char} (resolved : Resolved s value)
    (bound position : Nat) (enough : s.length < bound) :
    resolveFrom bound position s = .ok value := by
  induction resolved generalizing bound position with
  | @plain s free =>
    obtain ⟨bound, rfl⟩ : ∃ n, bound = n + 1 := Nat.exists_eq_add_of_le' (by omega)
    have nothing : s.dropWhile (· != '&') = [] := List.dropWhile_eq_nil_iff.mpr free
    have all : s.takeWhile (· != '&') = s := List.takeWhile_eq_self_iff.mpr free
    rw [resolveFrom]
    simp only [nothing, all]
  | @reference plain name rest value c free proper referred later ih =>
    obtain ⟨bound, rfl⟩ : ∃ n, bound = n + 1 := Nat.exists_eq_add_of_le' (by omega)
    have opens : ∀ d, ('&' :: (name ++ ';' :: rest)).head? = some d → (d != '&') = false := by simp
    have closes : ∀ d, (';' :: rest).head? = some d → (d != '&' && d != ';') = false := by simp
    have shorter : rest.length < bound := by
      simp only [List.length_append, List.length_cons] at enough
      omega
    rw [resolveFrom]
    simp only [Text.takeWhile_append free opens, Text.dropWhile_append free opens,
      Text.takeWhile_append proper closes, Text.dropWhile_append proper closes]
    split
    · rename_i digits
      have numbered : numericReference digits = .ok c := toOption_eq_some.mp referred
      rw [numbered, ih _ _ shorter]
      rfl
    · rename_i other
      have found : entity? name = some c := by
        rwa [referred?] at referred
        exact other
      rw [found, ih _ _ shorter]
      rfl

/-- Exactly the texts of the grammar are resolved. -/
theorem resolve_iff {s value : List Char} : resolve s = .ok value ↔ Resolved s value :=
  ⟨resolved_of_resolveFrom (Nat.lt_succ_self _),
    fun resolved => resolveFrom_of_resolved resolved _ _ (Nat.lt_succ_self _)⟩

theorem Unreferenced.append {s t : List Char} (first : Unreferenced s) (second : Unreferenced t) :
    Unreferenced (s ++ t) := by
  intro c member
  rcases List.mem_append.mp member with left | right
  · exact first c left
  · exact second c right

theorem Resolved.before {w s value : List Char} (free : Unreferenced w)
    (resolved : Resolved s value) : Resolved (w ++ s) (w ++ value) := by
  cases resolved with
  | plain rest => exact .plain (free.append rest)
  | reference plain proper referred later =>
    rw [← List.append_assoc, ← List.append_assoc]
    exact .reference (free.append plain) proper referred later

theorem Resolved.after {w s value : List Char} (free : Unreferenced w)
    (resolved : Resolved s value) : Resolved (s ++ w) (value ++ w) := by
  induction resolved with
  | plain rest => exact .plain (rest.append free)
  | @reference plain name rest value c whole proper referred later ih =>
    have grouped : plain ++ '&' :: (name ++ ';' :: rest) ++ w =
        plain ++ '&' :: (name ++ ';' :: (rest ++ w)) := by simp
    have grouped' : plain ++ c :: value ++ w = plain ++ c :: (value ++ w) := by simp
    rw [grouped, grouped']
    exact .reference whole proper referred ih

end HazardJob.Markup
