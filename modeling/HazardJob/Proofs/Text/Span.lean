import HazardJob.Text.Basic

/-! Where a text is cut at the first character that fails a test. What stands before the cut passes it, what
stands after the cut does not go on with a character that does, and there is no other such cut. -/
namespace HazardJob.Text

section Span

variable {p : Char → Bool} {s rest : List Char}

theorem dropWhile_of_head (stops : ∀ c, s.head? = some c → p c = false) : s.dropWhile p = s := by
  cases s with
  | nil => rfl
  | cons c s => exact List.dropWhile_cons_of_neg (Bool.eq_false_iff.mp (stops c rfl))

theorem takeWhile_of_head (stops : ∀ c, s.head? = some c → p c = false) : s.takeWhile p = [] := by
  cases s with
  | nil => rfl
  | cons c s => exact List.takeWhile_cons_of_neg (Bool.eq_false_iff.mp (stops c rfl))

theorem takeWhile_append (all : ∀ c ∈ s, p c = true)
    (stops : ∀ c, rest.head? = some c → p c = false) : (s ++ rest).takeWhile p = s := by
  rw [List.takeWhile_append_of_pos all, takeWhile_of_head stops, List.append_nil]

theorem dropWhile_append (all : ∀ c ∈ s, p c = true)
    (stops : ∀ c, rest.head? = some c → p c = false) : (s ++ rest).dropWhile p = rest := by
  rw [List.dropWhile_append_of_pos all, dropWhile_of_head stops]

theorem head?_dropWhile {c : Char} (first : (s.dropWhile p).head? = some c) : p c = false := by
  have kept := List.head?_dropWhile_not p s
  rw [first] at kept
  simpa using kept

/-- The cut stands before the first character that fails the test. -/
theorem eq_of_dropWhile {c : Char} (cut : s.dropWhile p = c :: rest) :
    s = s.takeWhile p ++ c :: rest ∧ p c = false := by
  refine ⟨?_, head?_dropWhile (s := s) (by rw [cut]; rfl)⟩
  rw [← cut, List.takeWhile_append_dropWhile]

/-- The cut stays where it is, whatever comes after it. -/
theorem cut_append {c : Char} (cut : s.dropWhile p = c :: rest) (more : List Char) :
    (s ++ more).takeWhile p = s.takeWhile p ∧ (s ++ more).dropWhile p = c :: (rest ++ more) := by
  obtain ⟨whole, stop⟩ := eq_of_dropWhile cut
  have inside : ∀ d ∈ s.takeWhile p, p d = true := fun d member =>
    List.all_eq_true.mp List.all_takeWhile d member
  have stops : ∀ d, (c :: (rest ++ more)).head? = some d → p d = false := by
    intro d first
    cases first
    exact stop
  have longer : s ++ more = s.takeWhile p ++ c :: (rest ++ more) := by
    rw [← List.cons_append, ← List.append_assoc, ← whole]
  rw [longer]
  exact ⟨takeWhile_append inside stops, dropWhile_append inside stops⟩

end Span

end HazardJob.Text
