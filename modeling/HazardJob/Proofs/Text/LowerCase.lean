import HazardJob.Text.Alphanumeric
import HazardJob.Text.Basic
import HazardJob.Text.LowerCase

/-! Letters and numbers in lower case. Their lower case consists of letters and numbers again, with
the dot of a dotted capital I as the one exception, and it is its own lower case. Both are read off
the tables: of every run of capitals it is checked where its small letters stand. -/
namespace HazardJob.Text

/-- Lower case leaves the character as it is, wherever it stands. -/
structure Small (c : Char) : Prop where
  kept : lowerChar c = [c]
  notSigma : c.toNat ≠ 0x3A3

instance (c : Char) : Decidable (Small c) :=
  decidable_of_iff (lowerChar c = [c] ∧ c.toNat ≠ 0x3A3)
    ⟨fun both => ⟨both.1, both.2⟩, fun small => ⟨small.kept, small.notSigma⟩⟩

theorem lowerAfter_small (before : List Char) {s : List Char} (small : ∀ c ∈ s, Small c) :
    lowerAfter before s = s := by
  induction s generalizing before with
  | nil => rfl
  | cons c s ih =>
    have own := small c List.mem_cons_self
    have notSigma : (c.toNat == 0x3A3) = false := beq_eq_false_iff_ne.mpr own.notSigma
    rw [lowerAfter, ih _ fun d member => small d (List.mem_cons_of_mem _ member)]
    simp only [notSigma, Bool.false_eq_true, if_false, own.kept, List.singleton_append]

theorem mem_lowerAfter {before s : List Char} {d : Char} (member : d ∈ lowerAfter before s) :
    (∃ c ∈ s, d ∈ lowerChar c) ∨ d = Char.ofNat 0x3C2 ∨ d = Char.ofNat 0x3C3 := by
  induction s generalizing before with
  | nil => cases member
  | cons c s ih =>
    rw [lowerAfter, List.mem_append] at member
    rcases member with here | later
    · split at here
      · rw [List.mem_singleton] at here
        split at here
        · exact .inr (.inl here)
        · exact .inr (.inr here)
      · exact .inl ⟨c, List.mem_cons_self, here⟩
    · rcases ih later with ⟨e, inside, lowered⟩ | sigma
      · exact .inl ⟨e, List.mem_cons_of_mem _ inside, lowered⟩
      · exact .inr sigma

theorem lowerChar_ne_nil (c : Char) : lowerChar c ≠ [] := by
  simp only [lowerChar]
  split
  · simp
  · split
    · simp
    · split <;> simp

theorem lowerAfter_ne_nil {before s : List Char} (full : s ≠ []) : lowerAfter before s ≠ [] := by
  obtain ⟨c, rest, rfl⟩ := List.exists_cons_of_ne_nil full
  rw [lowerAfter]
  split
  · simp
  · simp [lowerChar_ne_nil]

section Runs

/-- Some range of letters and numbers holds all of `r`. -/
def isLetterRange (r : CodeRange) : Bool :=
  alphanumericRanges.any fun s => Nat.ble s.1 r.1 && Nat.ble r.2 s.2

namespace CapitalRun

/-- Where the small letters of a run stand. -/
def image (run : CapitalRun) : CodeRange :=
  ((run.first + run.shift).toNat, (run.last + run.shift).toNat)

/-- No small letter of `run` is a capital of `other`: they stand apart, or between each other. -/
def avoids (run other : CapitalRun) : Bool :=
  Nat.blt run.image.2 other.first || Nat.blt other.last run.image.1 ||
    (Nat.beq other.step 2 && (Nat.beq run.step 2 || Nat.beq run.first run.last) &&
      Nat.beq ((run.image.1 + other.first) % 2) 1)

/-- The small letters of a run are letters beyond ASCII, or the letter k alone, and none of them is a
capital. The comparisons are those that the kernel computes, for there are many. -/
def isClosed (run : CapitalRun) : Bool :=
  0 ≤ run.first + run.shift &&
    (Nat.blt run.image.2 0xD800 || Nat.blt 0xDFFF run.image.1 && Nat.blt run.image.2 0x110000) &&
    (Nat.blt run.image.2 0x130 || Nat.blt 0x130 run.image.1) &&
    (run.image == (107, 107) || Nat.ble 0x80 run.image.1 && isLetterRange run.image) &&
    capitalRuns.all run.avoids

theorem all_closed : capitalRuns.all (·.isClosed) = true := by decide +kernel

/-- The small letter of the capital `n`. -/
def small (run : CapitalRun) (n : Nat) : Nat := (n + run.shift).toNat

variable {run other : CapitalRun} {n : Nat}

theorem contains_iff : run.contains n = true ↔
    run.first ≤ n ∧ n ≤ run.last ∧ (n - run.first) % run.step = 0 := by
  simp only [contains, Bool.and_eq_true, decide_eq_true_eq, beq_iff_eq, and_assoc]

theorem small_mem_image (capital : run.contains n = true) :
    run.image.1 ≤ run.small n ∧ run.small n ≤ run.image.2 := by
  obtain ⟨above, below, -⟩ := contains_iff.mp capital
  simp only [image, small]
  omega

/-- Small letters are not moved on, because no run holds them. -/
theorem not_contains_small (positive : 0 ≤ run.first + run.shift)
    (avoids : run.avoids other = true) (capital : run.contains n = true) :
    other.contains (run.small n) = false := by
  obtain ⟨low, high⟩ := small_mem_image capital
  obtain ⟨above, below, step⟩ := contains_iff.mp capital
  refine Bool.eq_false_iff.mpr fun again => ?_
  obtain ⟨above', below', step'⟩ := contains_iff.mp again
  simp only [CapitalRun.avoids, Bool.or_eq_true, Bool.and_eq_true, Nat.blt_eq,
    Nat.beq_eq] at avoids
  rcases avoids with (before | after) | ⟨⟨otherStep, ownStep⟩, odd⟩
  · omega
  · omega
  · rw [otherStep] at step'
    simp only [image, small] at odd step' above'
    rcases ownStep with two | single
    · rw [two] at step
      omega
    · omega

/-- A small letter is a letter, and stays what it is. -/
theorem char_small (member : run ∈ capitalRuns) (capital : run.contains n = true) :
    Small (Char.ofNat (run.small n)) ∧ isAlphanumeric (Char.ofNat (run.small n)) = true := by
  have closed := List.all_eq_true.mp all_closed run member
  simp only [isClosed, Bool.and_eq_true, Bool.or_eq_true, Nat.blt_eq, Nat.ble_eq, beq_iff_eq,
    decide_eq_true_eq, List.all_eq_true] at closed
  obtain ⟨⟨⟨⟨positive, valid⟩, undotted⟩, letters⟩, apart⟩ := closed
  obtain ⟨low, high⟩ := small_mem_image capital
  have free : capitalRuns.find? (·.contains (run.small n)) = none := by
    rw [List.find?_eq_none]
    intro other inside
    rw [not_contains_small positive (apart other inside) capital]
    exact Bool.false_ne_true
  generalize run.small n = m at low high free
  have notSigma : m ≠ 0x3A3 := by
    rintro rfl
    have found : (capitalRuns.find? (·.contains 0x3A3)).isSome = true := by decide +kernel
    rw [free] at found
    cases found
  rcases letters with k | ⟨beyond, letter⟩
  · rw [k] at low high
    have same : m = 107 := by omega
    subst same
    decide +kernel
  · have code : (Char.ofNat m).toNat = m := by
      rw [Char.ofNat, dif_pos (by simp only [Nat.isValidChar]; omega)]
      rfl
    have later : ¬ m < 0x80 := by omega
    have undotted : (m == 0x130) = false := beq_eq_false_iff_ne.mpr (by omega)
    refine ⟨⟨?_, by rwa [code]⟩, ?_⟩
    · simp only [lowerChar, code, later, undotted, free, if_false, Bool.false_eq_true]
    · obtain ⟨r, listed, inside⟩ := List.any_eq_true.mp letter
      simp only [Bool.and_eq_true, Nat.ble_eq] at inside
      simp only [isAlphanumeric, code, later, if_false, inRanges, List.any_eq_true, Bool.and_eq_true,
        decide_eq_true_eq]
      exact ⟨r, listed, by omega, by omega⟩

end CapitalRun

end Runs

/-- The dot that is left above of a dotted capital I. -/
def dotAbove : Char := Char.ofNat 0x307

/-- White space as ranges. -/
def blankRanges : List CodeRange :=
  [(0x9, 0xD), (0x20, 0x20), (0x85, 0x85), (0xA0, 0xA0), (0x1680, 0x1680), (0x2000, 0x200A),
    (0x2028, 0x2029), (0x202F, 0x202F), (0x205F, 0x205F), (0x3000, 0x3000)]

theorem inRanges_blankRanges {c : Char} (blank : isBlank c = true) :
    inRanges blankRanges c.toNat = true := by
  simp only [isBlank, Bool.or_eq_true, Bool.and_eq_true, decide_eq_true_eq, beq_iff_eq] at blank
  simp only [inRanges, blankRanges, List.any_cons, List.any_nil, Bool.or_eq_true, Bool.and_eq_true,
    decide_eq_true_eq]
  omega

/-- Letters and numbers are not white space. -/
theorem isBlank_of_isAlphanumeric {c : Char} (letter : isAlphanumeric c = true) :
    isBlank c = false := by
  refine Bool.eq_false_iff.mpr fun blank => ?_
  obtain ⟨b, white, low, high⟩ : ∃ b ∈ blankRanges, b.1 ≤ c.toNat ∧ c.toNat ≤ b.2 := by
    simpa [inRanges] using inRanges_blankRanges blank
  by_cases early : c.toNat < 0x80
  · have ascii : ∀ n < 0x80, isAlphanumeric (Char.ofNat n) = true → isBlank (Char.ofNat n) = false := by
      decide +kernel
    have not := ascii c.toNat early
    rw [Char.ofNat_toNat, blank] at not
    cases not letter
  · have apart : (alphanumericRanges.all fun r => blankRanges.all fun b =>
        Nat.blt r.2 b.1 || Nat.blt b.2 r.1) = true := by decide +kernel
    simp only [isAlphanumeric, early, if_false, inRanges, List.any_eq_true, Bool.and_eq_true,
      decide_eq_true_eq] at letter
    obtain ⟨r, listed, first, last⟩ := letter
    have here := List.all_eq_true.mp (List.all_eq_true.mp apart r listed) b white
    simp only [Bool.or_eq_true, Nat.blt_eq] at here
    omega

/-- The lower case of a letter or a number is made of such, but for the dot of a dotted capital I, and
it stays as it is. -/
theorem mem_lowerChar {c d : Char} (letter : isAlphanumeric c = true) (member : d ∈ lowerChar c) :
    Small d ∧ (isAlphanumeric d = true ∨ d = dotAbove) := by
  by_cases early : c.toNat < 0x80
  · have ascii : ∀ n < 0x80, isAlphanumeric (Char.ofNat n) = true →
        Small (Char.ofNat n).toLower ∧ isAlphanumeric (Char.ofNat n).toLower = true := by
      decide +kernel
    have found := ascii c.toNat early
    rw [Char.ofNat_toNat] at found
    simp only [lowerChar, early, if_true, List.mem_singleton] at member
    subst member
    exact ⟨(found letter).1, .inl (found letter).2⟩
  by_cases dotted : c.toNat = 0x130
  · have pair : lowerChar c = ['i', dotAbove] := by
      simp only [lowerChar, dotted]
      rfl
    rw [pair] at member
    simp only [List.mem_cons, List.not_mem_nil, or_false] at member
    rcases member with rfl | rfl
    · decide +kernel
    · exact ⟨by decide +kernel, .inr rfl⟩
  have undotted : (c.toNat == 0x130) = false := beq_eq_false_iff_ne.mpr dotted
  cases found : capitalRuns.find? (·.contains c.toNat) with
  | some run =>
    have capital : run.contains c.toNat = true := by simpa using List.find?_some found
    obtain ⟨small, alphanumeric⟩ := CapitalRun.char_small (List.mem_of_find?_eq_some found) capital
    simp only [lowerChar, early, undotted, found, if_false, Bool.false_eq_true,
      List.mem_singleton] at member
    subst member
    exact ⟨small, .inl alphanumeric⟩
  | none =>
    have kept : lowerChar c = [c] := by
      simp only [lowerChar, early, undotted, found, if_false, Bool.false_eq_true]
    rw [kept, List.mem_singleton] at member
    subst member
    refine ⟨⟨kept, fun sigma => ?_⟩, .inl letter⟩
    have listed : (capitalRuns.find? (·.contains 0x3A3)).isSome = true := by decide +kernel
    rw [← sigma, found] at listed
    cases listed

end HazardJob.Text
