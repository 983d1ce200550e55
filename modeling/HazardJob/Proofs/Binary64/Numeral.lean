import HazardJob.Binary64.Numeral
import HazardJob.Proofs.Text.Span

/-! The grammar of decimal numerals: a sign or none, digits with a point after, among or before them, and
an exponent or none. The scanner takes such a numeral off a text, and it takes every numeral in front of
what does not extend it. -/
namespace HazardJob.Binary64

/-- A sign or none; `true` is minus. -/
inductive SignText : Bool → List Char → Prop
  | none : SignText false []
  | plus : SignText false ['+']
  | minus : SignText true ['-']

/-- At least one digit. -/
def Digits (s : List Char) : Prop := s ≠ [] ∧ ∀ c ∈ s, c.isDigit = true

/-- The digits before and after the point, and the text of both. -/
inductive MantissaText : List Char → List Char → List Char → Prop
  | whole {w : List Char} : Digits w → MantissaText w [] w
  | pointed {w d : List Char} : Digits w → (∀ c ∈ d, c.isDigit = true) →
      MantissaText w d (w ++ '.' :: d)
  | fraction {d : List Char} : Digits d → MantissaText [] d ('.' :: d)

/-- A power of ten or none. -/
inductive ExponentText : Int → List Char → Prop
  | none : ExponentText 0 []
  | power {mark : Char} {negative : Bool} {sign digits : List Char} : mark = 'e' ∨ mark = 'E' →
      SignText negative sign → Digits digits →
      ExponentText (if negative then -(digitsValue digits : Int) else digitsValue digits)
        (mark :: (sign ++ digits))

/-- The texts of a number, up to the rounding of what they denote. -/
inductive Numeral : Binary64 → List Char → Prop
  | parts {negative : Bool} {whole decimals sign mantissa exponent : List Char} {power : Int} :
      SignText negative sign → MantissaText whole decimals mantissa → ExponentText power exponent →
      Numeral (ofParts negative whole decimals power) (sign ++ (mantissa ++ exponent))

/-- A text that continues neither the digits of a mantissa nor the mantissa. -/
def StopsMantissa (rest : List Char) : Prop :=
  ∀ c, rest.head? = some c → c.isDigit = false ∧ c ≠ '.'

/-- A text that does not extend a numeral in front of it. -/
def StopsNumeral (rest : List Char) : Prop :=
  ∀ c, rest.head? = some c → c.isDigit = false ∧ c ≠ '.' ∧ c ≠ 'e' ∧ c ≠ 'E'

theorem StopsNumeral.nil : StopsNumeral [] := by
  intro c first
  cases first

section Digits

theorem digitRun_sound {s digits rest : List Char} (run : digitRun s = (digits, rest)) :
    s = digits ++ rest ∧ ∀ c ∈ digits, c.isDigit = true := by
  rw [digitRun, Prod.mk.injEq] at run
  obtain ⟨rfl, rfl⟩ := run
  exact ⟨List.takeWhile_append_dropWhile.symm, fun c member =>
    List.all_eq_true.mp List.all_takeWhile c member⟩

theorem digitRun_complete {digits rest : List Char} (all : ∀ c ∈ digits, c.isDigit = true)
    (stops : ∀ c, rest.head? = some c → c.isDigit = false) :
    digitRun (digits ++ rest) = (digits, rest) := by
  rw [digitRun, Text.takeWhile_append all stops, Text.dropWhile_append all stops]

theorem Digits.exists_cons {s : List Char} (digits : Digits s) :
    ∃ d more, s = d :: more ∧ d.isDigit = true := by
  obtain ⟨d, more, rfl⟩ := List.exists_cons_of_ne_nil digits.1
  exact ⟨d, more, rfl, digits.2 d List.mem_cons_self⟩

theorem digit_not_sign {c : Char} (digit : c.isDigit = true) : c ≠ '-' ∧ c ≠ '+' := by
  constructor <;> (rintro rfl; cases digit)

end Digits

section Sign

/-- Whatever stands after it, the sign at the start of a text is one. -/
theorem signAt_sound (s : List Char) :
    ∃ sign, SignText (signAt s).1 sign ∧ s = sign ++ (signAt s).2 := by
  unfold signAt
  split
  · exact ⟨_, .minus, rfl⟩
  · exact ⟨_, .plus, rfl⟩
  · exact ⟨_, .none, rfl⟩

theorem signAt_complete {negative : Bool} {sign rest : List Char} (text : SignText negative sign)
    (stops : ∀ c, rest.head? = some c → c ≠ '-' ∧ c ≠ '+') :
    signAt (sign ++ rest) = (negative, rest) := by
  cases text with
  | plus => rfl
  | minus => rfl
  | none =>
    rw [List.nil_append]
    unfold signAt
    split
    · exact absurd rfl (stops _ rfl).1
    · exact absurd rfl (stops _ rfl).2
    · rfl

end Sign

section Mantissa

variable {whole decimals s rest : List Char}

theorem mantissaAt?_sound (found : mantissaAt? s = some (whole, decimals, rest)) :
    ∃ t, MantissaText whole decimals t ∧ s = t ++ rest := by
  unfold mantissaAt? at found
  split at found
  · rename_i after run
    obtain ⟨rfl, -⟩ := digitRun_sound run
    split at found
    · cases found
    · rename_i full inner
      cases found
      obtain ⟨rfl, all⟩ := digitRun_sound inner
      exact ⟨_, .fraction ⟨full, all⟩, rfl⟩
  · cases found
  · rename_i after full run
    cases found
    obtain ⟨rfl, all⟩ := digitRun_sound run
    have ⟨places, inside⟩ := digitRun_sound (Prod.eta (digitRun after)).symm
    exact ⟨_, .pointed ⟨full, all⟩ inside, by rw [List.append_assoc, List.cons_append, ← places]⟩
  · rename_i full noPoint run
    cases found
    obtain ⟨rfl, all⟩ := digitRun_sound run
    exact ⟨_, .whole ⟨full, all⟩, rfl⟩

theorem mantissaAt?_complete (text : MantissaText whole decimals s)
    (stops : StopsMantissa rest) : mantissaAt? (s ++ rest) = some (whole, decimals, rest) := by
  have ends : ∀ c, rest.head? = some c → c.isDigit = false := fun c first => (stops c first).1
  cases text with
  | whole full =>
    obtain ⟨d, more, rfl, -⟩ := full.exists_cons
    simp only [mantissaAt?, digitRun_complete full.2 ends]
    cases rest with
    | nil => rfl
    | cons c rest => simp [(stops c rfl).2]
  | pointed full inside =>
    obtain ⟨d, more, rfl, -⟩ := full.exists_cons
    have point : ∀ c, ('.' :: (decimals ++ rest)).head? = some c → c.isDigit = false := by
      intro c first
      cases first
      rfl
    rw [List.append_assoc]
    show mantissaAt? (d :: more ++ '.' :: (decimals ++ rest)) = _
    simp only [mantissaAt?, digitRun_complete full.2 point, digitRun_complete inside ends]
  | fraction full =>
    obtain ⟨d, more, rfl, -⟩ := full.exists_cons
    have none : digitRun ('.' :: (d :: more ++ rest)) = ([], '.' :: (d :: more ++ rest)) := rfl
    rw [List.cons_append]
    simp only [mantissaAt?, none, digitRun_complete full.2 ends]

/-- A mantissa starts with a digit or a point. -/
theorem MantissaText.head (text : MantissaText whole decimals s) :
    ∃ c rest, s = c :: rest ∧ c ≠ '-' ∧ c ≠ '+' := by
  cases text with
  | whole full =>
    obtain ⟨d, more, rfl, digit⟩ := full.exists_cons
    exact ⟨d, _, rfl, digit_not_sign digit⟩
  | pointed full places =>
    obtain ⟨d, more, rfl, digit⟩ := full.exists_cons
    exact ⟨d, _, rfl, digit_not_sign digit⟩
  | fraction full => exact ⟨_, _, rfl, by decide, by decide⟩

end Mantissa

section Exponent

variable {power : Int} {s rest : List Char}

theorem exponentAfter_sound (found : exponentAfter s = .value power rest) :
    ∃ negative sign digits, SignText negative sign ∧ Digits digits ∧
      power = (if negative then -(digitsValue digits : Int) else digitsValue digits) ∧
      s = sign ++ digits ++ rest := by
  obtain ⟨sign, signed, whole⟩ := signAt_sound s
  unfold exponentAfter at found
  dsimp only at found
  split at found
  · cases found
  · rename_i full run
    cases found
    obtain ⟨unsigned, all⟩ := digitRun_sound run
    exact ⟨_, sign, _, signed, ⟨full, all⟩, rfl, by rw [List.append_assoc, ← unsigned, ← whole]⟩

theorem exponentAfter_complete {negative : Bool} {sign digits : List Char}
    (signed : SignText negative sign) (full : Digits digits)
    (stops : ∀ c, rest.head? = some c → c.isDigit = false) :
    exponentAfter (sign ++ digits ++ rest) =
      .value (if negative then -(digitsValue digits : Int) else digitsValue digits) rest := by
  have run := digitRun_complete full.2 stops
  obtain ⟨d, more, rfl, digit⟩ := full.exists_cons
  have sign? : signAt (sign ++ (d :: more ++ rest)) = (negative, d :: more ++ rest) := by
    refine signAt_complete signed fun c first => ?_
    cases first
    exact digit_not_sign digit
  rw [List.append_assoc]
  simp only [exponentAfter, sign?, run]

/-- The exponent at the start of a text is one; none is there if nothing is found. -/
theorem exponentAt_sound (found : exponentAt s = .value power rest) :
    ∃ t, ExponentText power t ∧ s = t ++ rest := by
  have after (mark : Char) (t : List Char) (isMark : mark = 'e' ∨ mark = 'E')
      (found : exponentAfter t = .value power rest) :
      ∃ u, ExponentText power u ∧ mark :: t = u ++ rest := by
    obtain ⟨negative, sign, digits, signed, full, rfl, rfl⟩ := exponentAfter_sound found
    exact ⟨_, .power isMark signed full, rfl⟩
  unfold exponentAt at found
  split at found
  · exact after _ _ (.inl rfl) found
  · exact after _ _ (.inr rfl) found
  · cases found

theorem exponentAt_complete (text : ExponentText power s) (stops : StopsNumeral rest) :
    s = [] ∧ power = 0 ∧ exponentAt (s ++ rest) = .absent ∨
      exponentAt (s ++ rest) = .value power rest := by
  cases text with
  | none =>
    refine .inl ⟨rfl, rfl, ?_⟩
    rw [List.nil_append]
    unfold exponentAt
    split
    · exact absurd rfl (stops _ rfl).2.2.1
    · exact absurd rfl (stops _ rfl).2.2.2
    · rfl
  | power isMark signed full =>
    have read := exponentAfter_complete signed full fun c first => (stops c first).1
    refine .inr ?_
    rcases isMark with rfl | rfl <;> exact read

/-- An exponent does not extend the mantissa in front of it. -/
theorem ExponentText.stopsMantissa (text : ExponentText power s) (stops : StopsNumeral rest) :
    StopsMantissa (s ++ rest) := by
  intro c first
  cases text with
  | none => exact ⟨(stops c first).1, (stops c first).2.1⟩
  | power isMark _ _ =>
    cases first
    rcases isMark with rfl | rfl <;> decide

end Exponent

section Scan

variable {x : Binary64} {s t rest : List Char}

/-- What is scanned as a number is a numeral of it. -/
theorem scan_sound (found : scan s = .number x rest) : ∃ t, Numeral x t ∧ s = t ++ rest := by
  obtain ⟨sign, signed, whole⟩ := signAt_sound s
  unfold scan at found
  dsimp only at found
  split at found
  · cases found
  · rename_i integral decimals after mantissa
    obtain ⟨digits, text, unsigned⟩ := mantissaAt?_sound mantissa
    rw [whole, unsigned]
    split at found
    · cases found
      exact ⟨_, .parts signed text .none, by simp⟩
    · cases found
    · rename_i power left exponent
      cases found
      obtain ⟨raised, text', rfl⟩ := exponentAt_sound exponent
      exact ⟨_, .parts signed text text', by simp⟩

/-- A numeral is scanned in front of everything that does not extend it. -/
theorem scan_complete (numeral : Numeral x t) (stops : StopsNumeral rest) :
    scan (t ++ rest) = .number x rest := by
  cases numeral with
  | @parts negative whole decimals sign mantissa exponent power signed text raised =>
    obtain ⟨c, more, starts, unsigned⟩ := text.head
    have sign? : signAt (sign ++ (mantissa ++ (exponent ++ rest))) =
        (negative, mantissa ++ (exponent ++ rest)) := by
      refine signAt_complete signed fun d first => ?_
      rw [starts] at first
      cases first
      exact unsigned
    have mantissa? := mantissaAt?_complete text (raised.stopsMantissa stops)
    rw [List.append_assoc, List.append_assoc]
    rcases exponentAt_complete raised stops with ⟨rfl, rfl, absent⟩ | value
    · simp only [scan, sign?, mantissa?, absent]
      rfl
    · simp only [scan, sign?, mantissa?, value]

/-- A whole text is scanned as a number exactly if it is a numeral of it. -/
theorem scan_iff : scan t = .number x [] ↔ Numeral x t := by
  constructor
  · intro found
    obtain ⟨read, numeral, whole⟩ := scan_sound found
    rwa [whole, List.append_nil]
  · intro numeral
    have read := scan_complete numeral .nil
    rwa [List.append_nil] at read

end Scan

end HazardJob.Binary64
