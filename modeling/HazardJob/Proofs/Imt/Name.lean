import HazardJob.Imt.Reader
import HazardJob.Proofs.Reading.Written
import HazardJob.Proofs.Text

/-! Names of intensity measures. The name of a measure is read back as that measure, unless one of
its arguments is written in a way that no number is read from. -/
namespace HazardJob

theorem ScalarMeasure.ofName?_name (measure : ScalarMeasure) :
    ScalarMeasure.ofName? measure.name = some measure := by
  cases measure <;> rfl

theorem PeriodFamily.ofName?_name (family : PeriodFamily) :
    PeriodFamily.ofName? family.name = some family := by
  cases family <;> rfl

namespace Period

theorem ofNumber?_value (p : Period) : ofNumber? p.value = some p := by
  simp [value, ofNumber?, p.finite]

theorem numberText_value (p : Period) :
    Reading.NumberText p.value p.value.pointedText.toList :=
  Reading.numberText_pointedText fun same => by cases same

end Period

namespace Imt

open Reading

/-- Every argument of the measure can be read from what it is written as. -/
def Readable : Imt → Prop
  | inelastic _ strength => strength ≠ Binary64.infinity true
  | _ => True

instance (imt : Imt) : Decidable imt.Readable := by
  unfold Readable
  cases imt <;> infer_instance

section Characters

/-- A character of the name of a measure. -/
def isNameChar (c : Char) : Bool := c.isAlphanum || ['(', ')', ',', '.', '-'].contains c

theorem isNameChar_of_isNumberChar {c : Char} (number : Binary64.isNumberChar c = true) :
    isNameChar c = true := by
  simp only [Binary64.isNumberChar, Bool.or_eq_true, beq_iff_eq, List.contains_iff_mem] at number
  rcases number with ((digit | rfl) | rfl) | letter
  · simp [isNameChar, Char.isAlphanum, digit]
  · rfl
  · rfl
  · simp only [List.mem_cons, List.not_mem_nil, or_false] at letter
    rcases letter with rfl | rfl | rfl | rfl | rfl <;> rfl

/-- A letter followed by letters and digits. -/
def isIdentifier : List Char → Bool
  | c :: rest => c.isAlpha && rest.all Char.isAlphanum
  | [] => false

theorem isIdentifier_family (imt : Imt) : isIdentifier imt.family.toList = true := by
  cases imt with
  | scalar measure => cases measure <;> rfl
  | spectral known period =>
    show isIdentifier known.name.toList = true
    cases known <;> rfl
  | inelastic period strength => exact (rfl : isIdentifier inelasticFamily.toList = true)

theorem isAlphanum_of_isIdentifier {s : List Char} (proper : isIdentifier s = true) :
    ∀ c ∈ s, c.isAlphanum = true := by
  cases s with
  | nil => cases proper
  | cons c rest =>
    rw [isIdentifier, Bool.and_eq_true] at proper
    intro d member
    rcases List.mem_cons.mp member with rfl | member
    · simp [Char.isAlphanum, proper.1]
    · exact List.all_eq_true.mp proper.2 d member

/-- What stands between the parentheses of a name. -/
def argumentText : Imt → Option (List Char)
  | scalar _ => none
  | spectral _ period => some period.value.pointedText.toList
  | inelastic period strength =>
    some (period.value.pointedText.toList ++ ',' :: strength.pointedText.toList)

theorem toList_name (imt : Imt) : imt.name.toList =
    imt.family.toList ++ (imt.argumentText.map fun s => '(' :: (s ++ [')'])).getD [] := by
  cases imt with
  | scalar measure => simp [name, family, argumentText]
  | spectral known period => simp [name, family, argumentText]
  | inelastic period strength => simp [name, family, argumentText]

theorem mem_argumentText {imt : Imt} {s : List Char} (arguments : imt.argumentText = some s) :
    ∀ c ∈ s, Binary64.isNumberChar c = true ∨ c = ',' := by
  intro c member
  cases imt with
  | scalar measure => cases arguments
  | spectral known period =>
    cases arguments
    exact .inl (Binary64.mem_pointedText member)
  | inelastic period strength =>
    cases arguments
    rcases List.mem_append.mp member with first | second
    · exact .inl (Binary64.mem_pointedText first)
    · rcases List.mem_cons.mp second with comma | second
      · exact .inr comma
      · exact .inl (Binary64.mem_pointedText second)

theorem mem_name {imt : Imt} {c : Char} (member : c ∈ imt.name.toList) : isNameChar c = true := by
  rw [toList_name] at member
  rcases List.mem_append.mp member with family | arguments
  · simp [isNameChar, isAlphanum_of_isIdentifier (isIdentifier_family imt) c family]
  · cases written : imt.argumentText with
    | none => simp [written] at arguments
    | some s =>
      simp only [written, Option.map_some, Option.getD_some, List.mem_cons, List.mem_append,
        List.not_mem_nil, or_false] at arguments
      rcases arguments with rfl | inside | rfl
      · rfl
      · rcases mem_argumentText written c inside with number | rfl
        · exact isNameChar_of_isNumberChar number
        · rfl
      · rfl

theorem isNameChar_bounds {c : Char} (plain : isNameChar c = true) :
    40 ≤ c.toNat ∧ c.toNat ≤ 122 := by
  simp only [isNameChar, Char.isAlphanum, Char.isAlpha, Char.isUpper, Char.isLower, Char.isDigit,
    Bool.or_eq_true, Bool.and_eq_true, decide_eq_true_eq, List.contains_iff_mem, ge_iff_le,
    UInt32.le_iff_toNat_le] at plain
  rcases plain with ((upper | lower) | digit) | mark
  · exact ⟨Nat.le_trans (by decide) upper.1, Nat.le_trans upper.2 (by decide)⟩
  · exact ⟨Nat.le_trans (by decide) lower.1, Nat.le_trans lower.2 (by decide)⟩
  · exact ⟨Nat.le_trans (by decide) digit.1, Nat.le_trans digit.2 (by decide)⟩
  · simp only [List.mem_cons, List.not_mem_nil, or_false] at mark
    rcases mark with rfl | rfl | rfl | rfl | rfl <;> decide

theorem isBlank_of_bounds {c : Char} (low : 33 ≤ c.toNat) (high : c.toNat ≤ 126) :
    Text.isBlank c = false := by
  simp [Text.isBlank]
  omega

theorem isBlank_of_isNameChar {c : Char} (plain : isNameChar c = true) :
    Text.isBlank c = false := by
  have bounds := isNameChar_bounds plain
  exact isBlank_of_bounds (by omega) (by omega)

/-- A name holds no white space. -/
theorem name_not_blank {imt : Imt} : ∀ c ∈ imt.name.toList, Text.isBlank c = false :=
  fun _ member => isBlank_of_isNameChar (mem_name member)

theorem name_ne_nil (imt : Imt) : imt.name.toList ≠ [] := by
  have proper := imt.isIdentifier_family
  rw [toList_name]
  intro nothing
  rw [(List.append_eq_nil_iff.mp nothing).1] at proper
  cases proper

/-- No measure is named like the absence of a value. -/
theorem name_ne_none (imt : Imt) : imt.name.toList ≠ "None".toList := by
  have marked (s : List Char) (written : imt.argumentText = some s) :
      '(' ∈ imt.name.toList := by
    rw [toList_name, written]
    simp
  intro same
  cases imt with
  | scalar measure => cases measure <;> revert same <;> decide
  | spectral known period =>
    have inside := marked _ rfl
    rw [same] at inside
    revert inside
    decide
  | inelastic period strength =>
    have inside := marked _ rfl
    rw [same] at inside
    revert inside
    decide

theorem name_plain (imt : Imt) : '"' ∉ imt.name.toList := by
  intro member
  have bounds := isNameChar_bounds (mem_name member)
  revert bounds
  decide

end Characters

section Reading

theorem number_complete : Complete number NumberText where
  reads _ _ _ text stops := number_append text stops
  starts _ _ text := by
    obtain ⟨c, rest, rfl, starts⟩ := text.head
    refine ⟨c, rest, rfl, ?_⟩
    cases blank : Text.isLayout c with
    | false => rfl
    | true =>
      simp only [Text.isLayout, Bool.or_eq_true, beq_iff_eq] at blank
      rcases blank with ((rfl | rfl) | rfl) | rfl <;> exact absurd starts (by decide)

theorem identifier_append {family rest : List Char} (proper : isIdentifier family = true)
    (stops : ∀ c, rest.head? = some c → c.isAlphanum = false) :
    identifier (family ++ rest) = .ok (String.ofList family) rest := by
  have all := isAlphanum_of_isIdentifier proper
  have taken : span Char.isAlphanum (family ++ rest) = .ok family rest := by
    rw [span, Text.takeWhile_append all stops, Text.dropWhile_append all stops]
  cases family with
  | nil => cases proper
  | cons c more =>
    rw [isIdentifier, Bool.and_eq_true] at proper
    rw [List.cons_append] at taken ⊢
    simp only [identifier, proper.1, if_true, taken, Outcome.map]

theorem stopsLayout_parenthesis (rest : List Char) : StopsLayout (')' :: rest) := by
  intro c first
  cases first
  rfl

/-- Arguments are read from the numbers that they list, with layout around these. -/
theorem arguments_listed {numbers : List Binary64} {v t w : List Char} (before : Layout v)
    (listed : Listed NumberText numbers t) (after : Layout w) (rest : List Char) :
    arguments ('(' :: (v ++ (t ++ (w ++ ')' :: rest)))) = .ok numbers rest := by
  have stops := stopsLayout_parenthesis rest
  have ends : EndsList number (w ++ ')' :: rest) :=
    endsList_of_misses (comma_misses after stops (by simp))
  have numeral : Binary64.StopsNumeral (w ++ ')' :: rest) := by
    refine stopsNumeral_layout after fun c first => ?_
    cases first
    decide
  unfold arguments
  rw [bind_of_ok (char_ok.mpr rfl),
    bind_of_ok (layout_append before (listed.stopsLayout number_complete _)),
    bind_of_ok (separated1_append number_complete listed ends numeral),
    bind_of_ok (layout_append after stops), bind_of_ok (char_ok.mpr rfl)]
  rfl

/-- A second argument that is no number leaves the arguments unread. -/
theorem arguments_broken {x : Binary64} {s t : List Char} (text : NumberText x s)
    (stops : StopsLayout t) (misses : Misses number t) :
    Misses arguments ('(' :: (s ++ ',' :: t)) := by
  have separator : comma (',' :: t) = .ok () t :=
    comma_append (v := []) (w := []) (by simp [Layout]) (by simp [Layout]) stops
  have stopsComma : StopsLayout (',' :: t) := by
    intro c first
    cases first
    rfl
  obtain ⟨trace, miss⟩ := char_misses (c := ')') (s := ',' :: t) (by simp)
  refine ⟨trace, ?_⟩
  unfold arguments
  rw [bind_of_ok (char_ok.mpr rfl),
    bind_of_ok (layout_nothing (number_complete.stopsLayout text _)),
    bind_of_ok (separated1_append number_complete (.one text)
      (endsList_of_lastComma separator misses) (stopsNumeral_comma t)),
    bind_of_ok (layout_nothing stopsComma), bind_apply, miss]
  rfl

/-- A measure as a family with arguments. -/
def numbers : Imt → Option (List Binary64)
  | scalar _ => none
  | spectral _ period => some [period.value]
  | inelastic period strength => some [period.value, strength]

theorem ofCall?_numbers (imt : Imt) (text : String) :
    ofCall? imt.family imt.numbers text = some (.ok imt) := by
  cases imt with
  | scalar measure => simp [numbers, ofCall?, family, ScalarMeasure.ofName?_name]
  | spectral known period =>
    simp [numbers, ofCall?, family, PeriodFamily.ofName?_name, spectral?, Period.ofNumber?_value]
  | inelastic period strength =>
    have unknown : PeriodFamily.ofName? inelasticFamily = none := rfl
    simp [numbers, ofCall?, family, unknown, Period.ofNumber?_value]

theorem listed_argumentText {imt : Imt} (readable : imt.Readable) {s : List Char}
    (written : imt.argumentText = some s) :
    ∃ xs, imt.numbers = some xs ∧ Listed NumberText xs s := by
  cases imt with
  | scalar measure => cases written
  | spectral known period =>
    cases written
    exact ⟨_, rfl, .one period.numberText_value⟩
  | inelastic period strength =>
    cases written
    exact ⟨_, rfl, .more (v := []) (w := []) period.numberText_value (by simp [Layout])
      (by simp [Layout]) (.one (numberText_pointedText readable))⟩

/-- A family without arguments is a call of the family. -/
theorem call_alone {family : List Char} (proper : isIdentifier family = true) :
    call family = .ok (String.ofList family, none) [] := by
  have nothing : optional arguments [] = .ok none [] := rfl
  have read : identifier (family ++ []) = .ok (String.ofList family) [] :=
    identifier_append proper (by simp)
  rw [List.append_nil] at read
  unfold call
  rw [bind_of_ok read, bind_of_ok nothing]
  rfl

/-- A family with numbers in parentheses is a call of the family. -/
theorem call_applied {family v t w : List Char} {xs : List Binary64}
    (proper : isIdentifier family = true) (before : Layout v) (listed : Listed NumberText xs t)
    (after : Layout w) :
    call (family ++ '(' :: (v ++ (t ++ (w ++ [')'])))) = .ok (String.ofList family, some xs) [] := by
  have read : optional arguments ('(' :: (v ++ (t ++ (w ++ [')'])))) = .ok (some xs) [] := by
    simp only [Reading.optional, arguments_listed before listed after []]
  have stops (c : Char) (first : ('(' :: (v ++ (t ++ (w ++ [')'])))).head? = some c) :
      c.isAlphanum = false := by
    cases first
    rfl
  unfold call
  rw [bind_of_ok (identifier_append proper stops), bind_of_ok read]
  rfl

theorem call_listed {family t : List Char} (proper : isIdentifier family = true)
    {xs : List Binary64} (listed : Listed NumberText xs t) :
    call (family ++ '(' :: (t ++ [')'])) = .ok (String.ofList family, some xs) [] :=
  call_applied (v := []) (w := []) proper (by simp [Layout]) listed (by simp [Layout])

/-- The name of a measure is a call of its family. -/
theorem call_name {imt : Imt} (readable : imt.Readable) :
    call imt.name.toList = .ok (imt.family, imt.numbers) [] := by
  rw [toList_name]
  cases written : imt.argumentText with
  | none =>
    have scalar : imt.numbers = none := by cases imt <;> first | rfl | cases written
    rw [Option.map_none, Option.getD_none, List.append_nil, call_alone (isIdentifier_family imt),
      String.ofList_toList, scalar]
  | some s =>
    obtain ⟨xs, given, listed⟩ := listed_argumentText readable written
    rw [Option.map_some, Option.getD_some, call_listed (isIdentifier_family imt) listed,
      String.ofList_toList, given]

theorem trim_name (imt : Imt) : Text.trim imt.name.toList = imt.name.toList :=
  (Text.Bare.of_forall name_not_blank).trimBy

/-- The name of a measure is read back as the measure. -/
theorem ofText_name {imt : Imt} (readable : imt.Readable) : ofText imt.name = .ok imt := by
  simp only [ofText, trim_name, readAll, call_name readable, ofCall?_numbers, Option.getD_some]

/-- A name with an argument that is written like no number is read as no measure. -/
theorem ofText_name_unreadable {imt : Imt} (unreadable : ¬imt.Readable) :
    ofText imt.name = .error (.unknown imt.name) := by
  cases imt with
  | scalar measure => exact absurd trivial unreadable
  | spectral known period => exact absurd trivial unreadable
  | inelastic period strength =>
    obtain rfl : strength = Binary64.infinity true := Decidable.not_not.mp unreadable
    have written : (Binary64.infinity true).pointedText.toList = ['-', 'i', 'n', 'f'] := rfl
    obtain ⟨trace, miss⟩ := arguments_broken (t := ['-', 'i', 'n', 'f', ')'])
      period.numberText_value (fun c first => by cases first; rfl)
      (number_minusInfinity [')'])
    have skipped : optional arguments
        ('(' :: (period.value.pointedText.toList ++ ',' :: ['-', 'i', 'n', 'f', ')'])) = .ok none
        ('(' :: (period.value.pointedText.toList ++ ',' :: ['-', 'i', 'n', 'f', ')'])) := by
      simp only [Reading.optional, miss]
    have stops (c : Char) (first : ('(' :: (period.value.pointedText.toList ++
        ',' :: ['-', 'i', 'n', 'f', ')'])).head? = some c) : c.isAlphanum = false := by
      cases first
      rfl
    have read : call (inelastic period (Binary64.infinity true)).name.toList =
        .ok (inelasticFamily, none)
          ('(' :: (period.value.pointedText.toList ++ ',' :: ['-', 'i', 'n', 'f', ')'])) := by
      have whole : (inelastic period (Binary64.infinity true)).name.toList =
          inelasticFamily.toList ++ '(' :: (period.value.pointedText.toList ++
            ',' :: ['-', 'i', 'n', 'f', ')']) := by
        simp [toList_name, family, argumentText, written]
      unfold call
      rw [whole, bind_of_ok (identifier_append rfl stops), bind_of_ok skipped,
        String.ofList_toList]
      rfl
    simp only [ofText, trim_name, readAll, read]

theorem ofText_name_iff {imt : Imt} : ofText imt.name = .ok imt ↔ imt.Readable := by
  refine ⟨fun read => Decidable.not_not.mp fun unreadable => ?_, ofText_name⟩
  rw [ofText_name_unreadable unreadable] at read
  cases read

end Reading

end Imt
end HazardJob
