import HazardJob.Proofs.Imt.Grammar
import HazardJob.Proofs.Param.Items

/-! Lists of intensity measures in any spelling. Between measures stand commas and white space, which
may also stand among the arguments of a measure. There they are in parentheses, so a list is cut into
the texts that it was put together from. -/
namespace HazardJob

namespace Imt

open Reading

section Parentheses

theorem flat_digits {s : List Char} (digits : ∀ c ∈ s, c.isDigit = true) : Rule.Flat s := by
  intro c member
  have digit := digits c member
  constructor <;> (rintro rfl; cases digit)

theorem flat_sign {negative : Bool} {s : List Char} (sign : Binary64.SignText negative s) :
    Rule.Flat s := by
  cases sign with
  | none => exact List.forall_mem_nil _
  | plus => exact List.forall_mem_singleton.mpr (by decide)
  | minus => exact List.forall_mem_singleton.mpr (by decide)

theorem flat_mantissa {whole decimals s : List Char}
    (mantissa : Binary64.MantissaText whole decimals s) : Rule.Flat s := by
  cases mantissa with
  | whole digits => exact flat_digits digits.2
  | pointed digits places =>
    exact (flat_digits digits.2).append
      (List.forall_mem_cons.mpr ⟨by decide, flat_digits places⟩)
  | fraction places => exact List.forall_mem_cons.mpr ⟨by decide, flat_digits places.2⟩

theorem flat_exponent {power : Int} {s : List Char} (exponent : Binary64.ExponentText power s) :
    Rule.Flat s := by
  cases exponent with
  | none => exact List.forall_mem_nil _
  | power mark sign digits =>
    refine List.forall_mem_cons.mpr ⟨?_, (flat_sign sign).append (flat_digits digits.2)⟩
    rcases mark with rfl | rfl <;> decide

/-- A character that has a small letter for its lower case is no parenthesis. -/
theorem flat_letters {s word : List Char} (letters : s.map Char.toLower = word)
    (small : word.all Char.isLower = true) : Rule.Flat s := by
  intro c member
  have lower : c.toLower.isLower = true := by
    apply List.all_eq_true.mp small
    rw [← letters]
    exact List.mem_map_of_mem member
  constructor <;> (rintro rfl; cases lower)

theorem flat_argument {x : Binary64} {s : List Char} (argument : Argument x s) : Rule.Flat s := by
  cases argument with
  | numeral numeral =>
    obtain ⟨sign, mantissa, exponent⟩ := numeral
    exact (flat_sign sign).append ((flat_mantissa mantissa).append (flat_exponent exponent))
  | nan letters => exact flat_letters letters rfl
  | infinity letters => exact flat_letters letters rfl

theorem flat_layout {s : List Char} (layout : Layout s) : Rule.Flat s := by
  intro c member
  have blank := layout c member
  constructor <;> (rintro rfl; cases blank)

theorem flat_listed {numbers : List Binary64} {s : List Char} (listed : Listed Argument numbers s) :
    Rule.Flat s := by
  induction listed with
  | one argument => exact flat_argument argument
  | more argument before after _ ih =>
    exact (flat_argument argument).append ((flat_layout before).append
      (List.forall_mem_cons.mpr ⟨by decide, (flat_layout after).append ih⟩))

end Parentheses

theorem exists_calls {text : String} {imt : Imt} (read : ofText text = .ok imt) :
    ∃ family numbers, Calls text family numbers := by
  by_contra none
  push Not at none
  rw [ofText_of_no_call none] at read
  cases read

/-- A text that names a measure is kept in one piece. -/
theorem CallText.uncut {family : String} {numbers : Option (List Binary64)} {s : List Char}
    (text : CallText family numbers s) : Rule.Uncut s := by
  cases text with
  | alone proper => exact Rule.uncut_family proper
  | @applied numbers v t w proper before listed after =>
    have inside : Rule.Flat (v ++ (t ++ w)) :=
      (flat_layout before).append ((flat_listed listed).append (flat_layout after))
    simpa only [List.append_assoc] using Rule.uncut_call proper inside

theorem uncut_of_ofText {text : String} {imt : Imt} (bare : Text.trim text.toList = text.toList)
    (read : ofText text = .ok imt) : Rule.Uncut text.toList := by
  obtain ⟨family, numbers, calls⟩ := exists_calls read
  rw [Calls, bare] at calls
  exact calls.uncut

end Imt

namespace Rule

/-- Commas, spaces, tabs and line feeds. -/
def Separators (s : List Char) : Prop := ∀ c ∈ s, c ∈ [',', ' ', '\t', '\n']

instance (s : List Char) : Decidable (Separators s) :=
  decidable_of_iff (s.all [',', ' ', '\t', '\n'].contains = true)
    (by simp only [Separators, List.all_eq_true, List.contains_iff_mem])

/-- Texts one after another, with separators between neighbours. -/
inductive Row : List String → List Char → Prop
  | one (text : String) : Row [text] text.toList
  | more {texts : List String} {s u : List Char} (text : String) : Separators s → s ≠ [] →
      Row texts u → Row (text :: texts) (text.toList ++ (s ++ u))

theorem Separators.isImtSeparator {s : List Char} (separators : Separators s) :
    ∀ c ∈ s, isImtSeparator c = true := by
  intro c member
  have known := separators c member
  simp only [List.mem_cons, List.not_mem_nil, or_false] at known
  rcases known with rfl | rfl | rfl | rfl <;> rfl

theorem imtItems_append_separators {s : List Char} (separators : Separators s) (rest : List Char) :
    imtItems (s ++ rest) = imtItems rest := by
  induction s with
  | nil => rfl
  | cons c s ih =>
    rw [List.cons_append,
      imtItems_cons_separator (separators.isImtSeparator c List.mem_cons_self),
      ih fun d member => separators d (List.mem_cons_of_mem _ member)]

theorem imtItems_append {t s : List Char} (uncut : Uncut t) (separators : Separators s)
    (some : s ≠ []) (rest : List Char) : imtItems (t ++ (s ++ rest)) = t :: imtItems rest := by
  obtain ⟨c, s, rfl⟩ := List.exists_cons_of_ne_nil some
  have first := separators.isImtSeparator c List.mem_cons_self
  rw [List.cons_append, imtItems_append_cons uncut first,
    imtItems_append_separators fun d member => separators d (List.mem_cons_of_mem _ member)]

section Row

variable {texts : List String} {u : List Char}

/-- A row of texts is cut into these texts, also with separators around it. -/
theorem Row.items {before after : List Char} (row : Row texts u)
    (uncut : ∀ text ∈ texts, Uncut text.toList) (leading : Separators before)
    (trailing : Separators after) :
    imtItems (before ++ (u ++ after)) = texts.map String.toList := by
  rw [imtItems_append_separators leading]
  induction row with
  | one text =>
    have whole := uncut text List.mem_cons_self
    by_cases none : after = []
    · rw [none, List.append_nil]
      exact imtItems_of_uncut whole
    · have cut := imtItems_append whole trailing none []
      rwa [List.append_nil] at cut
  | more text separators some _ ih =>
    have later := ih fun other member => uncut other (List.mem_cons_of_mem _ member)
    rw [List.append_assoc, List.append_assoc,
      imtItems_append (uncut text List.mem_cons_self) separators some, later, List.map_cons]

theorem Row.bare (row : Row texts u)
    (proper : ∀ text ∈ texts, text.toList ≠ [] ∧ Text.Bare Text.isBlank text.toList) :
    u ≠ [] ∧ Text.Bare Text.isBlank u := by
  induction row with
  | one text => exact proper text List.mem_cons_self
  | more text _ _ _ ih =>
    obtain ⟨full, first⟩ := proper text List.mem_cons_self
    obtain ⟨full', last⟩ := ih fun other member => proper other (List.mem_cons_of_mem _ member)
    exact ⟨List.append_ne_nil_of_left_ne_nil full _, first.append full last full' _⟩

end Row

/-- The word that stands for no value names no measure. -/
theorem texts_ne_none {texts : List String} {imts : List Imt}
    (read : texts.mapM Imt.ofText = .ok imts) : texts ≠ ["None"] := by
  rintro rfl
  obtain ⟨imt, -, found⟩ := ok_of_mem_mapM read List.mem_cons_self
  have refused : Imt.ofText "None" = .error (.unknown "None") := by decide +kernel
  rw [refused] at found
  cases found

/-- A trimmed text is read as the measures that it is cut into. -/
theorem read_imtList {texts : List String} {imts : List Imt} {text : String}
    (items : imtItems text.toList = texts.map String.toList)
    (read : texts.mapM Imt.ofText = .ok imts) : imtList.read text = .ok (.imts imts) := by
  have each : (texts.map String.toList).mapM (fun item =>
      (Imt.ofText (String.ofList item)).mapError Fault.badImt) = .ok imts := by
    rw [mapM_eq_ok_iff, List.forall₂_map_left_iff]
    refine (mapM_eq_ok_iff.mp read).imp fun text imt found => ?_
    rw [String.ofList_toList]
    exact mapError_eq_ok.mpr found
  simp only [Rule.read, items, each]
  rfl

/-- A list of measures is read as these measures, in order and as often as they are named, whatever
separators stand between and around them and however each measure is spelled. -/
theorem coerce_row {texts : List String} {imts : List Imt} {before u after : List Char}
    (bare : ∀ text ∈ texts, Text.trim text.toList = text.toList)
    (named : List.Forall₂ (fun text imt => Imt.ofText text = .ok imt) texts imts)
    (row : Row texts u) (leading : Separators before) (trailing : Separators after) :
    imtList.coerce (some (String.ofList (before ++ (u ++ after)))) = .ok (.imts imts) := by
  have read : texts.mapM Imt.ofText = .ok imts := mapM_eq_ok_iff.mpr named
  have uncut : ∀ text ∈ texts, Uncut text.toList := by
    intro text member
    obtain ⟨imt, -, found⟩ := ok_of_mem_mapM read member
    exact Imt.uncut_of_ofText (bare text member) found
  obtain ⟨full, ends⟩ := row.bare fun text member =>
    ⟨(uncut text member).full, bare text member ▸ Text.bare_trimBy _ _⟩
  -- Trimming takes white space off the separators around the row, and they stay separators.
  have leading' : Separators (before.dropWhile Text.isBlank) := fun c member =>
    leading c ((List.dropWhile_suffix _).mem member)
  have trailing' : Separators (Text.dropEndWhile Text.isBlank after) := fun c member =>
    trailing c (Text.dropEndWhile_prefix.mem member)
  have items : imtItems (String.ofList (Text.trim (before ++ (u ++ after)))).toList =
      texts.map String.toList := by
    rw [String.toList_ofList, Text.trim, ends.trimBy_between full]
    exact row.items uncut leading' trailing'
  have some : String.ofList (Text.trim (before ++ (u ++ after))) ≠ "None" := by
    intro none
    have alone : imtItems "None".toList = ["None"].map String.toList := rfl
    rw [none, alone] at items
    exact texts_ne_none read (List.map_injective_iff.mpr (fun _ _ => String.toList_injective) items).symm
  simp only [coerce, String.toList_ofList, beq_iff_eq, some, if_false]
  exact read_imtList items read

/-- A comma and a line feed among arguments, and a measure that is named twice. -/
theorem coerce_row_repeated : ∃ drift : Imt, Imt.ofText "SDi(0.5,\n2)" = .ok drift ∧
    imtList.coerce (some ",PGA, SDi(0.5,\n2)\tPGA ") =
      .ok (.imts [.scalar .pga, drift, .scalar .pga]) := by
  have peak : Imt.ofText "PGA" = .ok (.scalar .pga) := by decide +kernel
  have drift : Imt.ofText "SDi(0.5,\n2)" =
      .ok (.inelastic ⟨0x3FE0000000000000, by decide⟩ (.ofDecimal false 2 0)) := by decide +kernel
  have bare : ∀ text ∈ ["PGA", "SDi(0.5,\n2)", "PGA"], Text.trim text.toList = text.toList := by
    intro text member
    simp only [List.mem_cons, List.not_mem_nil, or_false] at member
    rcases member with rfl | rfl | rfl <;> decide +kernel
  have row : Row ["PGA", "SDi(0.5,\n2)", "PGA"]
      ("PGA".toList ++ ([',', ' '] ++ ("SDi(0.5,\n2)".toList ++ (['\t'] ++ "PGA".toList)))) :=
    .more _ (by decide) (by simp) (.more _ (by decide) (by simp) (.one _))
  have written : ",PGA, SDi(0.5,\n2)\tPGA " = String.ofList ([','] ++
      ("PGA".toList ++ ([',', ' '] ++ ("SDi(0.5,\n2)".toList ++ (['\t'] ++ "PGA".toList))) ++
        [' '])) := by decide +kernel
  refine ⟨_, drift, ?_⟩
  rw [written]
  exact coerce_row bare (.cons peak (.cons drift (.cons peak .nil))) row
    (by decide) (by decide)

end Rule
end HazardJob
