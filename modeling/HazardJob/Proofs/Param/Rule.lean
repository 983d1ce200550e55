import HazardJob.Proofs.Param.Items
import HazardJob.Proofs.Param.Mapping

/-! Rules and the texts of the values that they read. A rule reads a value back from its text exactly
if the value is legible. Only two values are written like the absence of one. -/
namespace HazardJob

theorem Binary64.beq_self {x : Binary64} (number : x ≠ .nan) : (x == x) = true := by
  cases x with
  | nan => exact absurd rfl number
  | signed negative pattern bounded => exact beq_self_eq_true (position negative pattern)

theorem Binary64.beq_nan (x : Binary64) : (x == .nan) = false := by
  cases x <;> rfl

theorem Binary64.ne_nan_of_isFinite {x : Binary64} (finite : x.isFinite = true) : x ≠ .nan := by
  rintro rfl
  cases finite

theorem Path.beq_self (p : Path) : (p == p) = true := decide_eq_true rfl

theorem beq_self_of_forall {α : Type} [BEq α] (xs : List α) (each : ∀ x ∈ xs, (x == x) = true) :
    (xs == xs) = true := by
  induction xs with
  | nil => rfl
  | cons x more ih =>
    rw [List.cons_beq_cons, each x List.mem_cons_self,
      ih fun y member => each y (List.mem_cons_of_mem _ member)]
    rfl

theorem exists_of_beq {α : Type} [BEq α] {xs ys : List α} (same : (xs == ys) = true) {y : α}
    (member : y ∈ ys) : ∃ x ∈ xs, (x == y) = true := by
  induction xs generalizing ys with
  | nil =>
    cases ys with
    | nil => cases member
    | cons z ys => cases same
  | cons x xs ih =>
    cases ys with
    | nil => cases same
    | cons z ys =>
      rw [List.cons_beq_cons, Bool.and_eq_true] at same
      rcases List.mem_cons.mp member with rfl | member
      · exact ⟨x, List.mem_cons_self, same.1⟩
      · obtain ⟨w, inside, found⟩ := ih same.2 member
        exact ⟨w, List.mem_cons_of_mem _ inside, found⟩

theorem map_fst_of_beq {α β : Type} [BEq α] [LawfulBEq α] [BEq β] {es fs : List (α × β)}
    (same : (es == fs) = true) : es.map (·.1) = fs.map (·.1) := by
  induction es generalizing fs with
  | nil =>
    cases fs with
    | nil => rfl
    | cons f fs => cases same
  | cons e es ih =>
    cases fs with
    | nil => cases same
    | cons f fs =>
      rw [List.cons_beq_cons, Bool.and_eq_true] at same
      have first : (e.1 == f.1 && e.2 == f.2) = true := same.1
      rw [Bool.and_eq_true] at first
      rw [List.map_cons, List.map_cons, eq_of_beq first.1, ih same.2]

namespace ParamValue

/-- Everything in the text of the value is read as it was, and as something equal to it. -/
def Legible : ParamValue → Prop
  | imtLevels spec => ∀ e ∈ spec.toList, e.1.Readable
  | imts measures => ∀ imt ∈ measures, imt.Readable
  | imtFloats values => ∀ e ∈ values.toList, Rule.ReadableEntry e ∧ e.2 ≠ .nan
  | distance (.byRegion distances) => ∀ key ∈ distances.keys, '"' ∉ key.toList
  | _ => True

end ParamValue

section Results

variable {ε α β : Type} {wrap : α → β} {b : β}

theorem fmap_eq_ok {x : Except ε α} : wrap <$> x = .ok b ↔ ∃ a, x = .ok a ∧ wrap a = b := map_eq_ok

/-- What is read and not refused is the result. -/
theorem unless_eq_ok {x : Except ε α} {refused : α → Prop} [DecidablePred refused] {fault : α → ε} :
    (do let a ← x; if refused a then throw (fault a) else return wrap a) = Except.ok b ↔
      ∃ a, x = .ok a ∧ ¬refused a ∧ wrap a = b := by
  rw [bind_eq_ok]
  refine exists_congr fun a => and_congr_right fun _ => ?_
  by_cases bad : refused a
  · simp [bad, throw, throwThe, MonadExceptOf.throw]
  · simp [bad, pure, Except.pure]

end Results

namespace Rule

open Reading

/-- What a value that a rule has read has to do with its text. -/
structure Returns (rule : Rule) (v : ParamValue) : Prop where
  bare : Text.Bare Text.isBlank v.raw.toList
  null : v.raw = "None" → v = .text "None" ∨ v = .texts ["None"]
  read : v.Legible → rule.read v.raw = .ok v
  equal : v.Legible → (v == v) = true
  other : ¬v.Legible → ∀ w, rule.read v.raw = .ok w → (w == v) = false

/-- A value that is legible in any case. -/
theorem Returns.of_read {rule : Rule} {v : ParamValue} (legible : v.Legible)
    (bare : Text.Bare Text.isBlank v.raw.toList) (read : rule.read v.raw = .ok v)
    (equal : (v == v) = true) (never : ∀ w, rule.read "None" ≠ .ok w) : Returns rule v where
  bare := bare
  null same := absurd (same ▸ read) (never v)
  read _ := read
  equal _ := equal
  other illegible := absurd legible illegible

section Scalars

theorem bare_of_numberChars {s : List Char} (number : ∀ c ∈ s, Binary64.isNumberChar c = true) :
    Text.Bare Text.isBlank s :=
  .of_forall fun c member => (Binary64.isNumberChar_plain (number c member)).1

theorem bare_natural (n : Nat) : Text.Bare Text.isBlank (toString n).toList := by
  refine bare_of_numberChars fun c member => ?_
  rw [toList_toString] at member
  simp [Binary64.isNumberChar, Binary64.isDigit_toDigits member]

theorem boolean_returns (b : Bool) : Returns boolean (.bool b) := by
  refine .of_read trivial ?_ ?_ ?_ fun w read => by cases read
  · cases b <;> exact .of_all rfl
  · cases b <;> rfl
  · cases b <;> rfl

theorem int_returns {rule : Rule} {n : UInt64}
    (read : rule.read (toString n.toNat) = .ok (.int n)) (never : ∀ w, rule.read "None" ≠ .ok w) :
    Returns rule (.int n) :=
  .of_read trivial (bare_natural _) read (beq_self_eq_true n) never

theorem nonNegativeInt_returns (n : UInt64) : Returns nonNegativeInt (.int n) := by
  refine int_returns ?_ fun w read => by cases read
  exact fmap_eq_ok.mpr ⟨n, naturalOf_toString n, rfl⟩

theorem positiveInt_returns {n : UInt64} (positive : ¬(n == 0) = true) :
    Returns positiveInt (.int n) := by
  refine int_returns ?_ fun w read => by cases read
  exact unless_eq_ok.mpr ⟨n, naturalOf_toString n, positive, rfl⟩

theorem float_returns {rule : Rule} {x : Binary64} (finite : x.isFinite = true)
    (read : rule.read x.text = .ok (.float x)) (never : ∀ w, rule.read "None" ≠ .ok w) :
    Returns rule (.float x) :=
  .of_read trivial (bare_of_numberChars fun _ => Binary64.mem_text) read
    (Binary64.beq_self (Binary64.ne_nan_of_isFinite finite)) never

theorem positiveFloat_returns {x : Binary64} (finite : x.isFinite = true)
    (positive : ¬x.numericLe .zero = true) : Returns positiveFloat (.float x) := by
  refine float_returns finite ?_ fun w read => by cases read
  exact unless_eq_ok.mpr ⟨x, numberOf_text finite, positive, rfl⟩

theorem nonNegativeFloat_returns {x : Binary64} (finite : x.isFinite = true)
    (positive : ¬x.numericLt .zero = true) : Returns nonNegativeFloat (.float x) := by
  refine float_returns finite ?_ fun w read => by cases read
  exact unless_eq_ok.mpr ⟨x, numberOf_text finite, positive, rfl⟩

theorem correlationModel_returns (model : CorrelationModel) :
    Returns correlationModel (.correlation model) := by
  refine .of_read trivial ?_ ?_ (beq_self_eq_true model) fun w read => by cases read
  · cases model <;> exact .of_all rfl
  · cases model <;> rfl

theorem calculationMode_returns (mode : CalculationMode) : Returns calculationMode (.mode mode) := by
  refine .of_read trivial ?_ ?_ (beq_self_eq_true mode) fun w read => by cases read
  · cases mode <;> exact .of_all rfl
  · cases mode <;> rfl

theorem vs30Type_returns (kind : Vs30Type) : Returns vs30Type (.vs30Type kind) := by
  refine .of_read trivial ?_ ?_ (beq_self_eq_true kind) fun w read => by cases read
  · cases kind <;> exact .of_all rfl
  · cases kind <;> rfl

end Scalars

section Lists

theorem toList_joinSpaces (names : List String) :
    (Text.join " " names).toList = [' '].intercalate (names.map String.toList) :=
  Text.toList_join " " names

theorem items_joinSpaces {names : List String} (plain : ∀ name ∈ names, PlainItem name.toList) :
    (listItems (Text.join " " names).toList).map String.ofList = names := by
  rw [toList_joinSpaces, listItems_join (by simpa using plain), List.map_map]
  simp [Function.comp_def]

theorem bare_joinSpaces {names : List String} (plain : ∀ name ∈ names, PlainItem name.toList) :
    Text.Bare Text.isBlank (Text.join " " names).toList := by
  rw [toList_joinSpaces]
  exact trim_join (by simpa using plain)

theorem probabilities_returns {xs : List Binary64} (proper : ∀ x ∈ xs, x.isFinite = true ∧
    isBetween .zero (.ofDecimal false 1 0) x = true) : Returns probabilities (.floats xs) := by
  have plain : ∀ name ∈ xs.map (·.text), PlainItem name.toList := by
    intro name member
    obtain ⟨x, inside, rfl⟩ := List.mem_map.mp member
    exact plainItem_text (proper x inside).1
  have read : (xs.map (·.text)).mapM probabilityOf = .ok (xs.map id) :=
    mapM_map_ok fun x member => probabilityOf_text (proper x member).1 (proper x member).2
  rw [List.map_id] at read
  refine .of_read trivial (bare_joinSpaces plain) ?_ ?_ fun w read => by cases read
  · show ParamValue.floats <$> ((listItems (Text.join " " (xs.map (·.text))).toList).map
      String.ofList).mapM probabilityOf = _
    rw [items_joinSpaces plain, read]
    rfl
  · exact beq_self_of_forall _ fun x member =>
      Binary64.beq_self (Binary64.ne_nan_of_isFinite (proper x member).1)

theorem none_of_join {names : List String} (plain : ∀ name ∈ names, PlainItem name.toList)
    (same : Text.join " " names = "None") : names = ["None"] := by
  have items := items_joinSpaces plain
  rw [same] at items
  rw [← items]
  rfl

/-- Names of a rule that asks each of them for `p`. -/
theorem names_returns {rule : Rule} {p : String → Bool} {fault : String → Fault}
    (reads : ∀ text, rule.read text =
      ParamValue.texts <$> namesOf p fault ((listItems text.toList).map String.ofList))
    {names : List String} (plain : ∀ name ∈ names, PlainItem name.toList)
    (all : ∀ name ∈ names, p name = true) : Returns rule (.texts names) where
  bare := bare_joinSpaces plain
  null same := .inr (by rw [none_of_join plain same])
  read _ := by
    rw [reads]
    show ParamValue.texts <$> namesOf p fault ((listItems (Text.join " " names).toList).map
      String.ofList) = _
    rw [items_joinSpaces plain, namesOf_of all]
    rfl
  equal _ := beq_self_eq_true names
  other illegible := absurd trivial illegible

theorem plainItem_of_listItems {text : List Char} {name : String}
    (member : name ∈ (listItems text).map String.ofList)
    (brackets : ∀ c ∈ name.toList, c ≠ '[' ∧ c ≠ ']') : PlainItem name.toList := by
  obtain ⟨item, inside, rfl⟩ := List.mem_map.mp member
  rw [String.toList_ofList] at brackets ⊢
  obtain ⟨some, free⟩ := mem_listItems inside
  exact ⟨some, fun c member => ⟨free c member, brackets c member⟩⟩

theorem points_returns {rule : Rule} {points : List Point} (proper : ∀ p ∈ points, OnGlobe p)
    (read : rule.read (ParamValue.points points).raw = .ok (.points points))
    (never : ∀ w, rule.read "None" ≠ .ok w) : Returns rule (.points points) := by
  refine .of_read trivial ?_ read ?_ never
  · show Text.Bare Text.isBlank (Text.join ", " (points.map (·.text))).toList
    rw [Text.toList_join]
    refine Text.bare_intercalate _ fun part member => ?_
    rw [List.map_map] at member
    obtain ⟨p, inside, rfl⟩ := List.mem_map.mp member
    exact ⟨pointText_ne_nil (proper p inside), bare_pointText (proper p inside)⟩
  · refine beq_self_of_forall _ fun p member => ?_
    have parts : (p.lon == p.lon && p.lat == p.lat) = true := by
      rw [Binary64.beq_self (Binary64.ne_nan_of_isFinite (proper p member).lonFinite),
        Binary64.beq_self (Binary64.ne_nan_of_isFinite (proper p member).latFinite)]
      rfl
    exact parts

theorem coordinates_returns {points : List Point} (proper : ∀ p ∈ points, OnGlobe p) :
    Returns coordinates (.points points) := by
  refine points_returns proper ?_ fun w read => by cases read
  show ParamValue.points <$> pointsOf (Text.join ", " (points.map (·.text))) = _
  rw [pointsOf_text proper]
  rfl

theorem polygon_returns {points : List Point} (proper : ∀ p ∈ points, OnGlobe p)
    (corners : ¬points.length < 3) : Returns polygon (.points points) := by
  refine points_returns proper ?_ fun w read => by cases read
  exact unless_eq_ok.mpr ⟨points, pointsOf_text proper, corners, rfl⟩

end Lists

section Texts

theorem utf8_returns {text : String} (bare : Text.Bare Text.isBlank text.toList) :
    Returns utf8 (.text text) where
  bare := bare
  null same := .inl (congrArg _ same)
  read _ := rfl
  equal _ := beq_self_eq_true text
  other illegible := absurd trivial illegible

theorem path_returns {text : String} (bare : Text.Bare Text.isBlank text.toList)
    (some : text.isEmpty = false) (proper : text ≠ "None") : Returns path (.path ⟨text⟩) where
  bare := bare
  null same := absurd same proper
  read _ := by
    show (if text.isEmpty then .error .emptyPath else .ok (.path ⟨text⟩) :
      Except Fault ParamValue) = _
    rw [some]
    rfl
  equal _ := Path.beq_self ⟨text⟩
  other illegible := absurd trivial illegible

theorem gsimOf_ok {text name : String} (read : gsimOf text = .ok name) :
    isGsimName name.toList = true := by
  unfold gsimOf at read
  dsimp only at read
  split at read
  · rename_i proper
    cases read
    rwa [String.toList_ofList]
  · cases read

theorem isGsimName_char {name : List Char} (proper : isGsimName name = true) :
    ∀ c ∈ name, Text.isBlank c = false ∧ c ≠ '[' ∧ c ≠ ']' := by
  have kind : ∀ c ∈ name, (c.isAlphanum || c == '_') = true := by
    cases name with
    | nil => cases proper
    | cons first rest =>
      simp only [isGsimName, Bool.and_eq_true, List.all_eq_true] at proper
      intro c member
      rcases List.mem_cons.mp member with rfl | member
      · have start := proper.1
        simp only [Char.isAlphanum, Bool.or_eq_true] at start ⊢
        exact start.imp .inl id
      · exact proper.2 c member
  intro c member
  have plain := kind c member
  rw [Bool.or_eq_true] at plain
  refine ⟨?_, ?_, ?_⟩
  · rcases plain with letter | mark
    · have bounds := Imt.isNameChar_bounds (c := c) (by simp [Imt.isNameChar, letter])
      exact Imt.isBlank_of_bounds (by omega) (by omega)
    · rw [eq_of_beq mark]
      rfl
  · rintro rfl
    revert plain
    decide
  · rintro rfl
    revert plain
    decide

theorem gsim_returns {name : String} (proper : isGsimName name.toList = true) :
    Returns gsim (.text name) where
  bare := .of_forall fun c member => (isGsimName_char proper c member).1
  null same := .inl (congrArg _ same)
  read _ := by
    have kind := isGsimName_char proper
    have bare : Text.trim (Text.dropEndWhile (· == ']') (name.toList.dropWhile (· == '['))) =
        name.toList := by
      rw [Text.dropWhile_of_head fun c first =>
          beq_false_of_ne (kind c (List.mem_of_head? first)).2.1,
        Text.dropEndWhile_of_last fun c last =>
          beq_false_of_ne (kind c (List.mem_of_getLast? last)).2.2]
      exact (Text.Bare.of_forall fun c member => (kind c member).1).trimBy
    show ParamValue.text <$> gsimOf name = _
    unfold gsimOf
    rw [bare]
    simp only [proper, if_true, String.ofList_toList]
    rfl
  equal _ := beq_self_eq_true name
  other illegible := absurd trivial illegible

end Texts

section Measures

theorem bare_mappingText {β : Type} (key value : β → List Char) (es : List β) :
    Text.Bare Text.isBlank (Literal.mappingText key value es) := by
  constructor
  · intro c first
    cases first
    rfl
  · intro c last
    rw [Literal.mappingText, ← List.cons_append, List.getLast?_concat] at last
    cases last
    rfl

theorem ne_none_of_mappingText {β : Type} {key value : β → List Char} {es : List β} {s : String}
    (written : s.toList = Literal.mappingText key value es) : s ≠ "None" := by
  rintro rfl
  cases written

theorem imtLevels_returns {spec : ImtLevels} (proper : ∀ e ∈ spec.toList, ImtLevels.Proper e.2) :
    Returns imtLevels (.imtLevels spec) where
  bare := by
    show Text.Bare Text.isBlank spec.text.toList
    rw [ImtLevels.toList_text]
    exact bare_mappingText _ _ _
  null same := absurd same (ne_none_of_mappingText (ImtLevels.toList_text spec))
  read legible := by
    show ParamValue.imtLevels <$> (ImtLevels.ofText spec.text).mapError Fault.levels = _
    rw [ImtLevels.ofText_text proper legible]
    rfl
  equal _ := beq_self_of_forall spec.toList fun e member => by
    have parts : (e.1 == e.1 && e.2 == e.2) = true := by
      rw [beq_self_eq_true, beq_self_of_forall _ fun x inside =>
        Binary64.beq_self (Binary64.ne_nan_of_isFinite ((proper e member).finite x inside))]
      rfl
    exact parts
  other illegible w read := by
    obtain ⟨e, member, unreadable⟩ : ∃ e ∈ spec.toList, ¬e.1.Readable := by
      simpa [ParamValue.Legible] using illegible
    obtain ⟨result, found, -⟩ := fmap_eq_ok.mp (show ParamValue.imtLevels <$>
      (ImtLevels.ofText spec.text).mapError Fault.levels = .ok w from read)
    exact absurd (mapError_eq_ok.mp found)
      (ImtLevels.ofText_text_unreadable proper member unreadable result)

theorem imtList_returns (measures : List Imt) : Returns imtList (.imts measures) := by
  have written : (Text.join ", " (measures.map (·.name))).toList =
      [',', ' '].intercalate (measures.map (·.name.toList)) := by
    rw [Text.toList_join, List.map_map]
    rfl
  have read (w : ParamValue) : imtList.read (ParamValue.imts measures).raw = .ok w ↔
      ∃ result, (measures.map (·.name.toList)).mapM (fun item =>
        (Imt.ofText (String.ofList item)).mapError Fault.badImt) = .ok result ∧
          ParamValue.imts result = w := by
    rw [← fmap_eq_ok, ← imtItems_join measures, ← written]
    rfl
  refine ⟨?_, fun same => ?_, fun legible => ?_, fun _ => beq_self_eq_true measures,
    fun illegible w found => ?_⟩
  · show Text.Bare Text.isBlank (Text.join ", " (measures.map (·.name))).toList
    rw [written]
    refine Text.bare_intercalate _ fun part member => ?_
    obtain ⟨imt, -, rfl⟩ := List.mem_map.mp member
    exact ⟨imt.name_ne_nil, .of_forall Imt.name_not_blank⟩
  · have items := imtItems_join measures
    rw [← written, show Text.join ", " (measures.map (·.name)) = "None" from same] at items
    obtain ⟨imt, -, named⟩ := List.mem_map.mp
      (items ▸ List.mem_cons_self : "None".toList ∈ measures.map (·.name.toList))
    exact absurd named (Imt.name_ne_none imt)
  · refine (read _).mpr ⟨measures.map id, mapM_map_ok fun imt member => ?_, by rw [List.map_id]⟩
    rw [String.ofList_toList, Imt.ofText_name (legible imt member)]
    rfl
  · obtain ⟨result, each, rfl⟩ := (read w).mp found
    obtain ⟨imt, member, unreadable⟩ : ∃ imt ∈ measures, ¬imt.Readable := by
      simpa [ParamValue.Legible] using illegible
    obtain ⟨_, -, converted⟩ := ok_of_mem_mapM each (List.mem_map_of_mem member)
    rw [String.ofList_toList, Imt.ofText_name_unreadable unreadable] at converted
    cases converted

theorem imtFloats_returns (values : SortedMap Imt Binary64) :
    Returns imtFloats (.imtFloats values) where
  bare := by
    show Text.Bare Text.isBlank (ParamValue.imtFloatsText values).toList
    rw [toList_imtFloatsText]
    exact bare_mappingText _ _ _
  null same := absurd same (ne_none_of_mappingText (toList_imtFloatsText values))
  read legible := by
    show ParamValue.imtFloats <$> imtFloatsOf (ParamValue.imtFloatsText values) = _
    rw [imtFloatsOf_text fun e member => (legible e member).1]
    rfl
  equal legible := beq_self_of_forall values.toList fun e member => by
    have parts : (e.1 == e.1 && e.2 == e.2) = true := by
      rw [beq_self_eq_true, Binary64.beq_self (legible e member).2]
      rfl
    exact parts
  other illegible w read := by
    obtain ⟨result, found, rfl⟩ := fmap_eq_ok.mp (show ParamValue.imtFloats <$>
      imtFloatsOf (ParamValue.imtFloatsText values) = .ok w from read)
    refine Bool.eq_false_iff.mpr fun same => illegible fun e member => ⟨?_, ?_⟩
    · exact Decidable.not_not.mp fun unreadable =>
        imtFloatsOf_text_unreadable member unreadable result found
    · intro nan
      have lists : (result.toList == values.toList) = true := same
      obtain ⟨f, -, matched⟩ := exists_of_beq lists member
      have second : (f.1 == e.1 && f.2 == e.2) = true := matched
      rw [nan, Binary64.beq_nan, Bool.and_false] at second
      cases second

theorem maximumDistance_returns {d : MaximumDistance} (positive : Positive d) :
    Returns maximumDistance (.distance d) := by
  have number {x : Binary64} (above : Binary64.zero.numericLt x = true) : (x == x) = true :=
    Binary64.beq_self (Binary64.proper_of_numericLt above).1
  have reads (plain : ∀ distances, d = .byRegion distances → ∀ key ∈ distances.keys,
      '"' ∉ key.toList) : maximumDistance.read (ParamValue.distance d).raw = .ok (.distance d) := by
    show ParamValue.distance <$> distanceOf d.text = _
    rw [distanceOf_text positive plain]
    rfl
  cases d with
  | uniform x =>
    exact .of_read trivial (bare_of_numberChars fun c => Binary64.mem_text)
      (reads fun _ same => by cases same) (number positive) fun w read => by cases read
  | byRegion distances =>
    refine ⟨?_, fun same => absurd same (ne_none_of_mappingText (toList_byRegion distances)),
      fun legible => reads fun _ same => by cases same; exact legible, fun legible => ?_,
      fun illegible w read => ?_⟩
    · show Text.Bare Text.isBlank (MaximumDistance.byRegion distances).text.toList
      rw [toList_byRegion]
      exact bare_mappingText _ _ _
    · refine beq_self_of_forall distances.toList fun e member => ?_
      have parts : (e.1 == e.1 && e.2 == e.2) = true := by
        rw [beq_self_eq_true, number (positive e.2 (List.mem_map_of_mem member))]
        rfl
      exact parts
    · obtain ⟨key, member, quoted⟩ : ∃ key ∈ distances.keys, '"' ∈ key.toList := by
        simpa [ParamValue.Legible] using illegible
      obtain ⟨result, found, rfl⟩ := fmap_eq_ok.mp (show ParamValue.distance <$>
        distanceOf (MaximumDistance.byRegion distances).text = .ok w from read)
      cases result with
      | uniform x => rfl
      | byRegion other =>
        refine Bool.eq_false_iff.mpr fun same => ?_
        exact distanceOf_text_quoted member quoted found
          (map_fst_of_beq (show (other.toList == distances.toList) = true from same))

end Measures

end Rule
end HazardJob
