import HazardJob.Param.Rule
import HazardJob.Proofs.Basic
import HazardJob.Proofs.Imt.Name
import HazardJob.Proofs.Reading.Written
import HazardJob.Proofs.Text

/-! Items of parameters: numbers, names, measures and points, alone or in lists. What a list is
written as is cut into the same items again. -/
namespace HazardJob

theorem Binary64.isNumberChar_plain {c : Char} (number : isNumberChar c = true) :
    Text.isBlank c = false ∧ c ≠ ',' ∧ c ≠ '[' ∧ c ≠ ']' := by
  have bounds := isNumberChar_toNat number
  refine ⟨Imt.isBlank_of_bounds ?_ ?_, ?_, ?_, ?_⟩
  · rcases bounds with bounds | letter
    · omega
    · simp only [List.mem_cons, List.not_mem_nil, or_false] at letter
      omega
  · rcases bounds with bounds | letter
    · omega
    · simp only [List.mem_cons, List.not_mem_nil, or_false] at letter
      omega
  · rintro rfl
    revert number
    decide
  · rintro rfl
    revert number
    decide
  · rintro rfl
    revert number
    decide

namespace Rule

open Reading

section Numbers

theorem text_ne_nil {x : Binary64} (finite : x.isFinite = true) : x.text.toList ≠ [] := by
  cases x with
  | nan => cases finite
  | signed negative pattern bounded =>
    have scanned : Binary64.scan (Binary64.signed negative pattern bounded).text.toList =
        .number (.signed negative pattern bounded) [] :=
      Binary64.scan_text bounded (of_decide_eq_true finite)
    intro nothing
    rw [nothing] at scanned
    cases scanned

theorem numberOf_ok {text : String} {x : Binary64} (read : numberOf text = .ok x) :
    x.isFinite = true := by
  unfold numberOf at read
  split at read
  · split at read
    · rename_i finite
      cases read
      exact finite
    · cases read
  · cases read

/-- A finite number is read from what it is written as. -/
theorem numberOf_text {x : Binary64} (finite : x.isFinite = true) : numberOf x.text = .ok x := by
  have found : Binary64.ofText? x.text.toList = some x := by
    cases x with
    | nan => cases finite
    | signed negative pattern bounded =>
      unfold Binary64.ofText?
      rw [Binary64.scan_text bounded (of_decide_eq_true finite)]
  unfold numberOf
  rw [found]
  simp only [finite, if_true]

theorem probabilityOf_ok {text : String} {x : Binary64} (read : probabilityOf text = .ok x) :
    x.isFinite = true ∧ isBetween .zero (.ofDecimal false 1 0) x = true := by
  obtain ⟨y, number, read⟩ := bind_eq_ok.mp read
  split at read
  · rename_i between
    cases read
    exact ⟨numberOf_ok number, between⟩
  · cases read

theorem probabilityOf_text {x : Binary64} (finite : x.isFinite = true)
    (between : isBetween .zero (.ofDecimal false 1 0) x = true) :
    probabilityOf x.text = .ok x := by
  unfold probabilityOf
  rw [numberOf_text finite]
  exact if_pos between

theorem toList_toString (n : Nat) : (toString n).toList = Nat.toDigits 10 n :=
  String.toList_ofList

/-- A natural number is read from its digits. -/
theorem naturalOf_toString (n : UInt64) : naturalOf (toString n.toNat) = .ok n := by
  have digit : ∀ c ∈ Nat.toDigits 10 n.toNat, c.isDigit = true := fun c member =>
    Binary64.isDigit_toDigits member
  have value := Binary64.digitsValue_toDigits n.toNat
  unfold naturalOf
  rw [toList_toString]
  extract_lets digits
  have unsigned : digits = Nat.toDigits 10 n.toNat := by
    simp only [digits]
    split
    · rename_i rest written
      have plus := digit '+' (by rw [written]; exact List.mem_cons_self)
      cases plus
    · rfl
  have some : digits.isEmpty = false := by
    rw [unsigned, List.isEmpty_eq_false_iff]
    exact Nat.toDigits_ne_nil
  have all : digits.all Char.isDigit = true := by
    rw [unsigned]
    exact List.all_eq_true.mpr digit
  have bounded : Binary64.digitsValue digits < 2 ^ 64 := by
    rw [unsigned, value]
    exact n.toNat_lt
  rw [if_pos (by simp only [some, all, bounded]; rfl), unsigned, value, UInt64.ofNat_toNat]

end Numbers

section Lists

/-- Part of a list that is neither empty nor broken up again. -/
def PlainItem (item : List Char) : Prop :=
  item ≠ [] ∧ ∀ c ∈ item, isListSeparator c = false ∧ c ≠ '[' ∧ c ≠ ']'

theorem isListSeparator_false {c : Char} : isListSeparator c = false ↔
    c ≠ ',' ∧ Text.isBlank c = false := by simp [isListSeparator]

/-- Items joined by spaces are the items of the list. -/
theorem listItems_join {items : List (List Char)} (plain : ∀ item ∈ items, PlainItem item) :
    listItems ([' '].intercalate items) = items := by
  have bare : Text.Bare (fun c => c == '[' || c == ']' || Text.isBlank c)
      ([' '].intercalate items) := by
    refine Text.bare_intercalate _ fun item member =>
      ⟨(plain item member).1, .of_forall fun c inside => ?_⟩
    obtain ⟨separator, opening, closing⟩ := (plain item member).2 c inside
    simp [opening, closing, (isListSeparator_false.mp separator).2]
  unfold listItems
  rw [bare.trimBy]
  exact Text.fields_intercalate (List.forall_mem_singleton.mpr rfl) (by simp) fun item member =>
    ⟨(plain item member).1, fun c inside => ((plain item member).2 c inside).1⟩

theorem mem_listItems {text item : List Char} (member : item ∈ listItems text) :
    item ≠ [] ∧ ∀ c ∈ item, isListSeparator c = false := Text.mem_fields member

theorem trim_join {items : List (List Char)} (plain : ∀ item ∈ items, PlainItem item) :
    Text.Bare Text.isBlank ([' '].intercalate items) :=
  Text.bare_intercalate _ fun item member => ⟨(plain item member).1, .of_forall fun c inside =>
    (isListSeparator_false.mp ((plain item member).2 c inside).1).2⟩

theorem plainItem_text {x : Binary64} (finite : x.isFinite = true) : PlainItem x.text.toList := by
  refine ⟨text_ne_nil finite, fun c member => ?_⟩
  obtain ⟨blank, comma, opening, closing⟩ := Binary64.isNumberChar_plain (Binary64.mem_text member)
  exact ⟨isListSeparator_false.mpr ⟨comma, blank⟩, opening, closing⟩

/-- Names of a list that satisfy `p`, which admits no brackets. -/
theorem namesOf_ok {p : String → Bool} {fault : String → Fault} {names kept : List String}
    (read : namesOf p fault names = .ok kept) : kept = names ∧ ∀ name ∈ names, p name = true := by
  unfold namesOf at read
  split at read
  · cases read
  · rename_i nothing
    cases read
    exact ⟨rfl, by simpa using List.find?_eq_none.mp nothing⟩

theorem namesOf_of {p : String → Bool} {fault : String → Fault} {names : List String}
    (all : ∀ name ∈ names, p name = true) : namesOf p fault names = .ok names := by
  have nothing : names.find? (!p ·) = none := by
    rw [List.find?_eq_none]
    intro name member
    simp [all name member]
  simp only [namesOf, nothing]

theorem isPlainName_bracket {name : List Char} (plain : isPlainName name = true) :
    ∀ c ∈ name, c ≠ '[' ∧ c ≠ ']' := by
  intro c member
  rw [isPlainName, Bool.and_eq_true, List.all_eq_true] at plain
  have kind := plain.2 c member
  refine ⟨?_, ?_⟩ <;> rintro rfl <;> revert kind <;> decide

end Lists

section Measures

/-- Puts a text in front of the first piece. -/
def prepend (s : List Char) : List (List Char) → List (List Char)
  | piece :: more => (s ++ piece) :: more
  | [] => [s]

theorem prepend_prepend (s t : List Char) (pieces : List (List Char)) :
    prepend s (prepend t pieces) = prepend (s ++ t) pieces := by
  cases pieces <;> simp [prepend]

theorem imtPieces_kept {level : Nat} {c : Char} (kept : level = 0 → isImtSeparator c = false)
    (rest : List Char) :
    imtPieces level (c :: rest) = prepend [c] (imtPieces (levelAfter level c) rest) := by
  have inside : (level == 0 && isImtSeparator c) = false := by
    cases level with
    | zero => simp [kept rfl]
    | succ level => rfl
  rw [imtPieces]
  simp only [inside, Bool.false_eq_true, if_false]
  cases imtPieces (levelAfter level c) rest <;> rfl

theorem imtPieces_ne_nil (level : Nat) (s : List Char) : imtPieces level s ≠ [] := by
  cases s with
  | nil => simp [imtPieces]
  | cons c rest =>
    rw [imtPieces]
    split
    · simp
    · split <;> simp

theorem prepend_nil {pieces : List (List Char)} (some : pieces ≠ []) : prepend [] pieces = pieces := by
  obtain ⟨piece, more, rfl⟩ := List.exists_cons_of_ne_nil some
  rfl

/-- A text without parentheses. -/
def Flat (s : List Char) : Prop := ∀ c ∈ s, c ≠ '(' ∧ c ≠ ')'

theorem Flat.append {s t : List Char} (first : Flat s) (second : Flat t) : Flat (s ++ t) :=
  List.forall_mem_append.mpr ⟨first, second⟩

theorem imtPieces_append {level : Nat} {s : List Char} (flat : Flat s)
    (plain : level = 0 → ∀ c ∈ s, isImtSeparator c = false) (rest : List Char) :
    imtPieces level (s ++ rest) = prepend s (imtPieces level rest) := by
  induction s with
  | nil => exact (prepend_nil (imtPieces_ne_nil level rest)).symm
  | cons c s ih =>
    obtain ⟨⟨opening, closing⟩, flat⟩ := List.forall_mem_cons.mp flat
    have same : levelAfter level c = level := by simp [levelAfter, opening, closing]
    have later := ih flat fun zero d member => plain zero d (List.mem_cons_of_mem _ member)
    rw [List.cons_append, imtPieces_kept (fun zero => plain zero c List.mem_cons_self), same, later,
      prepend_prepend, List.singleton_append]

/-- A text that stays in one piece, whatever follows it. -/
structure Uncut (s : List Char) : Prop where
  full : s ≠ []
  whole : ∀ rest, imtPieces 0 (s ++ rest) = prepend s (imtPieces 0 rest)

section Family

variable {family : List Char} (proper : Imt.isIdentifier family = true)

include proper

theorem family_apart {c d : Char} (member : c ∈ family) (other : d.isAlphanum = false) : c ≠ d := by
  rintro rfl
  rw [Imt.isAlphanum_of_isIdentifier proper c member] at other
  cases other

theorem uncut_family : Uncut family where
  full := by
    rintro rfl
    cases proper
  whole := by
    refine imtPieces_append (fun c member => ?_) fun _ c member => ?_
    · exact ⟨family_apart proper member rfl, family_apart proper member rfl⟩
    · simp [isImtSeparator, family_apart proper member (d := ',') rfl,
        family_apart proper member (d := ' ') rfl, family_apart proper member (d := '\t') rfl,
        family_apart proper member (d := '\n') rfl]

/-- Parentheses keep together what stands between them. -/
theorem uncut_call {s : List Char} (flat : Flat s) : Uncut (family ++ '(' :: (s ++ [')'])) where
  full := by simp
  whole rest := by
    have opened : imtPieces 0 ('(' :: (s ++ ([')'] ++ rest))) =
        prepend ['('] (imtPieces 1 (s ++ ([')'] ++ rest))) := imtPieces_kept (fun _ => rfl) _
    have closed : imtPieces 1 ([')'] ++ rest) = prepend [')'] (imtPieces 0 rest) :=
      imtPieces_kept (fun one => by cases one) rest
    have inside : imtPieces 1 (s ++ ([')'] ++ rest)) = prepend s (imtPieces 1 ([')'] ++ rest)) :=
      imtPieces_append flat (fun one => by cases one) _
    rw [List.append_assoc, List.cons_append, List.append_assoc, (uncut_family proper).whole, opened,
      inside, closed, prepend_prepend, prepend_prepend, prepend_prepend]
    simp

end Family

theorem flat_argumentText {imt : Imt} {s : List Char} (written : imt.argumentText = some s) :
    Flat s := by
  intro c member
  rcases Imt.mem_argumentText written c member with number | rfl
  · constructor <;> (rintro rfl; cases number)
  · decide

theorem uncut_name (imt : Imt) : Uncut imt.name.toList := by
  rw [Imt.toList_name]
  cases written : imt.argumentText with
  | none =>
    rw [Option.map_none, Option.getD_none, List.append_nil]
    exact uncut_family imt.isIdentifier_family
  | some s => exact uncut_call imt.isIdentifier_family (flat_argumentText written)

theorem imtItems_cons_separator {c : Char} (separator : isImtSeparator c = true)
    (rest : List Char) : imtItems (c :: rest) = imtItems rest := by
  simp [imtItems, imtPieces, separator]

theorem imtItems_append_cons {s : List Char} (uncut : Uncut s) {c : Char}
    (separator : isImtSeparator c = true) (rest : List Char) :
    imtItems (s ++ c :: rest) = s :: imtItems rest := by
  simp [imtItems, uncut.whole, imtPieces, separator, prepend, uncut.full]

theorem imtItems_of_uncut {s : List Char} (uncut : Uncut s) : imtItems s = [s] := by
  have pieces := uncut.whole []
  rw [List.append_nil] at pieces
  simp [imtItems, pieces, imtPieces, prepend, uncut.full]

/-- Names joined by commas are the items of the list. -/
theorem imtItems_join (imts : List Imt) :
    imtItems ([',', ' '].intercalate (imts.map (·.name.toList))) = imts.map (·.name.toList) := by
  induction imts with
  | nil => rfl
  | cons imt more ih =>
    cases more with
    | nil =>
      rw [List.map_singleton, List.intercalate_singleton]
      exact imtItems_of_uncut (uncut_name imt)
    | cons next more =>
      rw [List.map_cons, List.intercalate_cons_of_ne_nil (by simp), List.append_assoc,
        List.cons_append, imtItems_append_cons (uncut_name imt) rfl, List.singleton_append,
        imtItems_cons_separator rfl, ih]

end Measures

section Points

/-- A point that lies on the globe. -/
structure OnGlobe (p : Point) : Prop where
  lonFinite : p.lon.isFinite = true
  latFinite : p.lat.isFinite = true
  lonIn : isBetween (.ofDecimal true 180 0) (.ofDecimal false 180 0) p.lon = true
  latIn : isBetween (.ofDecimal true 90 0) (.ofDecimal false 90 0) p.lat = true

theorem toList_pointText (p : Point) :
    p.text.toList = [' '].intercalate [p.lon.text.toList, p.lat.text.toList] := by
  simp [Point.text, List.intercalate_cons_cons]

theorem proper_text {x : Binary64} (finite : x.isFinite = true) :
    x.text.toList ≠ [] ∧ ∀ c ∈ x.text.toList, Text.isBlank c = false :=
  ⟨text_ne_nil finite, fun _ inside => (Binary64.isNumberChar_plain (Binary64.mem_text inside)).1⟩

theorem proper_parts {p : Point} (proper : OnGlobe p) :
    ∀ part ∈ [p.lon.text.toList, p.lat.text.toList],
      part ≠ [] ∧ ∀ c ∈ part, Text.isBlank c = false := by
  intro part member
  simp only [List.mem_cons, List.not_mem_nil, or_false] at member
  rcases member with rfl | rfl
  · exact proper_text proper.lonFinite
  · exact proper_text proper.latFinite

theorem pointOf_text {p : Point} (proper : OnGlobe p) : pointOf p.text.toList = .ok p := by
  have words : (Text.words p.text.toList).map String.ofList = [p.lon.text, p.lat.text] := by
    rw [toList_pointText, Text.words, Text.fields_intercalate (List.forall_mem_singleton.mpr rfl) (by simp)
      (proper_parts proper)]
    simp
  unfold pointOf
  rw [words]
  dsimp only
  rw [numberOf_text proper.lonFinite, numberOf_text proper.latFinite]
  show (do
    if !isBetween _ _ p.lon then throw (.longitude p.lon)
    if !isBetween _ _ p.lat then throw (.latitude p.lat)
    return p : Except Fault Point) = _
  rw [proper.lonIn, proper.latIn]
  rfl

theorem pointOf_ok {text : List Char} {p : Point} (read : pointOf text = .ok p) : OnGlobe p := by
  unfold pointOf at read
  split at read
  · obtain ⟨lon, lonRead, read⟩ := bind_eq_ok.mp read
    obtain ⟨lat, latRead, read⟩ := bind_eq_ok.mp read
    cases lonIn : isBetween (.ofDecimal true 180 0) (.ofDecimal false 180 0) lon with
    | false => rw [lonIn] at read; cases read
    | true =>
      rw [lonIn] at read
      cases latIn : isBetween (.ofDecimal true 90 0) (.ofDecimal false 90 0) lat with
      | false => rw [latIn] at read; cases read
      | true =>
        rw [latIn] at read
        cases read
        exact ⟨numberOf_ok lonRead, numberOf_ok latRead, lonIn, latIn⟩
  · cases read

theorem pointsOf_ok {text : String} {points : List Point} (read : pointsOf text = .ok points) :
    ∀ p ∈ points, OnGlobe p := by
  intro p member
  obtain ⟨_, -, found⟩ := mem_mapM_ok read member
  exact pointOf_ok found

theorem bare_pointText {p : Point} (proper : OnGlobe p) : Text.Bare Text.isBlank p.text.toList := by
  rw [toList_pointText]
  exact Text.bare_intercalate _ fun part member =>
    ⟨(proper_parts proper part member).1, .of_forall (proper_parts proper part member).2⟩

theorem pointText_plain {p : Point} : ∀ c ∈ p.text.toList, (c == ',') = false := by
  intro c member
  have part {x : Binary64} (inside : c ∈ x.text.toList) : (c == ',') = false :=
    beq_false_of_ne (Binary64.isNumberChar_plain (Binary64.mem_text inside)).2.1
  rw [Point.text, String.toList_append, String.toList_append] at member
  rcases List.mem_append.mp member with member | lat
  · rcases List.mem_append.mp member with lon | space
    · exact part lon
    · rw [List.mem_singleton.mp (show c ∈ [' '] from space)]
      rfl
  · exact part lat

theorem pointText_ne_nil {p : Point} (proper : OnGlobe p) : p.text.toList ≠ [] := by
  have some := text_ne_nil proper.lonFinite
  simp [Point.text]

/-- Points on the globe are read back. -/
theorem pointsOf_text {points : List Point} (proper : ∀ p ∈ points, OnGlobe p) :
    pointsOf (Text.join ", " (points.map (·.text))) = .ok points := by
  have items : ((Text.pieces (· == ',') (Text.join ", " (points.map (·.text))).toList).map
      Text.trim).filter (!·.isEmpty) = points.map (·.text.toList) := by
    rw [Text.toList_join, List.map_map]
    cases points with
    | nil => rfl
    | cons first more =>
      have trimmed (p : Point) (member : p ∈ first :: more) :
          Text.trim p.text.toList = p.text.toList := (bare_pointText (proper p member)).trimBy
      have padded : more.map ((Text.trim ∘ ([' '] ++ ·)) ∘ fun p => p.text.toList) =
          more.map (·.text.toList) :=
        List.map_congr_left fun p member => trimmed p (List.mem_cons_of_mem _ member)
      have free : ∀ part ∈ (first :: more).map (·.text.toList), ∀ d ∈ part, (d == ',') = false := by
        intro part member
        obtain ⟨p, -, rfl⟩ := List.mem_map.mp member
        exact pointText_plain
      have cut : Text.pieces (· == ',') ([',', ' '].intercalate
          ((first :: more).map (·.text.toList))) =
            first.text.toList :: (more.map (·.text.toList)).map ([' '] ++ ·) :=
        Text.pieces_intercalate rfl (by simp) free
      show ((Text.pieces (· == ',') ([',', ' '].intercalate
        ((first :: more).map (·.text.toList)))).map Text.trim).filter (!·.isEmpty) = _
      rw [cut, List.map_cons, List.map_map, List.map_map, padded, trimmed first List.mem_cons_self,
        ← List.map_cons (f := fun p : Point => p.text.toList)]
      refine List.filter_eq_self.mpr fun part member => ?_
      obtain ⟨p, inside, rfl⟩ := List.mem_map.mp member
      simp [pointText_ne_nil (proper p inside)]
  unfold pointsOf
  rw [items]
  exact (mapM_map_ok fun p member => pointOf_text (proper p member)).trans (by simp)

end Points

end Rule
end HazardJob
