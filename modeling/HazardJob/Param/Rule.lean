import HazardJob.Param.Value
import HazardJob.Text.Quoted
import HazardJob.Text.WordChar

/-! Rules that turn the text of a parameter into a value, and the reasons for which they refuse
one. White space around a text does not count, and `None` stands for the absence of a value. -/
namespace HazardJob

inductive Rule where
  | boolean | positiveInt | nonNegativeInt | positiveFloat | nonNegativeFloat
  | probabilities | utf8 | nameList
  | choices (allowed : List String)
  | imtLevels | imtList | imtFloats
  | maximumDistance | coordinates | polygon
  | gsim | correlationModel | calculationMode | vs30Type | path
deriving DecidableEq

/-- Why a text is refused. -/
inductive Fault where
  | notBoolean (text : String)
  | zero
  | notNatural (text : String)
  | notNumber (text : String)
  | notPositive (text : String)
  | negative (text : String)
  | notProbability (text : String)
  | badName (name : String)
  | notAChoice (name : String) (allowed : List String)
  | levels (fault : LevelsFault)
  | badImt (error : ImtError)
  | literal (report : String)
  | notADict
  | imtKeyNotText
  | imtValueNotNumber (imt : Imt)
  | distanceNotPositive (what : String)
  | regionNotText
  | distanceNotNumber (region : String)
  | notADistance (typeName : String)
  | notAPair (text : String)
  | longitude (value : Binary64)
  | latitude (value : Binary64)
  | fewPoints (count : Nat)
  | badGsim (text : String)
  | badCorrelation (text : String)
  | badMode (text : String)
  | badVs30Type (text : String)
  | emptyPath

def Fault.message : Fault → String
  | notBoolean text => "Not a boolean: " ++ text
  | zero => "0 is not a positive integer"
  | notNatural text => "'" ++ text ++ "' is not a non-negative integer"
  | notNumber text => "'" ++ text ++ "' is not a number"
  | notPositive text => text ++ " is not positive"
  | negative text => text ++ " is negative"
  | notProbability text => text ++ " is not a probability"
  | badName name => "Invalid name '" ++ name ++ "'"
  | notAChoice name allowed => "'" ++ name ++ "' is not one of " ++ Text.quotedList allowed
  | levels fault => fault.message
  | badImt error => error.message
  | literal report => report
  | notADict => "expected a dict"
  | imtKeyNotText => "IMT keys must be strings"
  | imtValueNotNumber imt => "the value for " ++ imt.name ++ " must be a number"
  | distanceNotPositive what => "the distance for " ++ what ++ " must be positive"
  | regionNotText => "TRT names must be strings"
  | distanceNotNumber region => "the distance for " ++ region ++ " must be a number"
  | notADistance typeName => "expected a number or a dict, got a " ++ typeName
  | notAPair text => "'" ++ text ++ "' is not a lon lat pair"
  | longitude value => "longitude " ++ value.text ++ " out of range"
  | latitude value => "latitude " ++ value.text ++ " out of range"
  | fewPoints count => "a polygon needs at least 3 points, got " ++ toString count
  | badGsim text => "Invalid GSIM name '" ++ text ++ "'"
  | badCorrelation text => "Unknown correlation model '" ++ text ++ "'"
  | badMode text => "Invalid calculation mode '" ++ text ++ "'"
  | badVs30Type text => "'" ++ text ++ "' is not one of measured, inferred"
  | emptyPath => "empty path"

namespace Rule

/-- Name of a rule, for messages. -/
def name : Rule → String
  | boolean => "boolean"
  | positiveInt => "positiveint"
  | nonNegativeInt => "nonnegativeint"
  | positiveFloat => "positivefloat"
  | nonNegativeFloat => "nonnegativefloat"
  | probabilities => "probabilities"
  | utf8 => "utf8"
  | nameList => "namelist"
  | choices _ => "choices"
  | imtLevels => "intensity_measure_types_and_levels"
  | imtList => "intensity_measure_types"
  | imtFloats => "floatdict"
  | maximumDistance => "maximum_distance"
  | coordinates => "coordinates"
  | polygon => "polygon"
  | gsim => "gsim"
  | correlationModel => "correlation_model"
  | calculationMode => "calculation_mode"
  | vs30Type => "vs30_type"
  | path => "path"

/-- What separates the items of a list: commas and white space. -/
def isListSeparator (c : Char) : Bool := c == ',' || Text.isBlank c

/-- The items of a list, which may stand in brackets. -/
def listItems (text : List Char) : List (List Char) :=
  Text.fields isListSeparator (Text.trimBy (fun c => c == '[' || c == ']' || Text.isBlank c) text)

/-- What separates intensity measures outside of parentheses. -/
def isImtSeparator (c : Char) : Bool := c == ',' || c == ' ' || c == '\t' || c == '\n'

/-- Level of parentheses after a character. -/
def levelAfter (level : Nat) (c : Char) : Nat :=
  if c == '(' then level + 1 else if c == ')' then level - 1 else level

/-- The pieces between separators that stand outside of parentheses. -/
def imtPieces (level : Nat) : List Char → List (List Char)
  | [] => [[]]
  | c :: rest =>
    if level == 0 && isImtSeparator c then [] :: imtPieces level rest
    else match imtPieces (levelAfter level c) rest with
      | piece :: more => (c :: piece) :: more
      | [] => [[c]]

/-- The intensity measures of a list, as texts. -/
def imtItems (text : List Char) : List (List Char) := (imtPieces 0 text).filter (!·.isEmpty)

/-- Truth values, in capitals or small letters; an empty text is false. -/
def boolOf (text : String) : Except Fault Bool :=
  let word := String.ofList (text.toList.map Char.toLower)
  if ["true", "1", "yes", "on"].contains word then .ok true
  else if ["false", "0", "no", "off", ""].contains word then .ok false
  else .error (.notBoolean text)

/-- Digits with an optional plus sign, for a number that fits into 64 bits. -/
def naturalOf (text : String) : Except Fault UInt64 :=
  let digits := match text.toList with
    | '+' :: rest => rest
    | all => all
  if !digits.isEmpty && digits.all Char.isDigit && Binary64.digitsValue digits < 2 ^ 64 then
    .ok (UInt64.ofNat (Binary64.digitsValue digits))
  else .error (.notNatural text)

/-- A finite number. -/
def numberOf (text : String) : Except Fault Binary64 :=
  match Binary64.ofText? text.toList with
  | some x => if x.isFinite then .ok x else .error (.notNumber text)
  | none => .error (.notNumber text)

/-- A number that lies between two others or at one of them. -/
def isBetween (low high x : Binary64) : Bool := low.numericLe x && x.numericLe high

def probabilityOf (text : String) : Except Fault Binary64 := do
  let p ← numberOf text
  if isBetween .zero (.ofDecimal false 1 0) p then return p else throw (.notProbability text)

/-- A longitude and a latitude in degrees. -/
def pointOf (text : List Char) : Except Fault Point := do
  match (Text.words text).map String.ofList with
  | [lon, lat] =>
    let lon ← numberOf lon
    let lat ← numberOf lat
    if !isBetween (.ofDecimal true 180 0) (.ofDecimal false 180 0) lon then throw (.longitude lon)
    if !isBetween (.ofDecimal true 90 0) (.ofDecimal false 90 0) lat then throw (.latitude lat)
    return ⟨lon, lat⟩
  | _ => throw (.notAPair (String.ofList text))

/-- Points separated by commas. -/
def pointsOf (text : String) : Except Fault (List Point) :=
  (((Text.pieces (· == ',') text.toList).map Text.trim).filter (!·.isEmpty)).mapM pointOf

/-- A distance above zero. -/
def positiveDistance (what : String) (d : Binary64) : Except Fault Binary64 :=
  if Binary64.zero.numericLt d then .ok d else .error (.distanceNotPositive what)

/-- The region and the distance of an entry of a mapping. -/
def regionDistance (key value : Literal) : Except Fault (String × Binary64) := do
  let some region := key.text? | throw .regionNotText
  let some d := value.number? | throw (.distanceNotNumber region)
  return (region, ← positiveDistance region d)

/-- A distance, or a mapping from regions to distances in which the last entry of a region
stays. -/
def distanceOf (text : String) : Except Fault MaximumDistance := do
  match ← (Literal.ofText text).mapError .literal with
  | .number d => return .uniform (← positiveDistance "all TRTs" d)
  | .dict entries =>
    return .byRegion (SortedMap.ofList (← entries.mapM fun e => regionDistance e.1 e.2))
  | other => throw (.notADistance other.typeName)

/-- The measure and the number of an entry of a mapping. -/
def imtFloat (key value : Literal) : Except Fault (Imt × Binary64) := do
  let some name := key.text? | throw .imtKeyNotText
  let imt ← (Imt.ofText name).mapError .badImt
  let some x := value.number? | throw (.imtValueNotNumber imt)
  return (imt, x)

/-- A mapping from intensity measures to numbers in which the last entry of a measure stays. -/
def imtFloatsOf (text : String) : Except Fault (SortedMap Imt Binary64) := do
  match ← (Literal.ofText text).mapError .literal with
  | .dict entries => return SortedMap.ofList (← entries.mapM fun e => imtFloat e.1 e.2)
  | _ => throw .notADict

/-- A name that starts with a letter or an underscore and goes on with those and digits. -/
def isGsimName : List Char → Bool
  | c :: rest => (c.isAlpha || c == '_') && rest.all fun d => d.isAlphanum || d == '_'
  | [] => false

/-- The name of a ground motion model, which may stand in brackets. -/
def gsimOf (text : String) : Except Fault String :=
  let bare := Text.trim (Text.dropEndWhile (· == ']') (text.toList.dropWhile (· == '[')))
  if isGsimName bare then .ok (String.ofList bare) else .error (.badGsim text)

/-- A name made of word characters, points and hyphens. -/
def isPlainName (name : List Char) : Bool :=
  !name.isEmpty && name.all fun c => Text.isWordChar c || c == '.' || c == '-'

/-- Names that satisfy `p`, or the first that does not. -/
def namesOf (p : String → Bool) (fault : String → Fault) (names : List String) :
    Except Fault (List String) :=
  match names.find? (!p ·) with
  | some bad => .error (fault bad)
  | none => .ok names

/-- The value of a text that is trimmed and not `None`. -/
def read (rule : Rule) (text : String) : Except Fault ParamValue :=
  let items := (listItems text.toList).map String.ofList
  match rule with
  | boolean => .bool <$> boolOf text
  | positiveInt => do
    let n ← naturalOf text
    if n == 0 then throw .zero else return .int n
  | nonNegativeInt => .int <$> naturalOf text
  | positiveFloat => do
    let x ← numberOf text
    if x.numericLe .zero then throw (.notPositive text) else return .float x
  | nonNegativeFloat => do
    let x ← numberOf text
    if x.numericLt .zero then throw (.negative text) else return .float x
  | probabilities => .floats <$> items.mapM probabilityOf
  | utf8 => .ok (.text text)
  | nameList => .texts <$> namesOf (fun name => isPlainName name.toList) .badName items
  | choices allowed =>
    .texts <$> namesOf (allowed.contains ·) (fun name => .notAChoice name allowed) items
  | imtLevels => .imtLevels <$> (ImtLevels.ofText text).mapError .levels
  | imtList =>
    .imts <$> ((imtItems text.toList).mapM fun item =>
      (Imt.ofText (String.ofList item)).mapError .badImt)
  | imtFloats => .imtFloats <$> imtFloatsOf text
  | maximumDistance => .distance <$> distanceOf text
  | coordinates => .points <$> pointsOf text
  | polygon => do
    let points ← pointsOf text
    if points.length < 3 then throw (.fewPoints points.length) else return .points points
  | gsim => .text <$> gsimOf text
  | correlationModel =>
    match CorrelationModel.ofName? text with
    | some model => .ok (.correlation model)
    | none => .error (.badCorrelation text)
  | calculationMode =>
    match CalculationMode.ofName? text with
    | some mode => .ok (.mode mode)
    | none => .error (.badMode text)
  | vs30Type =>
    match Vs30Type.ofName? text with
    | some kind => .ok (.vs30Type kind)
    | none => .error (.badVs30Type text)
  | path => if text.isEmpty then .error .emptyPath else .ok (.path ⟨text⟩)

/-- The value of a raw text; no text at all stands for no value. -/
def coerce (rule : Rule) : Option String → Except Fault ParamValue
  | none => .ok .null
  | some raw =>
    let text := String.ofList (Text.trim raw.toList)
    if text == "None" then .ok .null else rule.read text

end Rule
end HazardJob
