import HazardJob.Imt.Basic
import HazardJob.Reading.Token

/-! Reading the name of an intensity measure: a family of letters and digits, followed at once by
numbers in parentheses or by nothing. Texts of another form, and families that are unknown in the
form they are used, are unknown measures; a known family with arguments that do not suit it is an
invalid one. -/
namespace HazardJob

/-- What is wrong with the arguments of a known family. -/
inductive ImtFault where
  | badPeriod
  | singlePeriod (family : String)
  | twoArguments (family : String)
deriving DecidableEq

def ImtFault.message : ImtFault → String
  | badPeriod => "the period must be a non-negative number"
  | singlePeriod family => family ++ " takes a single period"
  | twoArguments family => family ++ " takes a period and a secondary argument"

inductive ImtError where
  | unknown (text : String)
  | invalid (text : String) (fault : ImtFault)
deriving DecidableEq

def ImtError.message : ImtError → String
  | unknown text => "'" ++ text ++ "'"
  | invalid text fault => "invalid IMT '" ++ text ++ "': " ++ fault.message

namespace Imt

open Reading

/-- A letter followed by letters and digits, of ASCII. -/
def identifier : Reader String := fun s =>
  match s with
  | c :: _ =>
    if c.isAlpha then (span Char.isAlphanum s).map String.ofList else missed s (.kind .run)
  | [] => missed s (.kind .run)

/-- Numbers in parentheses, separated by commas. -/
def arguments : Reader (List Binary64) := do
  char '('
  layout
  let numbers ← separated1 comma number
  layout
  char ')'
  pure numbers

/-- A family and the arguments that it is given. -/
def call : Reader (String × Option (List Binary64)) := do
  let family ← identifier
  let numbers ← optional arguments
  pure (family, numbers)

/-- The measure of a family with one period. -/
def spectral? (family : PeriodFamily) (period : Binary64) (text : String) : Except ImtError Imt :=
  match Period.ofNumber? period with
  | some period => .ok (.spectral family period)
  | none => .error (.invalid text .badPeriod)

/-- Spectral acceleration at a period. -/
def sa (period : Binary64) : Except ImtError Imt :=
  spectral? .sa period ("SA(" ++ period.text ++ ")")

/-- The measure of a family with these arguments; `text` is shown if they do not suit it. -/
def ofCall? (family : String) (numbers : Option (List Binary64)) (text : String) :
    Option (Except ImtError Imt) :=
  match numbers with
  | none => (ScalarMeasure.ofName? family).map fun measure => .ok (.scalar measure)
  | some numbers =>
    match PeriodFamily.ofName? family with
    | some known =>
      match numbers with
      | [period] => some (spectral? known period text)
      | _ => some (.error (.invalid text (.singlePeriod family)))
    | none =>
      if family == inelasticFamily then
        match numbers with
        | [period, strength] =>
          match Period.ofNumber? period with
          | some period => some (.ok (.inelastic period strength))
          | none => some (.error (.invalid text .badPeriod))
        | _ => some (.error (.invalid text (.twoArguments family)))
      else none

/-- A text as an intensity measure; white space around it does not count. -/
def ofText (text : String) : Except ImtError Imt :=
  let trimmed := Text.trim text.toList
  match readAll call trimmed with
  | .ok (family, numbers) =>
    (ofCall? family numbers (String.ofList trimmed)).getD (.error (.unknown text))
  | .error _ => .error (.unknown text)

end Imt
end HazardJob
