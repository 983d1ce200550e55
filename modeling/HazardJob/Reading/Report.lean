import HazardJob.Reading.Basic
import HazardJob.Text.Basic

/-! The text of a trace. Every item names its line, shows it, and points with a caret at the column,
counted in bytes, where something was looked for. Items are numbered, the innermost first. -/
namespace HazardJob.Reading

/-- Names of the kinds, as reports show them. -/
def Kind.name : Kind → String
  | .alternative => "Alt"
  | .endOfText => "Eof"
  | .number => "Float"
  | .oneOf => "OneOf"
  | .run => "TakeWhile1"
  | .runUntil => "TakeTill1"
  | .indent => "Space"
  | .word => "Tag"

/-- What stands in front of a place: the number of its line and the line up to there. -/
structure Place where
  line : Nat
  before : List Char

/-- The place in front of `rest`, which is the end of `whole`. -/
def Place.of (whole rest : List Char) : Place :=
  let before := whole.take (whole.length - rest.length)
  ⟨before.count '\n' + 1, (before.reverse.takeWhile (· != '\n')).reverse⟩

/-- The line of a place without white space at its end, and a caret below the place. -/
def Place.picture (place : Place) (rest : List Char) : String :=
  String.ofList (Text.trimEnd (Text.firstLine (place.before ++ rest))) ++ "\n" ++
    String.ofList (List.replicate (Text.byteCount place.before) ' ' ++ ['^']) ++ "\n"

/-- One item of a report on `whole`, without its number. -/
def Miss.text (whole : List Char) (m : Miss) : String :=
  if whole.isEmpty then
    match m.expected with
    | .char c => "expected '" ++ c.toString ++ "', got empty input\n\n"
    | .part name => "in " ++ name ++ ", got empty input\n\n"
    | .kind kind => "in " ++ kind.name ++ ", got empty input\n\n"
  else
    let place := Place.of whole m.rest
    let line := "at line " ++ toString place.line
    let picture := place.picture m.rest
    match m.expected with
    | .char c =>
      let found := match m.rest with
        | next :: _ => "found " ++ next.toString
        | [] => "got end of input"
      line ++ ":\n" ++ picture ++ "expected '" ++ c.toString ++ "', " ++ found ++ "\n\n"
    | .part name => line ++ ", in " ++ name ++ ":\n" ++ picture ++ "\n"
    | .kind kind => line ++ ", in " ++ kind.name ++ ":\n" ++ picture ++ "\n"

/-- The items of a report with their numbers, from `number` on. -/
def reportFrom (whole : List Char) (number : Nat) : Trace → String
  | [] => ""
  | m :: more => toString number ++ ": " ++ m.text whole ++ reportFrom whole (number + 1) more

/-- The report on a text that could not be read. -/
def report (whole : List Char) (trace : Trace) : String := reportFrom whole 0 trace

end HazardJob.Reading
