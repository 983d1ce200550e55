import HazardJob.Literal.Basic
import HazardJob.Reading.Report
import HazardJob.Reading.Token

/-! Reading a literal. Lists stand in brackets or parentheses, mappings in braces, texts between
apostrophes or double quotes; items are separated by commas, and one comma may follow the last.
Spaces, tabs and line ends may stand around every item. Once an opening mark is read, its closing
mark has to follow the content. -/
namespace HazardJob.Literal

open Reading

/-- One of two spellings. -/
def spelled (first second : String) (value : Literal) : Reader Literal := do
  firstOf [word first.toList, word second.toList]
  pure value

/-- A text between two marks. -/
def between (mark : Char) : Reader String := do
  char mark
  let content ← span (· != mark)
  commit (within "closing quote" (char mark))
  pure (String.ofList content)

def quoted : Reader String := firstOf [between '\x27', between '"']

/-- Layout and the comma that may follow the last item. -/
def lastComma : Reader Unit := do
  layout
  let _ ← optional (char ',')

/-- What stands between an opening and a closing mark. -/
def enclosed (opening closing : Char) (part : String) (content : Reader α) : Reader α := do
  char opening
  layout
  let value ← content
  lastComma
  layout
  commit (within part (char closing))
  pure value

/-- A key, a colon and a value. -/
def entry (item : Reader Literal) : Reader (Literal × Literal) := do
  let key ← item
  layout
  char ':'
  layout
  let value ← commit (within "dict value" item)
  pure (key, value)

/-- A literal with less than `depth` levels of nesting. -/
def nested : Nat → Reader Literal
  | 0 => fun s => .miss [⟨s, .kind .alternative⟩]
  | depth + 1 =>
    firstOf [
      spelled "None" "null" none,
      spelled "True" "true" (bool true),
      spelled "False" "false" (bool false),
      text <$> quoted,
      list <$> enclosed '[' ']' "closing bracket" (separated comma (nested depth)),
      list <$> enclosed '(' ')' "closing parenthesis" (separated comma (nested depth)),
      dict <$> enclosed '\x7b' '\x7d' "closing brace" (separated comma (entry (nested depth))),
      number <$> Reading.number]

/-- A literal with layout around it. Each level of nesting takes a character, so that the length of
the text bounds the levels. -/
def document : Reader Literal := fun s =>
  (do
    layout
    let value ← nested (s.length + 1)
    layout
    pure value : Reader Literal) s

/-- A whole text as a literal, or where it ceases to be one. -/
def read (s : List Char) : Except Trace Literal := readAll document s

/-- A whole text as a literal, or the report on it. -/
def ofText (text : String) : Except String Literal :=
  (read text.toList).mapError (report text.toList)

end HazardJob.Literal
