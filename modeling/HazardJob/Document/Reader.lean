import HazardJob.Document.Basic
import HazardJob.Reading.Report
import HazardJob.Text.Alphanumeric
import HazardJob.Text.LowerCase

/-! Reading a job file. Each line is classified by itself: blank, comment, continuation of the entry
before it, section header, or entry. The lines are then gathered into sections; a continuation
needs an entry in its own section. -/
namespace HazardJob.Document

open Reading

/-- A line of a job file. -/
inductive Line where
  | blank
  | comment
  | header (name : String)
  | entry (key value : String)
  | continuation (more : String)
deriving DecidableEq

/-- Any spaces and tabs. -/
def indent : Reader Unit := do let _ ← span Text.isIndent

/-- A line of spaces and tabs. -/
def blankLine : Reader Line := do
  indent
  endOfText
  pure .blank

/-- A hash or a semicolon, possibly indented, and anything after it. -/
def commentLine : Reader Line := do
  indent
  let _ ← oneOf ['#', ';']
  let _ ← remaining
  pure .comment

/-- Anything indented. -/
def continuationLine : Reader Line := do
  let _ ← span1 Text.isIndent .indent
  let more ← remaining
  pure (.continuation (String.ofList (Text.trim more)))

/-- A name in brackets. -/
def headerLine : Reader Line := do
  char '['
  let name ← span1 (· != ']') .runUntil
  within "closing bracket" (char ']')
  indent
  pure (.header (String.ofList (Text.trim name)))

/-- A character of a key. -/
def isKeyChar (c : Char) : Bool := Text.isAlphanumeric c || c == '_' || c == '.' || c == '-'

/-- A key, an equals sign or a colon, and a value. Keys are read in lower case. -/
def entryLine : Reader Line := do
  let key ← span1 isKeyChar .run
  indent
  let _ ← within "'=' after key" (oneOf ['=', ':'])
  indent
  let value ← remaining
  pure (.entry (String.ofList (Text.lower (Text.trim key))) (String.ofList (Text.trim value)))

/-- The first form that fits. -/
def line : Reader Line :=
  firstOf [blankLine, commentLine, continuationLine, headerLine, entryLine]

/-- Why a text is no job file, with the number of the line. -/
inductive Error where
  | unreadable (number : Nat) (report : String)
  | orphan (number : Nat)
deriving DecidableEq

def Error.message : Error → String
  | unreadable number report => "line " ++ toString number ++ ": " ++ report
  | orphan number =>
    "line " ++ toString number ++ ": continuation line without a preceding key"

/-- Sections that are complete, and the one being read with its entries. -/
structure Progress where
  complete : List Section
  name : String
  entries : List (String × String)

namespace Progress

def start : Progress := ⟨[], generalName, []⟩

/-- Closes the section being read; one without entries is dropped. -/
def close (p : Progress) : List Section :=
  if p.entries.isEmpty then p.complete else p.complete ++ [⟨p.name, p.entries⟩]

/-- Appends a line to a value. -/
def continueValue (value more : String) : String :=
  if value.isEmpty then more else value ++ "\n" ++ more

/-- Takes in a line; a continuation without an entry before it has no place. -/
def add? (p : Progress) : Line → Option Progress
  | .blank | .comment => some p
  | .header name => some ⟨p.close, name, []⟩
  | .entry key value => some { p with entries := p.entries ++ [(key, value)] }
  | .continuation more =>
    p.entries.getLast?.map fun last =>
      { p with entries := p.entries.dropLast ++ [(last.1, continueValue last.2 more)] }

end Progress

/-- Reads lines in turn, from the one with `number` on. -/
def readLines (p : Progress) (number : Nat) : List (List Char) → Except Error Document
  | [] => .ok ⟨p.close⟩
  | raw :: more =>
    match readAll line raw with
    | .error trace => .error (.unreadable number (report raw trace))
    | .ok read =>
      match p.add? read with
      | some p => readLines p (number + 1) more
      | none => .error (.orphan number)

/-- A text as a document. -/
def ofText (text : String) : Except Error Document :=
  readLines .start 1 (Text.lines text.toList)

end HazardJob.Document
