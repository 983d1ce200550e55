/-! Readers over a list of characters, with ordered choice. A reader that does not fit leaves room
for the next alternative; one that has committed ends the whole reading. Either way it reports what
was looked for and where, the innermost part first. A place is the text that was left there. -/
namespace HazardJob.Reading

/-- The parts of a grammar that a report names by their kind. -/
inductive Kind where
  | alternative | endOfText | number | oneOf | run | runUntil | indent | word
deriving DecidableEq

/-- What a reader looked for. -/
inductive Expected where
  | char (c : Char)
  | part (name : String)
  | kind (kind : Kind)
deriving DecidableEq

/-- Something looked for in vain, in front of `rest`. -/
structure Miss where
  rest : List Char
  expected : Expected
deriving DecidableEq

/-- What was looked for, the innermost part first. -/
abbrev Trace := List Miss

inductive Outcome (α : Type) where
  | ok (value : α) (rest : List Char)
  /-- The reader does not fit here; another alternative may. -/
  | miss (trace : Trace)
  /-- The reader had committed itself; no alternative is tried. -/
  | halt (trace : Trace)

namespace Outcome

def map (f : α → β) : Outcome α → Outcome β
  | ok value rest => ok (f value) rest
  | miss trace => miss trace
  | halt trace => halt trace

/-- Goes on with the value and the rest of the text. -/
def bind (o : Outcome α) (next : α → List Char → Outcome β) : Outcome β :=
  match o with
  | ok value rest => next value rest
  | miss trace => miss trace
  | halt trace => halt trace

def mapTrace (f : Trace → Trace) : Outcome α → Outcome α
  | ok value rest => ok value rest
  | miss trace => miss (f trace)
  | halt trace => halt (f trace)

end Outcome

def Reader (α : Type) : Type := List Char → Outcome α

instance : Monad Reader where
  pure value := fun s => .ok value s
  bind reader next := fun s => (reader s).bind fun value rest => next value rest

/-- A miss in front of `s` with nothing inside it. -/
def missed (s : List Char) (expected : Expected) : Outcome α := .miss [⟨s, expected⟩]

/-- The character `c`. -/
def char (c : Char) : Reader Unit
  | d :: rest => if d = c then .ok () rest else missed (d :: rest) (.char c)
  | [] => missed [] (.char c)

/-- The characters of `text`. -/
def word (text : List Char) : Reader Unit := fun s =>
  if text.isPrefixOf s then .ok () (s.drop text.length) else missed s (.kind .word)

/-- One character out of `choices`. -/
def oneOf (choices : List Char) : Reader Char
  | c :: rest => if c ∈ choices then .ok c rest else missed (c :: rest) (.kind .oneOf)
  | [] => missed [] (.kind .oneOf)

/-- As many characters as satisfy `p`, possibly none. -/
def span (p : Char → Bool) : Reader (List Char) := fun s => .ok (s.takeWhile p) (s.dropWhile p)

/-- As many characters as satisfy `p`, at least one. -/
def span1 (p : Char → Bool) (kind : Kind) : Reader (List Char) := fun s =>
  if (s.takeWhile p).isEmpty then missed s (.kind kind) else .ok (s.takeWhile p) (s.dropWhile p)

/-- All that is left. -/
def remaining : Reader (List Char) := fun s => .ok s []

/-- The end of the text. -/
def endOfText : Reader Unit
  | [] => .ok () []
  | c :: rest => missed (c :: rest) (.kind .endOfText)

/-- Adds the name of the part being read to a report. -/
def within (name : String) (reader : Reader α) : Reader α := fun s =>
  (reader s).mapTrace (· ++ [⟨s, .part name⟩])

/-- Commits to `reader`: if it does not fit, nothing else does. -/
def commit (reader : Reader α) : Reader α := fun s =>
  match reader s with
  | .miss trace => .halt trace
  | outcome => outcome

/-- `reader` or nothing. -/
def optional (reader : Reader α) : Reader (Option α) := fun s =>
  match reader s with
  | .ok value rest => .ok (some value) rest
  | .miss _ => .ok none s
  | .halt trace => .halt trace

/-- The first reader that does not miss; if all do, the report is that of the last. -/
def firstOf : List (Reader α) → Reader α := fun readers s => go s [] readers
where
  go (s : List Char) (last : Trace) : List (Reader α) → Outcome α
    | [] => .miss (last ++ [⟨s, .kind .alternative⟩])
    | reader :: more =>
      match reader s with
      | .miss trace => go s trace more
      | outcome => outcome

/-- Items that each follow a separator. The list ends in front of a separator without an item.
Every separator takes a character, so that a bound of the length of the text is never met. -/
def itemsAfter (separator : Reader Unit) (item : Reader α) : Nat → Reader (List α)
  | 0 => fun s => .ok [] s
  | bound + 1 => fun s =>
    match separator s with
    | .miss _ => .ok [] s
    | .halt trace => .halt trace
    | .ok _ afterSeparator =>
      match item afterSeparator with
      | .miss _ => .ok [] s
      | .halt trace => .halt trace
      | .ok value rest => (itemsAfter separator item bound rest).map (value :: ·)

/-- Items with a separator between neighbours, at least one. -/
def separated1 (separator : Reader Unit) (item : Reader α) : Reader (List α) := fun s =>
  (item s).bind fun value rest => (itemsAfter separator item rest.length rest).map (value :: ·)

/-- Items with a separator between neighbours, possibly none. -/
def separated (separator : Reader Unit) (item : Reader α) : Reader (List α) := fun s =>
  match item s with
  | .miss _ => .ok [] s
  | .halt trace => .halt trace
  | .ok value rest => (itemsAfter separator item rest.length rest).map (value :: ·)

/-- What a reader makes of a whole text; anything left over is a miss of its own. -/
def readAll (reader : Reader α) (s : List Char) : Except Trace α :=
  match reader s with
  | .ok value [] => .ok value
  | .ok _ rest => .error [⟨rest, .kind .endOfText⟩]
  | .miss trace | .halt trace => .error trace

end HazardJob.Reading
