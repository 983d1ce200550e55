import HazardJob.Markup.Event

/-! Attributes of tags, and references in texts. Attributes are read in order until the wanted one
is found, so that an error after it goes unnoticed. Only the five predefined entities are known. -/
namespace HazardJob.Markup

/-- What is found where an attribute may start. -/
inductive AttributeStep where
  | done
  | failed (error : AttributeError)
  | found (key value : List Char) (position : Nat) (rest : List Char)

/-- The value after an equals sign that ends before `position`. -/
def attributeValue (key : List Char) (position : Nat) (s : List Char) : AttributeStep :=
  let start := position + (s.takeWhile isSpace).length
  match s.dropWhile isSpace with
  | [] => .failed (.expectedValue start)
  | mark :: body =>
    if mark == '"' || mark == '\x27' then
      let value := body.takeWhile (· != mark)
      match body.dropWhile (· != mark) with
      | [] => .failed (.expectedQuote (start + 1 + Text.byteCount body) mark)
      | _ :: rest => .found key value (start + 2 + Text.byteCount value) rest
    else .failed (.unquotedValue start)

/-- The attribute at the start of `s`, which stands at `position` in the text of its tag. -/
def attributeAt (position : Nat) (s : List Char) : AttributeStep :=
  let start := position + (s.takeWhile isSpace).length
  match s.dropWhile isSpace with
  | [] => .done
  | first :: more =>
    let key := first :: more.takeWhile fun c => c != '=' && !isSpace c
    let afterKey := start + Text.byteCount key
    match more.dropWhile fun c => c != '=' && !isSpace c with
    | '=' :: rest => attributeValue key (afterKey + 1) rest
    | gap =>
      let next := afterKey + (gap.takeWhile isSpace).length
      match gap.dropWhile isSpace with
      | '=' :: rest => attributeValue key (next + 1) rest
      | _ => .failed (.expectedEquals next)

/-- The value of the first attribute called `wanted`. Every attribute takes a character, so that a
bound of the length of the text is not met. -/
def findAttribute (wanted : List Char) : Nat → Nat → List Char →
    Except AttributeError (Option (List Char))
  | 0, _, _ => .ok none
  | bound + 1, position, s =>
    match attributeAt position s with
    | .done => .ok none
    | .failed e => .error e
    | .found key value position rest =>
      if key == wanted then .ok (some value) else findAttribute wanted bound position rest

/-- The value of an attribute in the text of a tag, if it has it. -/
def attributeOf? (wanted : String) (tag : List Char) : Except AttributeError (Option (List Char)) :=
  let name := tagName tag
  findAttribute wanted.toList tag.length (Text.byteCount name) (tag.drop name.length)

/-- The value of a digit in a base of at most 16. -/
def digit? (base : Nat) (c : Char) : Option Nat :=
  let n := c.toNat
  let value :=
    if c.isDigit then n - 48
    else if 97 ≤ n && n ≤ 102 then n - 87
    else if 65 ≤ n && n ≤ 70 then n - 55
    else base
  if value < base then some value else none

/-- The number of 32 bits that digits denote. -/
def numberFrom (base value : Nat) : List Char → Except NumberError Nat
  | [] => .ok value
  | c :: rest =>
    match digit? base c with
    | none => .error .badDigit
    | some d =>
      if base * value + d < 2 ^ 32 then numberFrom base (base * value + d) rest
      else .error .tooLarge

def number (base : Nat) : List Char → Except NumberError Nat
  | [] => .error .empty
  | '+' :: _ | '-' :: _ => .error .sign
  | digits => numberFrom base 0 digits

/-- The character of a numeric reference, given what stands after its hash. -/
def numericReference (s : List Char) : Except NumberError Char := do
  let code ← match s with
    | 'x' :: digits => number 16 digits
    | digits => number 10 digits
  if code == 0 then throw .nul
  if code.isValidChar then return Char.ofNat code else throw (.noCharacter code)

/-- The character of a predefined entity. -/
def entity? (name : List Char) : Option Char :=
  if name == ['l', 't'] then some '<'
  else if name == ['g', 't'] then some '>'
  else if name == ['a', 'm', 'p'] then some '&'
  else if name == ['a', 'p', 'o', 's'] then some '\x27'
  else if name == ['q', 'u', 'o', 't'] then some '"'
  else none

/-- Replaces the references in `s`, which stands at `position` in its text. Every reference takes a
character, so that a bound of the length of the text is not met. -/
def resolveFrom : Nat → Nat → List Char → Except ReferenceError (List Char)
  | 0, _, s => .ok s
  | bound + 1, position, s =>
    let plain := s.takeWhile (· != '&')
    let start := position + Text.byteCount plain
    match s.dropWhile (· != '&') with
    | [] => .ok plain
    | _ :: body =>
      let name := body.takeWhile fun c => c != '&' && c != ';'
      let stop := start + 1 + Text.byteCount name
      match body.dropWhile fun c => c != '&' && c != ';' with
      | ';' :: rest => do
        let c ← match name with
          | '#' :: digits => (numericReference digits).mapError .badNumber
          | _ =>
            match entity? name with
            | some c => pure c
            | none => throw (.unknownEntity (start + 1) stop (String.ofList name))
        let more ← resolveFrom bound (stop + 1) rest
        return plain ++ c :: more
      | _ => .error (.unterminated start (start + 1 + Text.byteCount body))

/-- A text with its references replaced. -/
def resolve (s : List Char) : Except ReferenceError (List Char) := resolveFrom (s.length + 1) 0 s

end HazardJob.Markup
