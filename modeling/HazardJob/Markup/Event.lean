import HazardJob.Markup.Error
import HazardJob.Text.Basic

/-! A marked-up document as the sequence of its parts: tags, texts, and the markup between them. A
closing tag has to name the element that was opened last; elements left open at the end of the
document are not reported. White space at the ends of a text does not belong to it. -/
namespace HazardJob.Markup

inductive Event where
  /-- An opening tag, by its text. -/
  | opening (tag : List Char)
  /-- A tag that opens and closes an element, by its text without the closing slash. -/
  | selfClosing (tag : List Char)
  | closing (name : List Char)
  | text (raw : List Char)
  | characterData (content : List Char)
  | comment (content : List Char)
  | instruction (content : List Char)
  | doctype (content : List Char)
deriving DecidableEq

/-- White space of markup: a space, a tab, a carriage return or a line feed. -/
def isSpace (c : Char) : Bool := c == ' ' || c == '\r' || c == '\n' || c == '\t'

/-- The name of a tag: its text up to white space. -/
def tagName (tag : List Char) : List Char := tag.takeWhile (!isSpace ·)

/-- A name without what stands before its first colon. -/
def localName (name : List Char) : List Char :=
  match name.dropWhile (· != ':') with
  | _ :: rest => rest
  | [] => name

/-- Splits at the first `>` where `closes` holds of what stands before it, nearest first. -/
def splitAtClose (closes : List Char → Bool) (before : List Char) :
    List Char → Option (List Char × List Char)
  | [] => none
  | c :: rest =>
    if c == '>' && closes before then some (before.reverse, rest)
    else splitAtClose closes (c :: before) rest

/-- Splits at the first `>` outside of quotes; `quote` is the mark of the quotes that are open. -/
def splitTag (quote : Option Char) (before : List Char) :
    List Char → Option (List Char × List Char)
  | [] => none
  | c :: rest =>
    match quote with
    | some mark => splitTag (if c == mark then none else some mark) (c :: before) rest
    | none =>
      if c == '>' then some (before.reverse, rest)
      else splitTag (if c == '"' || c == '\x27' then some c else none) (c :: before) rest

/-- What stands before the end of a comment, nearest first. -/
def closesComment (before : List Char) : Bool :=
  ['-', '-'].isPrefixOf before && before.length > 4

def closesCharacterData (before : List Char) : Bool := [']', ']'].isPrefixOf before

/-- As many marks open as close. -/
def closesDoctype (before : List Char) : Bool := before.count '<' == before.count '>'

def closesInstruction (before : List Char) : Bool := before.head? == some '?'

/-- The event of markup that starts with `!`, and the rest of the document. -/
def declaration (s : List Char) : Except Error (Event × List Char) :=
  match s.drop 1 with
  | '-' :: _ =>
    match splitAtClose closesComment [] s with
    | some (content, rest) =>
      if ['!', '-', '-'].isPrefixOf content then
        .ok (.comment ((content.drop 3).take (content.length - 5)), rest)
      else .error (.unclosed .comment)
    | none => .error (.unclosed .comment)
  | '[' :: _ =>
    match splitAtClose closesCharacterData [] s with
    | some (content, rest) =>
      if "![CDATA[".toList.isPrefixOf content then
        .ok (.characterData ((content.drop 8).take (content.length - 10)), rest)
      else .error (.unclosed .characterData)
    | none => .error (.unclosed .characterData)
  | 'D' :: _ | 'd' :: _ =>
    match splitAtClose closesDoctype [] s with
    | some (content, rest) =>
      if (content.take 8).map Char.toUpper == "!DOCTYPE".toList then
        let body := (content.drop 8).dropWhile isSpace
        if body.isEmpty then .error .namelessDoctype else .ok (.doctype body, rest)
      else .error (.unclosed .doctype)
    | none => .error (.unclosed .doctype)
  | _ => .error .unknownMarkup

/-- The event of markup that starts with `?`, and the rest of the document. -/
def instruction (s : List Char) : Except Error (Event × List Char) :=
  match splitAtClose closesInstruction [] s with
  | some (content, rest) =>
    if content.length > 1 then .ok (.instruction ((content.drop 1).dropLast), rest)
    else .error (.unclosed .instruction)
  | none => .error (.unclosed .instruction)

/-- The name in a closing tag. White space after it does not count, unless there is nothing else. -/
def closingName (content : List Char) : List Char :=
  if content.all isSpace then content else Text.dropEndWhile isSpace content

/-- The event of the markup after a `<`, the names of the elements then open, innermost first, and
the rest of the document. -/
def markup (opened : List (List Char)) (s : List Char) :
    Except Error (Event × List (List Char) × List Char) :=
  match s with
  | [] => .error (.unclosed .tag)
  | '!' :: _ => (declaration s).map fun r => (r.1, opened, r.2)
  | '?' :: _ => (instruction s).map fun r => (r.1, opened, r.2)
  | '/' :: _ =>
    match splitTag none [] s with
    | none => .error (.unclosed .tag)
    | some (content, rest) =>
      let name := closingName (content.drop 1)
      match opened with
      | [] => .error (.unmatchedEnd (String.ofList name))
      | expected :: outer =>
        if name == expected then .ok (.closing name, outer, rest)
        else .error (.mismatchedEnd (String.ofList expected) (String.ofList name))
  | _ =>
    match splitTag none [] s with
    | none => .error (.unclosed .tag)
    | some (content, rest) =>
      if content.getLast? == some '/' then .ok (.selfClosing content.dropLast, opened, rest)
      else .ok (.opening content, tagName content :: opened, rest)

/-- The events of a document up to its end or to an error. Every round takes a character, so that a
bound beyond the length is not met. -/
def eventsFrom : Nat → List (List Char) → List Char → List Event × Option Error
  | 0, _, _ => ([], none)
  | bound + 1, opened, s =>
    let s := s.dropWhile isSpace
    let raw := s.takeWhile (· != '<')
    let texts := if raw.isEmpty then [] else [Event.text (Text.dropEndWhile isSpace raw)]
    match s.dropWhile (· != '<') with
    | [] => (texts, none)
    | _ :: afterMark =>
      match markup opened afterMark with
      | .error e => (texts, some e)
      | .ok (event, opened, rest) =>
        let (events, e) := eventsFrom bound opened rest
        (texts ++ event :: events, e)

/-- The byte order mark that may stand before a document. -/
def dropByteOrderMark : List Char → List Char
  | [] => []
  | c :: rest => if c.toNat == 0xFEFF then rest else c :: rest

/-- The events of a document up to its end or to an error. -/
def events (s : List Char) : List Event × Option Error :=
  eventsFrom (s.length + 1) [] (dropByteOrderMark s)

end HazardJob.Markup
