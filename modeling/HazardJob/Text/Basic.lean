/-! Texts as lists of characters: white space, trimming, cutting at separators, lines, and the
number of bytes that a text takes in UTF-8. -/
namespace HazardJob.Text

-- Sums start from the zero of the core library, whichever library is imported beside it.
attribute [local instance (high)] Zero.ofOfNat0

/-- White space in the sense of Unicode: 25 characters, the no-break spaces among them. -/
def isBlank (c : Char) : Bool :=
  let n := c.toNat
  (0x9 ≤ n && n ≤ 0xD) || n == 0x20 || n == 0x85 || n == 0xA0 || n == 0x1680 ||
    (0x2000 ≤ n && n ≤ 0x200A) || n == 0x2028 || n == 0x2029 || n == 0x202F || n == 0x205F ||
    n == 0x3000

/-- A space or a tab. -/
def isIndent (c : Char) : Bool := c == ' ' || c == '\t'

/-- A space, a tab, a carriage return or a line feed. -/
def isLayout (c : Char) : Bool := c == ' ' || c == '\t' || c == '\r' || c == '\n'

/-- Drops the characters at the end that satisfy `p`. -/
def dropEndWhile (p : Char → Bool) (s : List Char) : List Char :=
  (s.reverse.dropWhile p).reverse

/-- Drops the characters at both ends that satisfy `p`. -/
def trimBy (p : Char → Bool) (s : List Char) : List Char := dropEndWhile p (s.dropWhile p)

/-- Drops white space at the end. -/
def trimEnd (s : List Char) : List Char := dropEndWhile isBlank s

/-- Drops white space at both ends. -/
def trim (s : List Char) : List Char := trimBy isBlank s

/-- The pieces between separators, in order; empty ones are kept, so there is at least one. -/
def pieces (isSeparator : Char → Bool) : List Char → List (List Char)
  | [] => [[]]
  | c :: rest =>
    if isSeparator c then [] :: pieces isSeparator rest
    else match pieces isSeparator rest with
      | piece :: more => (c :: piece) :: more
      | [] => [[c]]

/-- The pieces between separators that are not empty. -/
def fields (isSeparator : Char → Bool) (s : List Char) : List (List Char) :=
  (pieces isSeparator s).filter (!·.isEmpty)

/-- The longest stretches without white space. -/
def words (s : List Char) : List (List Char) := fields isBlank s

/-- The first line of a text, without the carriage return that a line feed may have before it. -/
def firstLine : List Char → List Char
  | [] => []
  | '\n' :: _ => []
  | '\r' :: '\n' :: _ => []
  | c :: rest => c :: firstLine rest

/-- The lines of a text. A line ends with a line feed, or with a carriage return and a line feed;
the last one may lack its end, and nothing after a final line feed is no line. -/
def lines (s : List Char) : List (List Char) :=
  go (pieces (· == '\n') s)
where
  go : List (List Char) → List (List Char)
    | [] => []
    | [last] => if last.isEmpty then [] else [last]
    | line :: more => (if line.getLast? == some '\r' then line.dropLast else line) :: go more

/-- Bytes of a text in UTF-8. -/
def byteCount (s : List Char) : Nat := (s.map Char.utf8Size).sum

/-- `s` without `ending`, if it ends so. -/
def dropEnding? (ending s : List Char) : Option (List Char) :=
  if s.length ≥ ending.length ∧ s.drop (s.length - ending.length) = ending then
    some (s.take (s.length - ending.length))
  else none

/-- Joins texts with a separator between neighbours. -/
def join (separator : String) (parts : List String) : String := separator.intercalate parts

end HazardJob.Text
