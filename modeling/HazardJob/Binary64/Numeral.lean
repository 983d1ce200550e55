import HazardJob.Binary64.Basic

/-! Decimal numerals. A numeral is an optional sign, digits with an optional point among or around
them, and an optional exponent. What the longest numeral at the start of a text denotes, and what
is left after it, is found by `scan`; an exponent mark without digits is its own outcome. -/
namespace HazardJob.Binary64

/-- Splits off the digits at the start. -/
def digitRun (s : List Char) : List Char × List Char :=
  (s.takeWhile Char.isDigit, s.dropWhile Char.isDigit)

/-- The natural number that digits denote. -/
def digitsValue (digits : List Char) : Nat :=
  digits.foldl (fun n d => 10 * n + (d.toNat - '0'.toNat)) 0

/-- Splits off a sign; `true` is minus. -/
def signAt : List Char → Bool × List Char
  | '-' :: rest => (true, rest)
  | '+' :: rest => (false, rest)
  | rest => (false, rest)

/-- Digits before and after the point at the start of a text, and what follows: `12`, `12.`, `1.5`
and `.5` are such starts, a point alone is none. -/
def mantissaAt? (s : List Char) : Option (List Char × List Char × List Char) :=
  match digitRun s with
  | ([], '.' :: rest) =>
    match digitRun rest with
    | ([], _) => none
    | (decimals, rest) => some ([], decimals, rest)
  | ([], _) => none
  | (whole, '.' :: rest) => some (whole, (digitRun rest).1, (digitRun rest).2)
  | (whole, rest) => some (whole, [], rest)

/-- What stands where an exponent may stand. -/
inductive ExponentPart where
  | absent
  | dangling
  | value (exponent : Int) (rest : List Char)

def exponentAfter (rest : List Char) : ExponentPart :=
  let (minus, rest) := signAt rest
  match digitRun rest with
  | ([], _) => .dangling
  | (digits, rest) =>
    .value (if minus then -(digitsValue digits : Int) else digitsValue digits) rest

def exponentAt : List Char → ExponentPart
  | 'e' :: rest | 'E' :: rest => exponentAfter rest
  | _ => .absent

/-- The number at the start of a text. -/
inductive Scan where
  /-- No numeral starts here. -/
  | none
  /-- A mantissa is followed by an exponent mark without digits. -/
  | dangling
  | number (value : Binary64) (rest : List Char)

/-- The value of a numeral given by its parts. -/
def ofParts (negative : Bool) (whole decimals : List Char) (exponent : Int) : Binary64 :=
  ofDecimal negative (digitsValue (whole ++ decimals)) (exponent - decimals.length)

/-- The longest numeral at the start of a text. -/
def scan (s : List Char) : Scan :=
  let (negative, unsigned) := signAt s
  match mantissaAt? unsigned with
  | .none => .none
  | .some (whole, decimals, rest) =>
    match exponentAt rest with
    | .absent => .number (ofParts negative whole decimals 0) rest
    | .dangling => .dangling
    | .value exponent rest => .number (ofParts negative whole decimals exponent) rest

/-- `s` without `word` in front, in capitals or small letters. -/
def dropWord? (word s : List Char) : Option (List Char) :=
  if s.length ≥ word.length ∧ (s.take word.length).map Char.toLower = word then
    some (s.drop word.length)
  else .none

/-- A whole text as a number: a numeral, or `inf`, `infinity` or `nan` in any case with an optional
sign. -/
def ofText? (s : List Char) : Option Binary64 :=
  match scan s with
  | .number value [] => some value
  | _ =>
    let (negative, unsigned) := signAt s
    match unsigned.map Char.toLower with
    | ['i', 'n', 'f'] | ['i', 'n', 'f', 'i', 'n', 'i', 't', 'y'] => some (infinity negative)
    | ['n', 'a', 'n'] => some nan
    | _ => .none

end HazardJob.Binary64
