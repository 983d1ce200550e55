import HazardJob.Binary64.Shortest
import HazardJob.Text.Basic

/-! Numbers as text. A number is written with its shortest digits and never with an exponent;
a whole number has no point. Messages and names of intensity measures use a second form, in which
whole numbers below 10^16 end in `.0`. Reading takes a decimal with an optional sign and exponent,
or a word for infinity or for the value that is not a number. -/
namespace HazardJob.Binary64

/-- Drops zeros at the end of the decimal places. -/
def dropPlaces (digits : Nat) : Nat → Nat × Nat
  | 0 => (digits, 0)
  | places + 1 => if digits % 10 = 0 then dropPlaces (digits / 10) places else (digits, places + 1)

/-- Writes `digits / 10 ^ places` with exactly that many places. -/
def placed (digits places : Nat) : List Char :=
  let written := Nat.toDigits 10 digits
  if places = 0 then written
  else
    let padded := List.replicate (places + 1 - written.length) '0' ++ written
    padded.take (padded.length - places) ++ '.' :: padded.drop (padded.length - places)

/-- The decimal in positional notation, without needless zeros. -/
def Decimal.positional (d : Decimal) : List Char :=
  match d.exponent with
  | .ofNat e => placed (d.digits * 10 ^ e) 0
  | .negSucc e => let (digits, places) := dropPlaces d.digits (e + 1); placed digits places

/-- The magnitude of a pattern. -/
def magnitudeText (pattern : Nat) : List Char :=
  if pattern = infinityPattern then ['i', 'n', 'f']
  else if pattern = 0 then ['0']
  else (shortest pattern).positional

/-- A number with its shortest digits, in positional notation. -/
def text : Binary64 → String
  | nan => "NaN"
  | signed negative pattern _ =>
    String.ofList ((if negative then ['-'] else []) ++ magnitudeText pattern)

/-- The pattern of 10^16. -/
def tenToSixteen : Nat := 0x4341C37937E08000

/-- The text of a number, with `.0` after a whole number below 10^16. -/
def pointedText (x : Binary64) : String :=
  match x with
  | signed _ pattern _ =>
    if x.isIntegral && pattern < tenToSixteen then x.text ++ ".0" else x.text
  | nan => x.text

/-- Numbers in brackets, as messages quote them. -/
def pointedList (xs : List Binary64) : String :=
  "[" ++ Text.join ", " (xs.map pointedText) ++ "]"

end HazardJob.Binary64
