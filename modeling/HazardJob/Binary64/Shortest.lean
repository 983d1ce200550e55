import HazardJob.Binary64.Basic

/-! The shortest decimal of a positive finite number: the fewest digits that read back as the same
number, and of those the decimal nearest to it. Grids of one, two, … digits are tried in turn; on
each grid only the two neighbours of the number can be the answer. -/
namespace HazardJob.Binary64

/-- The decimal `digits * 10 ^ exponent`. -/
structure Decimal where
  digits : Nat
  exponent : Int
deriving DecidableEq

/-- Decimal digits of a natural number; zero has one. -/
def digitCount (n : Nat) : Nat := (Nat.toDigits 10 n).length

/-- The exponent `e` with `10 ^ e ≤ value < 10 ^ (e + 1)`, for the positive value of `count`
units. Below one, `-e` is the least `k` with `2 ^ 1074 / count ≤ 10 ^ k`. -/
def leadingExponent (count : Nat) : Int :=
  let whole := count / 2 ^ 1074
  if whole = 0 then -(digitCount ((2 ^ 1074 - 1) / count) : Int) else (digitCount whole : Int) - 1

/-- The decimal reads back as the positive number with this pattern. -/
def Decimal.readsBackAs (d : Decimal) (pattern : Nat) : Bool :=
  match ofDecimal false d.digits d.exponent with
  | signed _ p _ => p == pattern
  | nan => false

/-- The answer on the grid `10 ^ exponent`, if one of the two neighbours there reads back: of two
that do the nearer one, and halfway the greater one. -/
def neighbour? (pattern : Nat) (exponent : Int) : Option Decimal :=
  let count := units pattern
  let (numerator, denominator) : Nat × Nat := match exponent with
    | .ofNat e => (count, 2 ^ 1074 * 10 ^ e)
    | .negSucc e => (count * 10 ^ (e + 1), 2 ^ 1074)
  let low : Decimal := ⟨numerator / denominator, exponent⟩
  let high : Decimal := ⟨numerator / denominator + 1, exponent⟩
  match low.readsBackAs pattern, high.readsBackAs pattern with
  | true, true => some (if 2 * (numerator % denominator) < denominator then low else high)
  | true, false => some low
  | false, true => some high
  | false, false => none

/-- The exact decimal of `count` units. -/
def exactDecimal (count : Nat) : Decimal := ⟨count * 5 ^ 1074, -1074⟩

/-- The first answer on a grid of 1 to 17 digits. Seventeen always suffice; the exact decimal
stands where the search would end without one. -/
def shortest (pattern : Nat) : Decimal :=
  let lead := leadingExponent (units pattern)
  ((List.range 17).findSome? fun (more : Nat) => neighbour? pattern (lead - more)).getD
    (exactDecimal (units pattern))

end HazardJob.Binary64
