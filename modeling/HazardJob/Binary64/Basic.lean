/-! Double-precision numbers. A number is a sign and the bit pattern of its magnitude; patterns are
in the order of the magnitudes they stand for, and the pattern after the largest finite one is
infinity. There is one value that is not a number. No arithmetic is needed beyond comparison: the
exact value of a pattern is counted in units of 2^-1074, the least positive magnitude. -/
namespace HazardJob

-- Powers of natural numbers are those of the core library, whatever is imported beside it.
attribute [instance (high), default_instance 20000] instPowNat

/-- The pattern of infinity: an exponent field of ones above 52 zero bits. -/
def infinityPattern : Nat := 0x7FF * 2 ^ 52

inductive Binary64 where
  | nan
  | signed (negative : Bool) (pattern : Nat) (le_infinity : pattern ≤ infinityPattern)
deriving DecidableEq

namespace Binary64

instance : Inhabited Binary64 := ⟨nan⟩

def zero : Binary64 := signed false 0 (Nat.zero_le _)

def infinity (negative : Bool) : Binary64 := signed negative infinityPattern (Nat.le_refl _)

/-- Neither an infinity nor the value that is not a number. -/
def isFinite : Binary64 → Bool
  | nan => false
  | signed _ pattern _ => pattern < infinityPattern

/-- The magnitude of a pattern in units of 2^-1074. -/
def units (pattern : Nat) : Nat :=
  if pattern < 2 ^ 52 then pattern
  else (2 ^ 52 + pattern % 2 ^ 52) * 2 ^ (pattern / 2 ^ 52 - 1)

/-- Position on the number line, both zeros at the origin. -/
def position (negative : Bool) (pattern : Nat) : Int :=
  if negative then -(pattern : Int) else pattern

/-- Numeric equality: the two zeros are equal, and the value that is not a number equals nothing. -/
def numericEq : Binary64 → Binary64 → Bool
  | signed a p _, signed b q _ => position a p == position b q
  | _, _ => false

instance : BEq Binary64 := ⟨numericEq⟩

/-- Numeric order; it never holds of the value that is not a number. -/
def numericLt : Binary64 → Binary64 → Bool
  | signed a p _, signed b q _ => position a p < position b q
  | _, _ => false

def numericLe (x y : Binary64) : Bool := numericLt x y || numericEq x y

/-- Place in the total order: negative numbers, minus zero, zero, positive numbers, and last the
value that is not a number. -/
def rank : Binary64 → Int
  | nan => (infinityPattern : Int) + 1
  | signed true pattern _ => -(pattern : Int) - 1
  | signed false pattern _ => pattern

instance : Ord Binary64 := ⟨compareOn rank⟩

instance : Std.TransOrd Binary64 := inferInstanceAs (Std.TransCmp (compareOn rank))

/-- The same number, with minus zero replaced by zero. -/
def withoutMinusZero : Binary64 → Binary64
  | signed true 0 _ => zero
  | x => x

/-- A finite number without a fractional part. -/
def isIntegral : Binary64 → Bool
  | nan => false
  | signed _ pattern _ => pattern < infinityPattern && units pattern % 2 ^ 1074 == 0

/-- The greatest pattern whose magnitude is at most `count` units. -/
def floorPattern (count : Nat) : Nat :=
  let shift := count.log2 - 52
  shift * 2 ^ 52 + count / 2 ^ shift

/-- The pattern nearest to `numerator / denominator` units; halfway, the even one of the two. -/
def nearestPattern (numerator denominator : Nat) : Nat :=
  let below := floorPattern (numerator / denominator)
  let twice := 2 * numerator
  let middle := denominator * (units below + units (below + 1))
  if twice < middle then below
  else if middle < twice then below + 1
  else below + below % 2

/-- The number with this sign and a magnitude of `numerator / denominator` units, rounded to the
nearest; what lies too far out becomes infinite. -/
def round (negative : Bool) (numerator denominator : Nat) : Binary64 :=
  signed negative (min (nearestPattern numerator denominator) infinityPattern)
    (Nat.min_le_right _ _)

/-- `digits * 10 ^ exponent`, rounded to the nearest. Exponents at which every result is infinite
or zero are answered without computing the power. -/
def ofDecimal (negative : Bool) (digits : Nat) (exponent : Int) : Binary64 :=
  if digits = 0 then signed negative 0 (Nat.zero_le _)
  else match exponent with
    | .ofNat e =>
      if 400 < e then infinity negative else round negative (digits * 10 ^ e * 2 ^ 1074) 1
    | .negSucc e =>
      if 400 + digits.log2 < e then signed negative 0 (Nat.zero_le _)
      else round negative (digits * 2 ^ 1074) (10 ^ (e + 1))

end Binary64
end HazardJob
