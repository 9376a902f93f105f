/-!
# Binary64 numbers

The numbers of the 64-bit binary format. A finite number is a sign and a magnitude, and the
magnitude is counted in units of the smallest positive number, `2 ^ -1074`. So every finite
magnitude is a natural number, and exact arithmetic needs no fractions: a number of units belongs to
the format when all but its first 53 binary digits are zero.

Results are rounded to the nearest number of the format, a tie to the one with an even last digit
(`Binary64.roundUnits`); from `overflow` on they are infinite.
-/

namespace StatusRollup

/-- A number of the 64-bit binary format. -/
inductive Binary64 where
  /-- Not a number. -/
  | nan
  /-- Infinity. -/
  | infinite (negative : Bool)
  /-- A finite number, in units of `2 ^ -1074`. -/
  | finite (negative : Bool) (units : Nat)
  deriving DecidableEq

namespace Binary64

/-- How many units make one. -/
def one : Nat := Nat.pow 2 1074

/-- The magnitude from which on numbers are infinite. -/
def overflow : Nat := Nat.pow 2 2098

/-- The distance of neighbouring magnitudes around a number of units. -/
def step (units : Nat) : Nat := Nat.pow 2 (units.log2 - 52)

/-- The quotient rounded to the nearest natural number, a tie to the even one. -/
def divideEven (n d : Nat) : Nat :=
  let q := n / d
  let r := n % d
  if 2 * r < d then q else if d < 2 * r then q + 1 else q + q % 2

/-- The quotient rounded to the nearest magnitude of the format. -/
def roundUnits (n d : Nat) : Nat :=
  let s := step (n / d)
  divideEven n (d * s) * s

/-- The number with a sign and a magnitude. -/
def ofUnits (negative : Bool) (units : Nat) : Binary64 :=
  if units < overflow then finite negative units else infinite negative

/-- The number nearest to a quotient. -/
def ofRatio (negative : Bool) (n d : Nat) : Binary64 :=
  ofUnits negative (roundUnits (n * one) d)

/-- The number nearest to a natural number. -/
def ofNat (n : Nat) : Binary64 := ofRatio false n 1

/-- The same number with the other sign. -/
def neg : Binary64 → Binary64
  | nan => nan
  | infinite negative => infinite !negative
  | finite negative units => finite (!negative) units

/-- The product of a finite number and a power of ten that is itself rounded first. -/
def mulPower (x : Binary64) (power : Nat) : Binary64 :=
  match x, ofNat (Nat.pow 10 power) with
  | finite negative a, finite _ b => ofUnits negative (roundUnits (a * b) one)
  | x, _ => x

/-- The quotient of a finite number by a power of ten that is itself rounded first. -/
def divPower (x : Binary64) (power : Nat) : Binary64 :=
  match x, ofNat (Nat.pow 10 power) with
  | finite negative a, finite _ b => ofUnits negative (roundUnits (a * one) b)
  | x, _ => x

/-- The number is zero, of either sign. -/
def isZero : Binary64 → Bool
  | finite _ units => units = 0
  | _ => false

/-- The number is infinite. -/
def isInfinite : Binary64 → Bool
  | infinite _ => true
  | _ => false

/-- The nearest number of 64 bits without a sign, a half away from zero; what lies outside becomes
the nearest end, and what is no number becomes zero. -/
def toUInt64 : Binary64 → UInt64
  | nan => 0
  | infinite true => 0
  | infinite false => UInt64.ofNat (UInt64.size - 1)
  | finite true _ => 0
  | finite false units => UInt64.ofNat (min ((2 * units + one) / (2 * one)) (UInt64.size - 1))

end Binary64

end StatusRollup
