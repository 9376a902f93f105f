import StatusRollup.Binary64
import StatusRollup.Text.Digits

/-!
# Binary64 numbers as text

A number is written with the fewest decimal digits that read back as the same number, and of these
the nearest to it, without an exponent (`Binary64.write`). It is read from decimal text with an
optional exponent and rounded correctly (`Binary64.read?`); infinity and not-a-number have names.

The fewest digits are found by trying. For a count of digits, the decimal grid of that fineness has
two points next to the number, and if any point of the grid reads back as the number, one of these
does. Seventeen digits are always enough.
-/

namespace StatusRollup

namespace Binary64

/-! ### Writing -/

/-- A decimal number: digits, read as a natural number, times a power of ten. -/
structure Decimal where
  /-- The digits. -/
  digits : Nat
  /-- The power of ten. -/
  power : Int

/-- The unit in which the distances below are compared: a quarter of the smallest number. -/
def quarter : Nat := 4 * one

/-- The lowest point, in quarters, that reads back as a magnitude, or the bound below it. Just below
a power of two numbers lie twice as close. -/
def lowest (units : Nat) : Nat :=
  let s := step units
  if units = Nat.pow 2 units.log2 ∧ 1 < s then 4 * units - s else 4 * units - 2 * s

/-- The highest point, in quarters, that reads back as a magnitude, or the bound above it. -/
def highest (units : Nat) : Nat := 4 * units + 2 * step units

/-- A decimal number reads back as a magnitude. The ends of the interval do so when the last binary
digit is even. -/
def readsBack (units : Nat) (x : Decimal) : Bool :=
  let point := x.digits * Nat.pow 10 x.power.toNat * quarter
  let scale := Nat.pow 10 (-x.power).toNat
  let low := lowest units * scale
  let high := highest units * scale
  if units / step units % 2 = 0 then low ≤ point && point ≤ high else low < point && point < high

/-- How many decimal digits a magnitude has before the point; with a negative count, so many zeros
come first after it. -/
def wholeDigits (units : Nat) : Int :=
  ((Nat.toDigits 10 (units * Nat.pow 10 340 / one)).length : Int) - 340

/-- The decimal number with so many digits that reads back and lies nearest, if one does. -/
def withDigits? (units count : Nat) : Option Decimal :=
  let power := wholeDigits units - count
  let size := Nat.pow 10 power.toNat * quarter
  let value := 4 * units * Nat.pow 10 (-power).toNat
  let below := value / size
  let nearest := if 2 * (value % size) < size then [below, below + 1] else [below + 1, below]
  (nearest.map fun digits ↦ Decimal.mk digits power).find? (readsBack units)

/-- The decimal number with the fewest digits, from `count` on, that reads back. -/
def shortestFrom (units : Nat) : (left count : Nat) → Decimal
  | 0, count => (withDigits? units count).getD ⟨0, 0⟩
  | left + 1, count => (withDigits? units count).getD (shortestFrom units left (count + 1))

/-- The decimal number with the fewest digits that reads back. -/
def shortest (units : Nat) : Decimal := shortestFrom units 16 1

/-- The digits of a decimal number without an exponent. -/
def Decimal.chars (x : Decimal) : List Char :=
  if 0 ≤ x.power then
    Nat.toDigits 10 (x.digits * Nat.pow 10 x.power.toNat)
  else
    let places := (-x.power).toNat
    let ds := Text.padded (places + 1) x.digits
    let fraction := (ds.drop (ds.length - places)).reverse.dropWhile (· = '0')
    ds.take (ds.length - places) ++
      (if fraction.isEmpty then [] else '.' :: fraction.reverse)

/-- The text of a number. -/
def write : Binary64 → String
  | nan => "NaN"
  | infinite negative => (if negative then "-" else "") ++ "inf"
  | finite negative units =>
    (if negative then "-" else "") ++
      (if units = 0 then "0" else String.ofList (shortest units).chars)

/-! ### Reading -/

/-- The number nearest to digits times a power of ten. A power so large or small that it decides
the result is not computed. -/
def ofDecimal (negative : Bool) (digits : List Char) (power : Int) : Binary64 :=
  let n := Text.valueOf digits
  let size := (Nat.toDigits 10 n).length + power
  if n = 0 then finite negative 0
  else if 400 < size then infinite negative
  else if size < -400 then finite negative 0
  else ofRatio negative (n * Nat.pow 10 power.toNat) (Nat.pow 10 (-power).toNat)

/-- An exponent: a mark, a sign and digits, or nothing; the text must end there. -/
def readExponent? : List Char → Option Int
  | [] => some 0
  | c :: rest =>
    if c = 'e' ∨ c = 'E' then
      let (negative, ds) := match rest with
        | '-' :: ds => (true, ds)
        | '+' :: ds => (false, ds)
        | ds => (false, ds)
      if ds.isEmpty ∨ !ds.all Char.isDigit then none
      else some (if negative then -(Text.valueOf ds : Int) else Text.valueOf ds)
    else none

/-- Digits with a point among them or not, and an exponent. -/
def readDecimal? (negative : Bool) (cs : List Char) : Option Binary64 := do
  let whole := cs.takeWhile Char.isDigit
  let rest := cs.drop whole.length
  let (fraction, rest) := match rest with
    | '.' :: rest =>
      let ds := rest.takeWhile Char.isDigit
      (ds, rest.drop ds.length)
    | rest => ([], rest)
  if whole.isEmpty ∧ fraction.isEmpty then none
  else
    let exponent ← readExponent? rest
    some (ofDecimal negative (whole ++ fraction) (exponent - fraction.length))

/-- A number without its sign. -/
def readMagnitude? (negative : Bool) (cs : List Char) : Option Binary64 :=
  match String.ofList (cs.map Char.toLower) with
  | "inf" | "infinity" => some (infinite negative)
  | "nan" => some nan
  | _ => readDecimal? negative cs

/-- Reads a number. -/
def read? (s : String) : Option Binary64 :=
  match s.toList with
  | '-' :: cs => readMagnitude? true cs
  | '+' :: cs => readMagnitude? false cs
  | cs => readMagnitude? false cs

end Binary64

end StatusRollup
