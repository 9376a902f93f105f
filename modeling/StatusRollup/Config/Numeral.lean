import StatusRollup.Binary64
import StatusRollup.Config.Value
import StatusRollup.Json
import StatusRollup.Text.Digits

/-!
# Numbers of a configuration file

How a JSON number becomes a value of a layer. An integer of 64 bits is itself. Any other number goes
through an approximation: its digits are collected as long as they fit 64 bits, and what is left is
multiplied or divided by a power of ten in binary64. This rounds twice, so the last digits of a long
number may differ from those of the nearest binary64 number; a number beyond the range is refused.
-/

namespace StatusRollup

namespace Numeral

/-- Collects digits into a number below `2 ^ 64`; returns it with the digits that are left. -/
def collect (n : Nat) : List Char → Nat × List Char
  | [] => (n, [])
  | d :: ds =>
    let next := 10 * n + Text.digitValue d
    if next < UInt64.size then collect next ds else (n, d :: ds)

/-- The largest power of ten that binary64 holds. -/
def maxPower : Nat := 308

/-- A finite number times a power of ten, in one multiplication or in divisions one after the other;
none beyond the range. -/
def scale? (x : Binary64) (power : Int) : Option Binary64 :=
  if x.isZero then some x
  else if power < -(maxPower : Int) then scale? (x.divPower maxPower) (power + maxPower)
  else if power < 0 then some (x.divPower power.natAbs)
  else if power ≤ maxPower then
    let y := x.mulPower power.toNat
    if y.isInfinite then none else some y
  else none
termination_by power.natAbs
decreasing_by simp only [maxPower] at *; omega

/-- The approximation of a number. -/
def approximate? (negative : Bool) (whole fraction : List Char) (exponent : Int) :
    Option Binary64 :=
  let (n, left) := collect 0 whole
  let (m, unused) := collect n fraction
  let power := exponent + left.length - (fraction.length - unused.length : Nat)
  (scale? (.ofNat m) power).map fun x ↦ if negative then x.neg else x

/-- A number as a value of a layer. -/
def toValue? : Numeral → Option Value
  | int n =>
    if Int64.minValue.toInt ≤ n ∧ n ≤ Int64.maxValue.toInt then some (.int n)
    else (approximate? (n < 0) (Nat.toDigits 10 n.natAbs) [] 0).map .float
  | decimal negative whole fraction exponent =>
    (approximate? negative whole fraction exponent).map .float

end Numeral

namespace Value

mutual

/-- A JSON value as a value of a layer, if every part of it has one. -/
def ofJson? : Json → Option Value
  | .null => some null
  | .bool b => some (bool b)
  | .num n => n.toValue?
  | .str s => some (str s)
  | .arr items => (ofItems? items).map array
  | .obj fields => (ofFields? fields).map table
  | .unreadable => none

/-- The items of an array. -/
def ofItems? : List Json → Option (List Value)
  | [] => some []
  | j :: js => do
    let t ← ofJson? j
    let ts ← ofItems? js
    some (t :: ts)

/-- The fields of an object; of a repeated key the last one stays. -/
def ofFields? : List (String × Json) → Option (List (String × Value))
  | [] => some []
  | (key, j) :: rest => do
    let t ← ofJson? j
    let ts ← ofFields? rest
    some (if (ts.lookup key).isSome then ts else (key, t) :: ts)

end

end Value

end StatusRollup
