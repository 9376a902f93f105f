/-!
# Decimal and hexadecimal digits

Numbers in texts: a run of digits is valued by `valueOf`, and a number is written with at least a
given count of digits by `padded`.
-/

namespace StatusRollup.Text

/-- The digit of a number below ten. -/
def digit (n : Nat) : Char :=
  Char.ofNat ('0'.toNat + n)

/-- The value of an ASCII digit. -/
def digitValue (c : Char) : Nat :=
  c.toNat - '0'.toNat

/-- The number that a run of digits writes. -/
def valueOf (ds : List Char) : Nat :=
  ds.foldl (fun n c ↦ 10 * n + digitValue c) 0

/-- The value of a hexadecimal digit, in either case. -/
def hexValue? (c : Char) : Option Nat :=
  if '0' ≤ c ∧ c ≤ '9' then some (c.toNat - '0'.toNat)
  else if 'a' ≤ c ∧ c ≤ 'f' then some (c.toNat - 'a'.toNat + 10)
  else if 'A' ≤ c ∧ c ≤ 'F' then some (c.toNat - 'A'.toNat + 10)
  else none

/-- The number that a run of hexadecimal digits writes, if it is one. -/
def hexValueOf? (ds : List Char) : Option Nat :=
  ds.foldlM (fun n c ↦ (hexValue? c).map (16 * n + ·)) 0

/-- The last `width` decimal digits of a number, zeros in front. -/
def fixed : (width : Nat) → Nat → List Char
  | 0, _ => []
  | w + 1, n => fixed w (n / 10) ++ [digit (n % 10)]

/-- The decimal digits of a number, with zeros in front up to `width` digits. -/
def padded (width n : Nat) : List Char :=
  let ds := Nat.toDigits 10 n
  List.replicate (width - ds.length) '0' ++ ds

end StatusRollup.Text
