/-!
# Sets of code points

A set is a list of closed ranges of numbers. The operations return ranges that are sorted and apart,
so that complements can be read off the gaps. The same sets serve for bytes.
-/

namespace StatusRollup

/-- A set of numbers up to the last code point, as closed ranges. -/
structure CodeSet where
  /-- First and last member of each range. -/
  ranges : List (Nat × Nat)
  deriving DecidableEq

namespace CodeSet

/-- The last code point. -/
def last : Nat := 0x10FFFF

/-- The number lies in one of the ranges. -/
def contains (s : CodeSet) (n : Nat) : Bool :=
  s.ranges.any fun (a, b) ↦ a ≤ n && n ≤ b

/-- Joins ranges that meet or overlap, given in the order of their first members; `a` and `b` bound
the range in hand. -/
def join (a b : Nat) : List (Nat × Nat) → List (Nat × Nat)
  | [] => [(a, b)]
  | (c, d) :: rest => if c ≤ b + 1 then join a (max b d) rest else (a, b) :: join c d rest

/-- The set of the given ranges, sorted and apart. -/
def ofRanges (ranges : List (Nat × Nat)) : CodeSet :=
  match ranges.mergeSort fun p q ↦ p.1 ≤ q.1 with
  | [] => ⟨[]⟩
  | (a, b) :: rest => ⟨join a b rest⟩

/-- The ranges between those given, from `start` on. -/
def gaps (start : Nat) : List (Nat × Nat) → List (Nat × Nat)
  | [] => if start ≤ last then [(start, last)] else []
  | (a, b) :: rest => if start < a then (start, a - 1) :: gaps (b + 1) rest else gaps (b + 1) rest

/-- One number. -/
def single (n : Nat) : CodeSet := ⟨[(n, n)]⟩

/-- Every code point. -/
def all : CodeSet := ⟨[(0, last)]⟩

/-- Everything that is not in the set. -/
def compl (s : CodeSet) : CodeSet := ⟨gaps 0 (ofRanges s.ranges).ranges⟩

/-- The members of either set. -/
def union (s t : CodeSet) : CodeSet := ofRanges (s.ranges ++ t.ranges)

/-- The members of both sets. -/
def inter (s t : CodeSet) : CodeSet := (s.compl.union t.compl).compl

/-- The members of the first set that are not in the second. -/
def diff (s t : CodeSet) : CodeSet := s.inter t.compl

/-- The members of exactly one of the sets. -/
def symmDiff (s t : CodeSet) : CodeSet := (s.diff t).union (t.diff s)

/-- Every member is below 128. -/
def isAscii (s : CodeSet) : Bool := s.ranges.all fun (_, b) ↦ b < 128

/-- The set or its complement. -/
def negateIf (negated : Bool) (s : CodeSet) : CodeSet := if negated then s.compl else s

end CodeSet

end StatusRollup
