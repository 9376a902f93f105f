import StatusRollup.Text.Digits
import StatusRollup.Unicode.CodeSet

/-!
# Packed tables

Tables of the Unicode character database as texts of words between white space. Two forms are used.

* Runs: the code points from 0 on in runs of equal value. A word is the value's code, of a fixed
  width, and one less than the length of the run, in hexadecimal and left out if it is zero.
* Gaps: a set of code points. A word is the count of code points before the next range and, after a
  plus sign, one less than the length of that range, again left out if it is zero.
-/

namespace StatusRollup.Unicode

/-- The words of a text. -/
def words (text : String) : List (List Char) :=
  (text.toList.splitOnP Char.isWhitespace).filter fun w ↦ !w.isEmpty

/-- The number a hexadecimal word writes; the empty word is 0. -/
def hex (ds : List Char) : Nat := (Text.hexValueOf? ds).getD 0

/-- A run of code points with the same value. -/
structure Run where
  /-- The code of the value. -/
  code : List Char
  /-- The first code point. -/
  first : Nat
  /-- The last code point. -/
  last : Nat

/-- Reads words as runs with codes of a fixed width, starting at a code point. -/
def runsFrom (width start : Nat) : List (List Char) → List Run
  | [] => []
  | w :: ws =>
    let last := start + hex (w.drop width)
    ⟨w.take width, start, last⟩ :: runsFrom width (last + 1) ws

/-- Reads a table of runs. -/
def runs (width : Nat) (text : String) : List Run := runsFrom width 0 (words text)

/-- The code points whose value passes a test. -/
def select (test : List Char → Bool) (rs : List Run) : CodeSet :=
  .ofRanges ((rs.filter fun r ↦ test r.code).map fun r ↦ (r.first, r.last))

/-- Reads words as gaps, starting at a code point. -/
def gapsFrom (start : Nat) : List (List Char) → List (Nat × Nat)
  | [] => []
  | w :: ws =>
    let first := start + hex (w.takeWhile (· ≠ '+'))
    let last := first + hex ((w.dropWhile (· ≠ '+')).drop 1)
    (first, last) :: gapsFrom (last + 1) ws

/-- Reads a table of gaps. -/
def gapSet (text : String) : CodeSet := ⟨gapsFrom 0 (words text)⟩

/-- Reads words of the form `code:name,name` as the names of each code. -/
def aliases (text : String) : List (String × String) :=
  (words text).flatMap fun w ↦
    let code := String.ofList (w.takeWhile (· ≠ ':'))
    (((w.dropWhile (· ≠ ':')).drop 1).splitOn ',').map fun name ↦ (String.ofList name, code)

end StatusRollup.Unicode
