import StatusRollup.Pattern.Regex.Meaning
import StatusRollup.Pattern.Regex.Parser

/-!
# Regular expressions

`Regex.compile?` reads a pattern and gives it a meaning. A pattern may be refused for its syntax,
for a part without a meaning, or because it expands to more than `Regex.sizeLimit` (`Regex.size`
says how much an expression takes). A text matches when some part of it does.
-/

namespace StatusRollup.Pattern

namespace Regex

/-- A class that is one character. -/
def single? (s : CodeSet) : Option Nat :=
  match s.ranges with
  | [(a, b)] => if a = b then some a else none
  | _ => none

/-- The size of a class: a unit per byte of a single character; for more characters a node and its
end, and what their ranges take in branches. -/
def classSize (s : CodeSet) : Nat :=
  match single? s with
  | some n => 32 * (if n < 0x80 then 1 else if n < 0x800 then 2 else if n < 0x10000 then 3 else 4)
  | none =>
    let count := s.ranges.length
    if s.isAscii then 64 + (if 1 < count then 8 * count else 0) else 300 + 58 * count

/-- The expression can match nothing but the empty text. -/
def onlyEmpty : Expr CodeSet Look → Bool
  | .never => false
  | .empty => true
  | .one _ => false
  | .look _ => true
  | .seq a b => onlyEmpty a && onlyEmpty b
  | .alt a b => onlyEmpty a && onlyEmpty b
  | .capture a => onlyEmpty a
  | .rep a _ most => onlyEmpty a || most = some 0

/-- The size of a repetition of something of a given size. -/
def repSize (unit least : Nat) : (most : Option Nat) → Nat
  | none => max 1 least * unit + 40
  | some most =>
    if most = 0 then 32
    else least * unit + (if least < most then (most - least) * (unit + 40) + 32 else 0)

/-- The size an expression expands to, in bytes of its unrolled form. Repeating something empty
more than once makes no difference. -/
def size : Expr CodeSet Look → Nat
  | .never => 32
  | .empty => 32
  | .one s => classSize s
  | .look _ => 32
  | .seq a b => size a + size b
  | .alt a b => size a + size b + 72
  | .capture a => size a + 64
  | .rep a least most =>
    if onlyEmpty a then repSize (size a) (min least 1) (some (min (most.getD 1) 1))
    else repSize (size a) least most

/-- The largest size of a pattern. -/
def sizeLimit : Nat := 10 * 1024 * 1024

end Regex

/-- A regular expression. -/
structure Regex where
  /-- The pattern as written. -/
  source : String
  /-- What it means. -/
  expr : Expr CodeSet Regex.Look

namespace Regex

/-- Reads a pattern and gives it its meaning. -/
def compile? (source : String) : Option Regex := do
  let ast ← parse? source
  let (expr, _) ← ast.meaning? {}
  if size expr ≤ sizeLimit then some ⟨source, expr⟩ else none

/-- Some part of the text matches. -/
def occursIn (r : Regex) (text : String) : Bool :=
  r.expr.occursIn Look.holds (text.toList.map Char.toNat)

end Regex

end StatusRollup.Pattern
