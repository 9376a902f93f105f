import StatusRollup.Unicode.CodeSet

/-!
# Expressions over symbols

The common core of globs and regular expressions. Symbols are numbers: bytes for a glob, code points
for a regular expression. An expression relates positions of a text: where a match may start to
where it may end.

Matching follows this reading. A set of positions is a number whose bits are the positions, and an
expression maps the set of starts to the set of ends (`Expr.run`): a symbol class keeps the
positions whose next symbol it holds and moves them by one, a boundary condition keeps those where
it holds, alternatives are joined, and a repetition is a fixed point that is reached after at most
as many rounds as there are positions. The text enters only through the sets that classes and
conditions are prepared as (`Expr.prepare`).
-/

namespace StatusRollup.Pattern

/-- An expression whose symbol classes are of one type and whose boundary conditions of another. -/
inductive Expr (σ τ : Type) where
  /-- Nothing matches. -/
  | never
  /-- The empty text. -/
  | empty
  /-- One symbol of a class. -/
  | one (symbols : σ)
  /-- The empty text where a condition holds. -/
  | look (condition : τ)
  /-- One after the other. -/
  | seq (first second : Expr σ τ)
  /-- Either one. -/
  | alt (first second : Expr σ τ)
  /-- A captured group. -/
  | capture (body : Expr σ τ)
  /-- At least `least` and at most `most` times; any number from `least` on without `most`. -/
  | rep (body : Expr σ τ) (least : Nat) (most : Option Nat)

namespace Expr

/-- Replaces symbol classes and conditions. -/
def map {σ τ σ' τ' : Type} (f : σ → σ') (g : τ → τ') : Expr σ τ → Expr σ' τ'
  | never => never
  | empty => empty
  | one s => one (f s)
  | look t => look (g t)
  | seq a b => seq (a.map f g) (b.map f g)
  | alt a b => alt (a.map f g) (b.map f g)
  | capture a => capture (a.map f g)
  | rep a least most => rep (a.map f g) least most

/-- One after the other, the first of the list first. -/
def seqAll {σ τ : Type} : List (Expr σ τ) → Expr σ τ
  | [] => empty
  | [e] => e
  | e :: es => seq e (seqAll es)

/-- Any one of the list. -/
def altAll {σ τ : Type} : List (Expr σ τ) → Expr σ τ
  | [] => never
  | [e] => e
  | e :: es => alt e (altAll es)

/-! ### Sets of positions -/

/-- Applies a step so many times. It stops early where another round changes nothing. -/
def iterate (step : Nat → Nat) : (times : Nat) → Nat → Nat
  | 0, set => set
  | times + 1, set =>
    let next := step set
    if next = set then set else iterate step times next

/-- The positions reached by at most so many steps. -/
def reach (step : Nat → Nat) : (times : Nat) → Nat → Nat
  | 0, set => set
  | times + 1, set =>
    let next := set ||| step set
    if next = set then set else reach step times next

/-- The ends of the matches that start in a set, for a text of `size` symbols. Classes and
conditions are given by the positions they hold at. -/
def run (size : Nat) : Expr Nat Nat → Nat → Nat
  | never, _ => 0
  | empty, set => set
  | one here, set => (set &&& here) <<< 1
  | look here, set => set &&& here
  | seq a b, set => run size b (run size a set)
  | alt a b, set => run size a set ||| run size b set
  | capture a, set => run size a set
  | rep a least most, set =>
    let rest := match most with
      | some n => n - least
      | none => size + 1
    reach (fun s ↦ run size a s) rest (iterate (fun s ↦ run size a s) least set)

/-- The positions at which a class holds the next symbol, counted from `bit`. -/
def symbolMask (holds : Nat → Bool) (bit : Nat) : List Nat → Nat
  | [] => 0
  | x :: xs => (if holds x then bit else 0) ||| symbolMask holds (2 * bit) xs

/-- The positions at which a condition on the symbols before and after holds, counted from `bit`. -/
def boundaryMask (holds : Option Nat → Option Nat → Bool) (bit : Nat) (before : Option Nat) :
    List Nat → Nat
  | [] => if holds before none then bit else 0
  | x :: xs =>
    (if holds before (some x) then bit else 0) ||| boundaryMask holds (2 * bit) (some x) xs

/-- The expression with each class and condition as its positions in a text. -/
def prepare {τ : Type} (holds : τ → Option Nat → Option Nat → Bool) (text : List Nat)
    (e : Expr CodeSet τ) : Expr Nat Nat :=
  e.map (fun s ↦ symbolMask s.contains 1 text) (fun t ↦ boundaryMask (holds t) 1 none text)

/-- Some part of the text matches. -/
def occursIn {τ : Type} (holds : τ → Option Nat → Option Nat → Bool) (e : Expr CodeSet τ)
    (text : List Nat) : Bool :=
  run text.length (e.prepare holds text) (Nat.pow 2 (text.length + 1) - 1) != 0

/-- The whole text matches. -/
def isWhole {τ : Type} (holds : τ → Option Nat → Option Nat → Bool) (e : Expr CodeSet τ)
    (text : List Nat) : Bool :=
  (run text.length (e.prepare holds text) 1).testBit text.length

end Expr

end StatusRollup.Pattern
