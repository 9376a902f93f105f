/-!
# JSON values

A value keeps what a reader can tell apart: the order and repetition of an object's keys, and
whether a number is written as an integer. `Json.unreadable` stands for text that is well formed and
still has no value, because a string in it holds half of a surrogate pair; such text may be skipped
but never decoded.

A number is an integer exactly when it has neither a fraction nor an exponent and is not a negative
zero, which no integer can express.
-/

namespace StatusRollup

/-- A number as it is written. -/
inductive Numeral where
  /-- An integer. -/
  | int (value : Int)
  /-- A number with a fraction or an exponent, or a negative zero. -/
  | decimal (negative : Bool) (whole fraction : List Char) (exponent : Int)
  deriving DecidableEq

/-- A JSON value. -/
inductive Json where
  /-- `null`. -/
  | null
  /-- `true` or `false`. -/
  | bool (value : Bool)
  /-- A number. -/
  | num (value : Numeral)
  /-- A string. -/
  | str (value : String)
  /-- An array. -/
  | arr (items : List Json)
  /-- An object. -/
  | obj (fields : List (String × Json))
  /-- Well-formed text without a value. -/
  | unreadable

namespace Json

/-- A natural number as a value. -/
def ofNat (n : Nat) : Json := num (.int n)

/-- The value of a key; the first one, where it is repeated. -/
def get? (key : String) : Json → Option Json
  | obj fields => fields.lookup key
  | _ => none

mutual

/-- The value in which each object keeps only the last of its repeated keys. -/
def lastWins : Json → Json
  | arr items => arr (lastWinsItems items)
  | obj fields => obj (lastWinsFields fields)
  | j => j

/-- `lastWins` on each item. -/
def lastWinsItems : List Json → List Json
  | [] => []
  | j :: js => lastWins j :: lastWinsItems js

/-- `lastWins` on each value; a key that comes again is dropped. -/
def lastWinsFields : List (String × Json) → List (String × Json)
  | [] => []
  | (key, j) :: rest =>
    if rest.any fun f ↦ f.1 == key then lastWinsFields rest
    else (key, lastWins j) :: lastWinsFields rest

end

mutual

/-- How deep arrays and objects nest; a scalar has depth 0. -/
def depth : Json → Nat
  | arr items => itemsDepth items + 1
  | obj fields => fieldsDepth fields + 1
  | _ => 0

/-- The depth of the deepest item. -/
def itemsDepth : List Json → Nat
  | [] => 0
  | j :: js => max (depth j) (itemsDepth js)

/-- The depth of the deepest value. -/
def fieldsDepth : List (String × Json) → Nat
  | [] => 0
  | (_, j) :: rest => max (depth j) (fieldsDepth rest)

end

end Json

end StatusRollup
