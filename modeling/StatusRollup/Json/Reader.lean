import StatusRollup.Json
import StatusRollup.Text.Digits

/-!
# Reading JSON text

A recursive-descent reader for the whole of the grammar. It bounds its recursion by the length of
the text, which no nesting and no run of items can exceed (`Json.read?`).

A string is read as a list of code units first: an escape may name half of a surrogate pair, and
only when the string is complete is it known whether each half has its other half
(`Json.pairUnits?`).
-/

namespace StatusRollup

namespace Json

/-- The four characters that JSON calls white space. -/
def isSpace (c : Char) : Bool := c == ' ' || c == '\t' || c == '\n' || c == '\r'

/-- The text without its leading white space. -/
def skipSpace (cs : List Char) : List Char := cs.dropWhile isSpace

/-- The characters that code units stand for: a surrogate pair is one character, and half of a pair
on its own is none. -/
def pairUnits? : List Nat → Option (List Char)
  | [] => some []
  | u :: v :: rest =>
    if 0xD800 ≤ u ∧ u < 0xDC00 ∧ 0xDC00 ≤ v ∧ v < 0xE000 then
      (pairUnits? rest).map (Char.ofNat (0x10000 + (u - 0xD800) * 0x400 + (v - 0xDC00)) :: ·)
    else if 0xD800 ≤ u ∧ u < 0xE000 then none
    else (pairUnits? (v :: rest)).map (Char.ofNat u :: ·)
  | [u] => if 0xD800 ≤ u ∧ u < 0xE000 then none else some [Char.ofNat u]

/-- The character of a one-letter escape. -/
def escaped? : Char → Option Char
  | '"' => some '"'
  | '\\' => some '\\'
  | '/' => some '/'
  | 'b' => some '\x08'
  | 'f' => some '\x0c'
  | 'n' => some '\n'
  | 'r' => some '\r'
  | 't' => some '\t'
  | _ => none

/-- The code units of a string and the text after its closing quote; the opening one is gone. -/
def readUnits? : List Char → Option (List Nat × List Char)
  | [] => none
  | '"' :: rest => some ([], rest)
  | '\\' :: 'u' :: a :: b :: c :: d :: rest => do
    let unit ← Text.hexValueOf? [a, b, c, d]
    let (units, rest) ← readUnits? rest
    some (unit :: units, rest)
  | '\\' :: c :: rest => do
    let e ← escaped? c
    let (units, rest) ← readUnits? rest
    some (e.toNat :: units, rest)
  | c :: rest =>
    if c.toNat < 0x20 ∨ c = '\\' then none
    else (readUnits? rest).map fun (units, rest) ↦ (c.toNat :: units, rest)

/-- A string after its opening quote: its text, if it has one, and what follows. -/
def readString? (cs : List Char) : Option (Option String × List Char) :=
  (readUnits? cs).map fun (units, rest) ↦ ((pairUnits? units).map String.ofList, rest)

/-- The fraction digits of a number; `none` where a point has no digit after it. -/
def readFractionDigits? : List Char → Option (List Char × List Char)
  | '.' :: rest =>
    let ds := rest.takeWhile Char.isDigit
    if ds.isEmpty then none else some (ds, rest.drop ds.length)
  | cs => some ([], cs)

/-- The exponent of a number, if it has one; `none` where the mark has no digit after it. -/
def readExponent? (cs : List Char) : Option (Option Int × List Char) :=
  match cs with
  | c :: rest =>
    if c = 'e' ∨ c = 'E' then
      let (negative, rest) := match rest with
        | '-' :: rest => (true, rest)
        | '+' :: rest => (false, rest)
        | rest => (false, rest)
      let ds := rest.takeWhile Char.isDigit
      if ds.isEmpty then none
      else
        let n : Int := Text.valueOf ds
        some (some (if negative then -n else n), rest.drop ds.length)
    else some (none, cs)
  | [] => some (none, cs)

/-- A number. Its whole part has no leading zero. -/
def readNumber? (cs : List Char) : Option (Numeral × List Char) := do
  let (negative, cs) := match cs with
    | '-' :: rest => (true, rest)
    | cs => (false, cs)
  let whole := cs.takeWhile Char.isDigit
  if whole.isEmpty ∨ (1 < whole.length ∧ whole.head? = some '0') then none
  else
    let (fraction, cs) ← readFractionDigits? (cs.drop whole.length)
    let (exponent, cs) ← readExponent? cs
    if fraction.isEmpty ∧ exponent.isNone ∧ ¬(negative ∧ whole = ['0']) then
      let n : Int := Text.valueOf whole
      some (.int (if negative then -n else n), cs)
    else
      some (.decimal negative whole fraction (exponent.getD 0), cs)

mutual

/-- A value at the start of a text without leading white space. -/
def readValue? : (fuel : Nat) → List Char → Option (Json × List Char)
  | 0, _ => none
  | fuel + 1, cs =>
    match cs with
    | 'n' :: 'u' :: 'l' :: 'l' :: rest => some (.null, rest)
    | 't' :: 'r' :: 'u' :: 'e' :: rest => some (.bool true, rest)
    | 'f' :: 'a' :: 'l' :: 's' :: 'e' :: rest => some (.bool false, rest)
    | '"' :: rest =>
      (readString? rest).map fun (s, rest) ↦ ((s.map Json.str).getD .unreadable, rest)
    | '[' :: rest =>
      match skipSpace rest with
      | ']' :: rest => some (.arr [], rest)
      | rest => (readItems? fuel rest).map fun (items, rest) ↦ (.arr items, rest)
    | '{' :: rest =>
      match skipSpace rest with
      | '}' :: rest => some (.obj [], rest)
      | rest => (readFields? fuel rest).map fun (fields, rest) ↦
          ((fields.map Json.obj).getD .unreadable, rest)
    | _ => (readNumber? cs).map fun (n, rest) ↦ (.num n, rest)

/-- The items of an array, up to and with its closing bracket. -/
def readItems? : (fuel : Nat) → List Char → Option (List Json × List Char)
  | 0, _ => none
  | fuel + 1, cs => do
    let (item, rest) ← readValue? fuel cs
    match skipSpace rest with
    | ']' :: rest => some ([item], rest)
    | ',' :: rest =>
      let (items, rest) ← readItems? fuel (skipSpace rest)
      some (item :: items, rest)
    | _ => none

/-- The fields of an object, up to and with its closing brace; no fields where a key has no text. -/
def readFields? : (fuel : Nat) → List Char → Option (Option (List (String × Json)) × List Char)
  | 0, _ => none
  | fuel + 1, cs => do
    let (key, rest) ← match cs with
      | '"' :: rest => readString? rest
      | _ => none
    let rest ← match skipSpace rest with
      | ':' :: rest => some (skipSpace rest)
      | _ => none
    let (value, rest) ← readValue? fuel rest
    let field := key.map fun key ↦ (key, value)
    match skipSpace rest with
    | '}' :: rest => some (field.map ([·]), rest)
    | ',' :: rest =>
      let (fields, rest) ← readFields? fuel (skipSpace rest)
      some (field.bind fun field ↦ fields.map (field :: ·), rest)
    | _ => none

end

/-- Reads a whole text as one value. Each level of nesting and each item takes at least one
character and at most two steps, so twice the length is enough fuel. -/
def read? (s : String) : Option Json :=
  let cs := s.toList
  match readValue? (2 * cs.length + 2) (skipSpace cs) with
  | some (j, rest) => if (skipSpace rest).isEmpty then some j else none
  | none => none

end Json

end StatusRollup
