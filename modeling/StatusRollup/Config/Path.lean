import StatusRollup.Config.Value
import StatusRollup.Text.Digits

/-!
# Written paths

A path is written as a name and then any number of further names after a point and of indices in
square brackets. Names are made of letters, digits, spaces, underscores and hyphens. A text that is
no path stands for itself as a single name.
-/

namespace StatusRollup.Value

/-- A character of a name. -/
def isNameChar (c : Char) : Bool := c.isAlphanum || c == ' ' || c == '_' || c == '-'

/-- A name, which is not empty, and the text after it. -/
def readName? (cs : List Char) : Option (String × List Char) :=
  let name := cs.takeWhile isNameChar
  if name.isEmpty then none else some (String.ofList name, cs.drop name.length)

/-- A space or a tab. -/
def isGap (c : Char) : Bool := c == ' ' || c == '\t'

/-- An index of 64 bits up to and with its closing bracket, and the text after it. -/
def readIndex? (cs : List Char) : Option (Int × List Char) :=
  let cs := cs.dropWhile isGap
  let (negative, cs) := match cs with
    | '-' :: rest => (true, rest)
    | cs => (false, cs)
  let ds := cs.takeWhile Char.isDigit
  let n : Int := Text.valueOf ds
  let index := if negative then -n else n
  match (cs.drop ds.length).dropWhile isGap with
  | ']' :: rest =>
    if ds.isEmpty ∨ index < Int64.minValue.toInt ∨ Int64.maxValue.toInt < index then none
    else some (index, rest)
  | _ => none

/-- The steps after the first name, to the end of the text. Each takes a character, so the length is
enough fuel. -/
def readSteps? : (fuel : Nat) → List Char → Option (List PathStep)
  | _, [] => some []
  | 0, _ => none
  | fuel + 1, '.' :: rest => do
    let (name, rest) ← readName? rest
    let steps ← readSteps? fuel rest
    some (.key name :: steps)
  | fuel + 1, '[' :: rest => do
    let (index, rest) ← readIndex? rest
    let steps ← readSteps? fuel rest
    some (.item index :: steps)
  | _, _ => none

/-- Reads a whole text as a path. -/
def readPath? (text : String) : Option (List PathStep) := do
  let (name, rest) ← readName? text.toList
  let steps ← readSteps? rest.length rest
  some (.key name :: steps)

/-- The path that a text stands for. -/
def path (text : String) : List PathStep := (readPath? text).getD [.key text]

/-- Sets the value of a written path. -/
def set (t : Value) (text : String) (value : Value) : Value := setPath value (path text) (some t)

/-- Sets the values of several written paths. -/
def setAll (t : Value) (entries : List (String × Value)) : Value :=
  entries.foldl (fun t (text, value) ↦ t.set text value) t

end StatusRollup.Value
