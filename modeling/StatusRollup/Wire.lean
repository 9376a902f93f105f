import StatusRollup.Json

/-!
# The wire form of structures

A structure is written as an object with every field, and read from an object or from an array of
its fields in order. Unknown keys are ignored and a known key may come only once. An array may end
early if the fields it leaves out have defaults, and may not go on after the last field.

A reader asks for the `Slot` of each field. Three kinds of field differ in what they make of a slot
that gives nothing: a required field fails, a defaulted one takes its default, and an optional one
is absent unless the structure was an array that ended before it.

An enumeration is written as the name of its member, and read from the name or from an object with
the name as its only key and `null` as its value.
-/

namespace StatusRollup

namespace Json

/-- What the wire form of a structure gives for a field. -/
inductive Slot where
  /-- A value. -/
  | given (value : Json)
  /-- An object without the field's key. -/
  | absent
  /-- An array that ends before the field, or no structure at all. -/
  | cut

/-- The value can be a structure with these fields. -/
def isStruct (names : List String) : Json → Bool
  | obj fields => names.all fun name ↦ (fields.filter fun f ↦ f.1 == name).length ≤ 1
  | arr items => items.length ≤ names.length
  | _ => false

/-- What the value gives for one of these fields. -/
def slot (names : List String) (j : Json) (name : String) : Slot :=
  match j with
  | obj fields => (fields.lookup name).elim .absent .given
  | arr items => (items[names.idxOf name]?).elim .cut .given
  | _ => .cut

namespace Slot

/-- A field that has to be there. -/
def required {α : Type} (read : Json → Option α) : Slot → Option α
  | given j => read j
  | absent => none
  | cut => none

/-- A field with a default. -/
def defaulted {α : Type} (default : α) (read : Json → Option α) : Slot → Option α
  | given j => read j
  | absent => some default
  | cut => some default

/-- A field that may be missing or `null`. -/
def optional {α : Type} (read : Json → Option α) : Slot → Option (Option α)
  | given null => some none
  | given j => (read j).map some
  | absent => some none
  | cut => none

end Slot

/-- Reads a structure with these fields through their slots. -/
def readStruct {α : Type} (names : List String) (read : (String → Slot) → Option α) (j : Json) :
    Option α :=
  if j.isStruct names then read (j.slot names) else none

/-- A string. -/
def readStr : Json → Option String
  | str s => some s
  | _ => none

/-- A truth value. -/
def readBool : Json → Option Bool
  | bool b => some b
  | _ => none

/-- A natural number below a bound, written as an integer. -/
def readNat (bound : Nat) : Json → Option Nat
  | num (.int n) => if 0 ≤ n ∧ n < bound then some n.toNat else none
  | _ => none

/-- A natural number of 64 bits. -/
def readUInt64 (j : Json) : Option UInt64 := (j.readNat UInt64.size).map UInt64.ofNat

/-- A natural number of 32 bits. -/
def readUInt32 (j : Json) : Option UInt32 := (j.readNat UInt32.size).map UInt32.ofNat

/-- A list. -/
def readList {α : Type} (read : Json → Option α) : Json → Option (List α)
  | arr items => items.mapM read
  | _ => none

/-- A member of an enumeration, given by the members' names. -/
def readEnum {α : Type} (members : List (String × α)) : Json → Option α
  | str s => members.lookup s
  | obj [(s, null)] => members.lookup s
  | _ => none

/-- An optional value, `null` where there is none. -/
def ofOption {α : Type} (write : α → Json) : Option α → Json
  | none => null
  | some a => write a

/-- A list as an array. -/
def ofList {α : Type} (write : α → Json) (as : List α) : Json := arr (as.map write)

end Json

end StatusRollup
