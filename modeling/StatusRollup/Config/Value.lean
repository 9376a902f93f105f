import StatusRollup.Binary64
import StatusRollup.Json

/-!
# Layered values

Before a configuration is read, its layers are merged into one tree. Tables are merged key by key;
anything else replaces what was there. The keys of tables do not distinguish case, except inside
arrays, which are taken as they are.

A path leads from the root to a place in the tree. Setting the value of a path makes tables and
arrays on the way as needed, replacing what is no table or array (`Value.setPath`).
-/

namespace StatusRollup

/-- A value of a layer. -/
inductive Value where
  /-- Nothing. -/
  | null
  /-- A truth value. -/
  | bool (value : Bool)
  /-- An integer of 64 bits. -/
  | int (value : Int)
  /-- A number with a fraction, or too large an integer. -/
  | float (value : Binary64)
  /-- A text. -/
  | str (value : String)
  /-- A list. -/
  | array (items : List Value)
  /-- Values by key. -/
  | table (fields : List (String × Value))

namespace Value

/-- A key in lower case. Besides the letters of ASCII, one letter has a lower case in ASCII. -/
def lowerKey (key : String) : String :=
  String.ofList (key.toList.map fun c ↦ if c = '\u212a' then 'k' else c.toLower)

/-- Sets a key's value among fields, in its place or at the end. -/
def put (key : String) (value : Value) : List (String × Value) → List (String × Value)
  | [] => [(key, value)]
  | (k, v) :: rest => if k = key then (key, value) :: rest else (k, v) :: put key value rest

/-- The fields of a table; anything else has none. -/
def fields : Value → List (String × Value)
  | table fs => fs
  | _ => []

/-- The items of an array; anything else has none. -/
def items : Value → List Value
  | array is => is
  | _ => []

/-- The value of a key. -/
def get? (key : String) (t : Value) : Option Value := t.fields.lookup key

mutual

/-- Merges a value into what is there. A table without entries changes nothing that is there. -/
def mergeInto (old : Option Value) : Value → Value
  | table fs => mergeFields (old.getD (table [])) fs
  | null => null
  | bool b => bool b
  | int n => int n
  | float x => float x
  | str s => str s
  | array is => array is

/-- Merges fields into a value, one after the other. -/
def mergeFields (old : Value) : List (String × Value) → Value
  | [] => old
  | (key, value) :: rest =>
    mergeFields (table (put (lowerKey key) (mergeInto (old.get? (lowerKey key)) value) old.fields))
      rest

end

/-- A step of a path. -/
inductive PathStep where
  /-- A key of a table. -/
  | key (name : String)
  /-- An item of an array, counted from 0, or from the end if negative. -/
  | item (index : Int)
  deriving DecidableEq

/-- The place of an index in an array of some length. -/
def position (length : Nat) (index : Int) : Nat :=
  if 0 ≤ index then index.toNat else length - index.natAbs

/-- Sets an item of a list, which is made long enough first. -/
def setItem (i : Nat) (value : Value) (is : List Value) : List Value :=
  (is ++ List.replicate (i + 1 - is.length) null).set i value

/-- What a value becomes when the place at the end of a path is set. A table that is set under a key
is merged, one that is set as an item replaces it. -/
def setPath (value : Value) : List PathStep → Option Value → Value
  | [], old => mergeInto old value
  | .key name :: rest, old =>
    let fs := (old.getD null).fields
    table (put (lowerKey name) (setPath value rest (fs.lookup (lowerKey name))) fs)
  | .item index :: rest, old =>
    let is := (old.getD null).items
    let i := position is.length index
    array (setItem i (if rest.isEmpty then value else setPath value rest is[i]?) is)

end Value

end StatusRollup
