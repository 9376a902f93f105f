import StatusRollup.Text.Digits

/-!
# Event identifiers

An identifier is 32 hexadecimal digits, written in lower case in groups of 8, 4, 4, 4 and 12 joined
by hyphens. It is read in either case, also without hyphens, in braces, or after `urn:uuid:`.
-/

namespace StatusRollup

/-- An identifier of 128 bits, as hexadecimal digits. -/
structure Uuid where
  /-- The digits. -/
  digits : List (Fin 16)
  /-- There are 32 of them. -/
  length_eq : digits.length = 32
  deriving DecidableEq

namespace Uuid

/-- The lower-case character of a hexadecimal digit. -/
def digitChar (d : Fin 16) : Char :=
  if d.val < 10 then Char.ofNat ('0'.toNat + d.val) else Char.ofNat ('a'.toNat + (d.val - 10))

/-- The digit of a character, in either case. -/
def digit? (c : Char) : Option (Fin 16) :=
  (Text.hexValue? c).bind fun n ↦ if h : n < 16 then some ⟨n, h⟩ else none

/-- The lengths of the hyphenated groups. -/
def groups : List Nat := [8, 4, 4, 4, 12]

/-- Cuts a list into groups with a hyphen between them. -/
def hyphenate (cs : List Char) : List Nat → List Char
  | [] => []
  | [n] => cs.take n
  | n :: ns => cs.take n ++ '-' :: hyphenate (cs.drop n) ns

/-- Takes the hyphens between groups out of a text that consists of the groups exactly. -/
def unhyphenate? (cs : List Char) : List Nat → Option (List Char)
  | [] => if cs.isEmpty then some [] else none
  | [n] => if cs.length = n then some cs else none
  | n :: ns =>
    match cs.drop n with
    | '-' :: rest =>
      if (cs.take n).length = n then (unhyphenate? rest ns).map (cs.take n ++ ·) else none
    | _ => none

/-- The written form of an identifier. -/
def write (u : Uuid) : String := String.ofList (hyphenate (u.digits.map digitChar) groups)

/-- An identifier out of its digits' characters. -/
def ofChars? (cs : List Char) : Option Uuid :=
  (cs.mapM digit?).bind fun ds ↦ if h : ds.length = 32 then some ⟨ds, h⟩ else none

/-- The text between braces, or after the name of the scheme. -/
def unwrap? (cs : List Char) : Option (List Char) :=
  let scheme := "urn:uuid:".toList
  if scheme.isPrefixOf cs then some (cs.drop scheme.length)
  else
    match cs with
    | '{' :: rest => if rest.getLast? = some '}' then some rest.dropLast else none
    | _ => some cs

/-- Reads a text as an identifier. -/
def read? (s : String) : Option Uuid :=
  if s.toList.length = 32 then ofChars? s.toList
  else (unwrap? s.toList).bind fun cs ↦ (unhyphenate? cs groups).bind ofChars?

end Uuid

end StatusRollup
