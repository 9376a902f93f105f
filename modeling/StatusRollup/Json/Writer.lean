import StatusRollup.Json
import StatusRollup.Text.Digits

/-!
# Writing JSON text

The compact form: no white space, and escapes only where a string needs them, of one letter where
there is such an escape.
-/

namespace StatusRollup

namespace Json

/-- One lower-case hexadecimal digit. -/
def hexDigit (n : Nat) : Char :=
  if n < 10 then Char.ofNat ('0'.toNat + n) else Char.ofNat ('a'.toNat + (n - 10))

/-- The letter of a character's escape, for the characters that have an escape of one letter and
need it. -/
def escapeLetter? : Char → Option Char
  | '"' => some '"'
  | '\\' => some '\\'
  | '\x08' => some 'b'
  | '\x0c' => some 'f'
  | '\n' => some 'n'
  | '\r' => some 'r'
  | '\t' => some 't'
  | _ => none

/-- A character inside quotes. -/
def writeChar (c : Char) : List Char :=
  match escapeLetter? c with
  | some letter => ['\\', letter]
  | none =>
    if c.toNat < 0x20 then ['\\', 'u', '0', '0', hexDigit (c.toNat / 16), hexDigit (c.toNat % 16)]
    else [c]

/-- A string in quotes. -/
def writeString (s : String) : String :=
  String.ofList ('"' :: s.toList.flatMap writeChar ++ ['"'])

/-- A number. -/
def writeNumeral : Numeral → String
  | .int n => toString n
  | .decimal negative whole fraction exponent =>
    (if negative then "-" else "") ++ String.ofList whole ++
      (if fraction.isEmpty then "" else "." ++ String.ofList fraction) ++
      (if exponent = 0 then "" else "e" ++ toString exponent)

mutual

/-- The text of a value; one without a value is written as `null`. -/
def write : Json → String
  | null => "null"
  | bool true => "true"
  | bool false => "false"
  | num n => writeNumeral n
  | str s => writeString s
  | arr items => "[" ++ writeItems items ++ "]"
  | obj fields => "\x7b" ++ writeFields fields ++ "\x7d"
  | unreadable => "null"

/-- Items with commas between them. -/
def writeItems : List Json → String
  | [] => ""
  | [j] => write j
  | j :: js => write j ++ "," ++ writeItems js

/-- Fields with commas between them. -/
def writeFields : List (String × Json) → String
  | [] => ""
  | [(key, j)] => writeString key ++ ":" ++ write j
  | (key, j) :: rest => writeString key ++ ":" ++ write j ++ "," ++ writeFields rest

end

end Json

end StatusRollup
