import StatusRollup.Unicode.Property

/-!
# Quoted text

A text between quotes in which every character can be seen: a quote, a backslash and what cannot be
printed are escaped. A character that extends the one before it is escaped as well where nothing
printed stands before it, that is at the start and after an escape.
-/

namespace StatusRollup.Text.Quoted

/-- The general categories of characters that cannot be printed; the plain space is the
exception. -/
def unprintable : List String := ["Cc", "Cf", "Cs", "Co", "Cn", "Zl", "Zp", "Zs"]

/-- The character can be printed. -/
def isPrintable (c : Char) : Bool :=
  c = ' ' || !unprintable.contains (Unicode.categoryOf c.toNat)

/-- The escape by code point. -/
def byCode (c : Char) : List Char :=
  ['\\', 'u', '\x7b'] ++ Nat.toDigits 16 c.toNat ++ ['\x7d']

/-- The escape of a character, unless it stands for itself; `bare` tells that nothing printed stands
before it. -/
def escape? (bare : Bool) (c : Char) : Option (List Char) :=
  if c = '\x00' then some ['\\', '0']
  else if c = '\t' then some ['\\', 't']
  else if c = '\r' then some ['\\', 'r']
  else if c = '\n' then some ['\\', 'n']
  else if c = '\\' ∨ c = '"' then some ['\\', c]
  else if bare && Unicode.graphemeExtend.contains c.toNat then some (byCode c)
  else if isPrintable c then none
  else some (byCode c)

/-- The text between the quotes. -/
def encode (bare : Bool) : List Char → List Char
  | [] => []
  | c :: cs =>
    match escape? bare c with
    | some e => e ++ encode true cs
    | none => c :: encode false cs

end Quoted

/-- A text in quotes. -/
def quoted (s : String) : String :=
  String.ofList ('"' :: Quoted.encode true s.toList ++ ['"'])

end StatusRollup.Text
