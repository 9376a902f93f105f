import StatusRollup.Unicode.Property

/-!
# Boundary conditions

Conditions on the place between two characters, asked of the character before it and the one after
it; at the ends of the text there is none.

A line ends at a line feed. Where lines may also end in a carriage return, a carriage return and the
line feed after it are one end, and nothing starts or ends between the two.
-/

namespace StatusRollup.Pattern.Regex

/-- How a place lies to the words of a text. -/
inductive WordPlace where
  /-- A word starts or ends here. -/
  | edge
  /-- No word starts or ends here. -/
  | inner
  /-- A word starts here. -/
  | start
  /-- A word ends here. -/
  | finish
  /-- No word goes on before. -/
  | startHalf
  /-- No word goes on after. -/
  | endHalf
  deriving DecidableEq

/-- A condition on the place between two characters. -/
inductive Look where
  /-- The text starts here. -/
  | textStart
  /-- The text ends here. -/
  | textEnd
  /-- A line starts here. -/
  | lineStart (crlf : Bool)
  /-- A line ends here. -/
  | lineEnd (crlf : Bool)
  /-- The place lies so to the words of all scripts, or to those of ASCII alone. -/
  | word (unicode : Bool) (place : WordPlace)
  deriving DecidableEq

/-- The characters of words in ASCII. -/
def asciiWordChars : CodeSet :=
  ⟨[('0'.toNat, '9'.toNat), ('A'.toNat, 'Z'.toNat), ('_'.toNat, '_'.toNat), ('a'.toNat, 'z'.toNat)]⟩

/-- The place lies so between two characters, given whether each one is part of a word. -/
def WordPlace.holds (before after : Bool) : WordPlace → Bool
  | edge => before != after
  | inner => before == after
  | start => !before && after
  | finish => before && !after
  | startHalf => !before
  | endHalf => !after

namespace Look

/-- The character is a line feed. -/
def isLineFeed (c : Option Nat) : Bool := c == some '\n'.toNat

/-- The character is a carriage return. -/
def isReturn (c : Option Nat) : Bool := c == some '\r'.toNat

/-- The condition holds between two characters. -/
def holds (look : Look) (before after : Option Nat) : Bool :=
  match look with
  | textStart => before.isNone
  | textEnd => after.isNone
  | lineStart crlf =>
    before.isNone || isLineFeed before || (crlf && isReturn before && !isLineFeed after)
  | lineEnd false => after.isNone || isLineFeed after
  | lineEnd true =>
    after.isNone || isReturn after || (isLineFeed after && !isReturn before)
  | word unicode place =>
    let chars := if unicode then Unicode.wordChars else asciiWordChars
    place.holds (before.any chars.contains) (after.any chars.contains)

end Look

end StatusRollup.Pattern.Regex
