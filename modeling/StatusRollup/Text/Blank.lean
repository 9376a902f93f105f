/-!
# White space

The characters with the White_Space property, which is what readers of times and patterns skip.
-/

namespace StatusRollup.Text

/-- The characters with the White_Space property. -/
def isBlank (c : Char) : Bool :=
  ('\t' ≤ c && c ≤ '\r') || c == ' ' || c == '\x85' || c == '\xa0' || c == '\u1680' ||
    ('\u2000' ≤ c && c ≤ '\u200a') || c == '\u2028' || c == '\u2029' || c == '\u202f' ||
    c == '\u205f' || c == '\u3000'

/-- The text without its leading white space. -/
def skipBlank (cs : List Char) : List Char :=
  cs.dropWhile isBlank

end StatusRollup.Text
