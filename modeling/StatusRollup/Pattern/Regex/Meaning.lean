import StatusRollup.Pattern.Expr
import StatusRollup.Pattern.Regex.Look
import StatusRollup.Pattern.Regex.Property
import StatusRollup.Unicode.Folding

/-!
# The meaning of a regular expression

An expression as written becomes an `Expr` over sets of code points and boundary conditions. The
flags in force are a `Mode` that is handed through from left to right: a flag counts from where it
stands to the end of the enclosing group, also across its bars (`Ast.meaning?`).

With `u` switched off only ASCII can be matched. What would match anything else has no meaning: a
dot, a property, a byte beyond 127 and a class that holds more than ASCII.

Where case does not count, a class is closed under change of case before it is negated and before it
is combined with another one.
-/

namespace StatusRollup.Pattern.Regex

/-- The flags in force, as far as they change what matches. -/
structure Mode where
  /-- Case does not count. -/
  caseless : Bool := false
  /-- Lines have starts and ends. -/
  multiLine : Bool := false
  /-- A dot is any character. -/
  dotAll : Bool := false
  /-- Classes and words are those of all scripts. -/
  unicode : Bool := true
  /-- Lines may end in a carriage return and a line feed. -/
  crlf : Bool := false

namespace Mode

/-- The flags after an edit. -/
def edit (m : Mode) (e : FlagEdit) : Mode where
  caseless := (e.value? .caseless).getD m.caseless
  multiLine := (e.value? .multiLine).getD m.multiLine
  dotAll := (e.value? .dotAll).getD m.dotAll
  unicode := (e.value? .unicode).getD m.unicode
  crlf := (e.value? .crlf).getD m.crlf

/-- A set with the other case of its members, where case does not count. -/
def fold (m : Mode) (s : CodeSet) : CodeSet :=
  if m.caseless then
    if m.unicode then Unicode.foldCase s else Unicode.foldAscii s
  else
    s

/-- A set that may be matched in this mode. -/
def allow? (m : Mode) (s : CodeSet) : Option CodeSet :=
  if m.unicode || s.isAscii then some s else none

/-- A class, closed under change of case and then negated. -/
def settle? (m : Mode) (negated : Bool) (s : CodeSet) : Option CodeSet :=
  m.allow? ((m.fold s).negateIf negated)

/-- A character. -/
def literal? (m : Mode) (l : Literal) : Option CodeSet :=
  if !m.unicode && l.asByte && 128 ≤ l.char.toNat then none
  else if m.unicode || l.char.toNat < 128 then some (m.fold (.single l.char.toNat))
  else some (.single l.char.toNat)

/-- A dot. -/
def dot? (m : Mode) : Option CodeSet :=
  if !m.unicode then none
  else if m.dotAll then some .all
  else if m.crlf then some (CodeSet.mk [('\n'.toNat, '\n'.toNat), ('\r'.toNat, '\r'.toNat)]).compl
  else some (CodeSet.single '\n'.toNat).compl

/-- A condition on a boundary. -/
def look (m : Mode) : Anchor → Look
  | .caret => if m.multiLine then .lineStart m.crlf else .textStart
  | .dollar => if m.multiLine then .lineEnd m.crlf else .textEnd
  | .textStart => .textStart
  | .textEnd => .textEnd
  | .wordEdge => .word m.unicode .edge
  | .notWordEdge => .word m.unicode .inner
  | .wordStart => .word m.unicode .start
  | .wordEnd => .word m.unicode .finish
  | .wordStartHalf => .word m.unicode .startHalf
  | .wordEndHalf => .word m.unicode .endHalf

/-- The set of a class named by a letter. -/
def letterSet (m : Mode) (cls : LetterClass) : CodeSet :=
  match cls, m.unicode with
  | .digit, true => Unicode.digits
  | .space, true => Unicode.whiteSpace
  | .word, true => Unicode.wordChars
  | .digit, false => ⟨[('0'.toNat, '9'.toNat)]⟩
  | .space, false => ⟨[('\t'.toNat, '\r'.toNat), (' '.toNat, ' '.toNat)]⟩
  | .word, false => asciiWordChars

/-- A class named by a letter. Its members already come in both cases. -/
def letter? (m : Mode) (negated : Bool) (cls : LetterClass) : Option CodeSet :=
  m.allow? ((m.letterSet cls).negateIf negated)

/-- A property. -/
def property? (m : Mode) (negated : Bool) (p : Property) : Option CodeSet :=
  if m.unicode then p.resolve?.bind (m.settle? negated) else none

/-- A character inside brackets. -/
def member? (m : Mode) (l : Literal) : Option Nat :=
  if m.unicode || l.char.toNat < 128 then some l.char.toNat else none

end Mode

/-- Two sets combined. -/
def SetOp.apply : SetOp → CodeSet → CodeSet → CodeSet
  | inter => .inter
  | diff => .diff
  | symmDiff => .symmDiff

mutual

/-- The set of an item of a bracketed class. -/
def ClassItem.set? (m : Mode) : ClassItem → Option CodeSet
  | .lit l => (m.member? l).map .single
  | .range first last => do
    let a ← m.member? first
    let b ← m.member? last
    some ⟨[(a, b)]⟩
  | .ascii negated ranges => m.settle? negated ⟨ranges⟩
  | .letter negated cls => m.letter? negated cls
  | .property negated p => m.property? negated p
  | .bracket negated set => (ClassSet.set? m set).bind (m.settle? negated)

/-- The union of the items of a list. -/
def itemsSet? (m : Mode) : List ClassItem → Option CodeSet
  | [] => some ⟨[]⟩
  | i :: is => do
    let s ← ClassItem.set? m i
    let t ← itemsSet? m is
    some (s.union t)

/-- The set of the inside of a bracketed class. -/
def ClassSet.set? (m : Mode) : ClassSet → Option CodeSet
  | .items is => itemsSet? m is
  | .op op left right => do
    let s ← ClassSet.set? m left
    let t ← ClassSet.set? m right
    some (op.apply (m.fold s) (m.fold t))

end

mutual

/-- The meaning of an expression, and the flags in force after it. -/
def Ast.meaning? (m : Mode) : Ast → Option (Expr CodeSet Look × Mode)
  | .empty => some (.empty, m)
  | .lit l => (m.literal? l).map fun s ↦ (.one s, m)
  | .dot => m.dot?.map fun s ↦ (.one s, m)
  | .anchor a => some (.look (m.look a), m)
  | .letter negated cls => (m.letter? negated cls).map fun s ↦ (.one s, m)
  | .property negated p => (m.property? negated p).map fun s ↦ (.one s, m)
  | .bracket negated set =>
    ((set.set? m).bind (m.settle? negated)).map fun s ↦ (.one s, m)
  | .rep body least most =>
    (body.meaning? m).map fun (e, m) ↦ (.rep e least most, m)
  | .group captures flags body =>
    (body.meaning? (m.edit flags)).map fun (e, _) ↦ (if captures then .capture e else e, m)
  | .flags edit => some (.empty, m.edit edit)
  | .concat parts => (meanings? m parts).map fun (es, m) ↦ (.seqAll es, m)
  | .alternation parts => (meanings? m parts).map fun (es, m) ↦ (.altAll es, m)

/-- The meanings of the parts of a list, each in the flags that the one before it leaves. -/
def meanings? (m : Mode) : List Ast → Option (List (Expr CodeSet Look) × Mode)
  | [] => some ([], m)
  | a :: as => do
    let (e, m) ← a.meaning? m
    let (es, m) ← meanings? m as
    some (e :: es, m)

end

end StatusRollup.Pattern.Regex
