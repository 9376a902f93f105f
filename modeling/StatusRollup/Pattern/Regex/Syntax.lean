import StatusRollup.Unicode.CodeSet

/-!
# The syntax of regular expressions

The parts of a regular expression as they are written. Nothing is resolved yet: properties are
names, and flags stand where they were given, since a flag counts from there to the end of its
group.
-/

namespace StatusRollup.Pattern.Regex

/-- A flag of a group. -/
inductive Flag where
  /-- `i`: case does not count. -/
  | caseless
  /-- `m`: lines have starts and ends. -/
  | multiLine
  /-- `s`: a dot is any character. -/
  | dotAll
  /-- `U`: repetitions prefer few; this never changes whether a text matches. -/
  | lazy
  /-- `u`: classes and words are those of all scripts. -/
  | unicode
  /-- `R`: lines may end in a carriage return and a line feed. -/
  | crlf
  /-- `x`: white space and comments are skipped. -/
  | spaced
  deriving DecidableEq

/-- Flags as given: those switched on and those switched off. -/
structure FlagEdit where
  /-- The flags before the hyphen. -/
  on : List Flag
  /-- The flags after it. -/
  off : List Flag

/-- What an edit makes of a flag, if it names it. -/
def FlagEdit.value? (e : FlagEdit) (f : Flag) : Option Bool :=
  if e.on.contains f then some true else if e.off.contains f then some false else none

/-- A condition on a boundary, as written. -/
inductive Anchor where
  /-- The start of the text, or of a line. -/
  | caret
  /-- The end of the text, or of a line. -/
  | dollar
  /-- The start of the text. -/
  | textStart
  /-- The end of the text. -/
  | textEnd
  /-- A word starts or ends. -/
  | wordEdge
  /-- No word starts or ends. -/
  | notWordEdge
  /-- A word starts. -/
  | wordStart
  /-- A word ends. -/
  | wordEnd
  /-- No word goes on before. -/
  | wordStartHalf
  /-- No word goes on after. -/
  | wordEndHalf
  deriving DecidableEq

/-- A class named by a letter. -/
inductive LetterClass where
  /-- Decimal digits. -/
  | digit
  /-- White space. -/
  | space
  /-- The characters of words. -/
  | word
  deriving DecidableEq

/-- A property as written. -/
inductive Property where
  /-- A name that stands for a set. -/
  | named (name : String)
  /-- A property and one of its values. -/
  | valued (name value : String)

/-- A single character. -/
structure Literal where
  /-- The character. -/
  char : Char
  /-- It was written as two hexadecimal digits, which may mean a byte. -/
  asByte : Bool

/-- How two class sets are combined. -/
inductive SetOp where
  /-- The members of both. -/
  | inter
  /-- The members of the first only. -/
  | diff
  /-- The members of exactly one. -/
  | symmDiff
  deriving DecidableEq

mutual

/-- An item of a bracketed class. -/
inductive ClassItem where
  /-- One character. -/
  | lit (l : Literal)
  /-- A range of characters. -/
  | range (first last : Literal)
  /-- A named ASCII class. -/
  | ascii (negated : Bool) (ranges : List (Nat × Nat))
  /-- A class named by a letter. -/
  | letter (negated : Bool) (cls : LetterClass)
  /-- A property. -/
  | property (negated : Bool) (p : Property)
  /-- A bracketed class inside. -/
  | bracket (negated : Bool) (set : ClassSet)

/-- The inside of a bracketed class. -/
inductive ClassSet where
  /-- The union of items. -/
  | items (items : List ClassItem)
  /-- Two sets combined. -/
  | op (op : SetOp) (left right : ClassSet)

end

/-- A regular expression as written. -/
inductive Ast where
  /-- Nothing between two bars or parentheses. -/
  | empty
  /-- A character. -/
  | lit (l : Literal)
  /-- A dot. -/
  | dot
  /-- A condition on a boundary. -/
  | anchor (a : Anchor)
  /-- A class named by a letter. -/
  | letter (negated : Bool) (cls : LetterClass)
  /-- A property. -/
  | property (negated : Bool) (p : Property)
  /-- A bracketed class. -/
  | bracket (negated : Bool) (set : ClassSet)
  /-- A repetition. -/
  | rep (body : Ast) (least : Nat) (most : Option Nat)
  /-- A group with its flags. -/
  | group (captures : Bool) (flags : FlagEdit) (body : Ast)
  /-- Flags for the rest of the enclosing group. -/
  | flags (edit : FlagEdit)
  /-- One after the other. -/
  | concat (parts : List Ast)
  /-- Any one of these. -/
  | alternation (parts : List Ast)

/-- Parts in a row; one part alone is itself. -/
def Ast.ofParts : List Ast → Ast
  | [] => .empty
  | [a] => a
  | parts => .concat parts

/-- Branches; one branch alone is itself. -/
def Ast.ofBranches : List Ast → Ast
  | [a] => a
  | branches => .alternation branches

mutual

/-- How deep an item nests. -/
def ClassItem.depth : ClassItem → Nat
  | .bracket _ set => set.depth + 1
  | _ => 0

/-- How deep the items of a list nest. -/
def itemsDepth : List ClassItem → Nat
  | [] => 0
  | i :: is => max i.depth (itemsDepth is)

/-- How deep a class nests; several items together are one level. -/
def ClassSet.depth : ClassSet → Nat
  | .items [i] => i.depth
  | .items [] => 0
  | .items is => itemsDepth is + 1
  | .op _ l r => max l.depth r.depth + 1

end

mutual

/-- How deep an expression nests. -/
def Ast.depth : Ast → Nat
  | .bracket _ set => set.depth + 1
  | .rep a _ _ => a.depth + 1
  | .group _ _ a => a.depth + 1
  | .concat as => partsDepth as + 1
  | .alternation as => partsDepth as + 1
  | _ => 0

/-- How deep the parts of a list nest. -/
def partsDepth : List Ast → Nat
  | [] => 0
  | a :: as => max a.depth (partsDepth as)

end

end StatusRollup.Pattern.Regex
