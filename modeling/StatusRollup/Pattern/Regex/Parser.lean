import StatusRollup.Pattern.Regex.Syntax
import StatusRollup.Text.Blank
import StatusRollup.Text.Digits
import StatusRollup.Unicode.Property

/-!
# Reading regular expressions

A recursive-descent reader over a `Cursor`, which holds the rest of the pattern, whether white space
is skipped there, and the group names met so far, since a name may be given only once. A reader
fails with `none`; what is wrong with a pattern is not reported.

* With white space skipped, a comment runs from `#` to the end of the line.
* `Regex.parse?` reads a whole pattern and refuses one that nests deeper than `maxDepth`.
-/

namespace StatusRollup.Pattern.Regex

/-- Where a reader stands. -/
structure Cursor where
  /-- The rest of the pattern. -/
  rest : List Char
  /-- White space and comments are skipped. -/
  spaced : Bool
  /-- The names of the groups so far. -/
  names : List String

/-- Skips white space and comments. -/
def dropSpace : List Char → List Char
  | [] => []
  | c :: rest =>
    if Text.isBlank c then dropSpace rest
    else if c = '#' then inComment rest
    else c :: rest
where
  /-- Skips the rest of a comment with its line end, and goes on. -/
  inComment : List Char → List Char
    | [] => []
    | c :: rest => if c = '\n' then dropSpace rest else inComment rest

namespace Cursor

/-- Moves to a rest of the pattern. -/
def goto (c : Cursor) (rest : List Char) : Cursor := { c with rest }

/-- Skips what does not count here. -/
def skip (c : Cursor) : Cursor := if c.spaced then c.goto (dropSpace c.rest) else c

/-- Moves to a rest of the pattern and skips what does not count there. -/
def next (c : Cursor) (rest : List Char) : Cursor := (c.goto rest).skip

/-- The character after the next one, as far as ranges look: with white space skipped, blanks are
passed over, and so is one `#` with the blanks after it. -/
def peek (c : Cursor) : Option Char :=
  match c.rest with
  | [] => none
  | _ :: rest =>
    if c.spaced then
      match Text.skipBlank rest with
      | '#' :: rest => (Text.skipBlank rest).head?
      | rest => rest.head?
    else
      rest.head?

end Cursor

/-- The deepest nesting of a pattern. -/
def maxDepth : Nat := 250

/-! ### Characters and escapes -/

/-- The characters with a meaning of their own. -/
def isMeta (c : Char) : Bool := "\\.+*?()|[]\x7b\x7d^$#&-~".toList.contains c

/-- A backslash may stand before this character to no effect. -/
def isEscapable (c : Char) : Bool :=
  isMeta c || (c.toNat < 128 && !c.isAlphanum && c != '<' && c != '>')

/-- What an escape or a plain character can be. -/
inductive Primitive where
  /-- A character. -/
  | lit (l : Literal)
  /-- A condition on a boundary. -/
  | anchor (a : Anchor)
  /-- A dot. -/
  | dot
  /-- A class named by a letter. -/
  | letter (negated : Bool) (cls : LetterClass)
  /-- A property. -/
  | property (negated : Bool) (p : Property)

/-- The character with a code, if there is one. -/
def charOfCode? (n : Nat) : Option Char := if n.isValidChar then some (Char.ofNat n) else none

/-- Exactly so many hexadecimal digits. -/
def readHexDigits : (count : Nat) → (value : Nat) → Cursor → Option (Nat × Cursor)
  | 0, value, c => some (value, c)
  | count + 1, value, c =>
    match c.rest with
    | d :: rest => (Text.hexValue? d).bind fun n ↦ readHexDigits count (16 * value + n) (c.next rest)
    | [] => none

/-- Hexadecimal digits up to a closing brace, of which there has to be one. The fuel is the length
of the rest. -/
def readHexBraces : (fuel : Nat) → (value : Option Nat) → Cursor → Option (Nat × Cursor)
  | 0, _, _ => none
  | fuel + 1, value, c =>
    match c.rest with
    | '\x7d' :: rest => value.map fun n ↦ (n, c.next rest)
    | d :: rest =>
      (Text.hexValue? d).bind fun n ↦
        readHexBraces fuel (some (16 * value.getD 0 + n)) (c.next rest)
    | [] => none

/-- A character by its code, after the letter that tells how many digits there are. -/
def readHex (digits : Nat) (c : Cursor) : Option (Primitive × Cursor) := do
  let (n, byByte, c) ← match c.rest with
    | '\x7b' :: rest =>
      (readHexBraces (rest.length + 1) none (c.next rest)).map fun (n, c) ↦ (n, false, c)
    | _ => (readHexDigits digits 0 c).map fun (n, c) ↦ (n, digits == 2, c)
  let char ← charOfCode? n
  some (.lit ⟨char, byByte⟩, c)

/-- The text up to a closing brace, without what is skipped. The fuel is the length of the rest. -/
def readBraced : (fuel : Nat) → Cursor → Option (List Char × Cursor)
  | 0, _ => none
  | fuel + 1, c =>
    match c.rest with
    | '\x7d' :: rest => some ([], c.goto rest)
    | x :: rest => (readBraced fuel (c.next rest)).map fun (xs, c) ↦ (x :: xs, c)
    | [] => none

/-- Cuts a text at the first place where a mark stands. -/
def cutAt (mark : List Char) : List Char → Option (List Char × List Char)
  | [] => none
  | x :: xs =>
    if mark.isPrefixOf (x :: xs) then some ([], (x :: xs).drop mark.length)
    else (cutAt mark xs).map fun (before, after) ↦ (x :: before, after)

/-- A property out of the text between its braces. -/
def propertyOf (text : List Char) : Property :=
  match (cutAt ['!', '='] text).orElse fun _ ↦ (cutAt [':'] text).orElse fun _ ↦
      cutAt ['='] text with
  | some (name, value) => .valued (String.ofList name) (String.ofList value)
  | none => .named (String.ofList text)

/-- A property after its `p` or `P`: one letter, or a text in braces. -/
def readProperty (negated : Bool) (c : Cursor) : Option (Primitive × Cursor) :=
  match c.rest with
  | '\x7b' :: rest =>
    (readBraced (rest.length + 1) (c.next rest)).map fun (text, c) ↦
      (.property negated (propertyOf text), c)
  | '\\' :: _ => none
  | x :: rest => some (.property negated (.named (String.singleton x)), c.next rest)
  | [] => none

/-- A name in braces after `\b`: the characters up to one that cannot be in it. -/
def readBoundaryName : (fuel : Nat) → Cursor → List Char × Cursor
  | 0, c => ([], c)
  | fuel + 1, c =>
    match c.rest with
    | x :: rest =>
      if x.isAlpha || x == '-' then
        let (xs, c) := readBoundaryName fuel (c.next rest)
        (x :: xs, c)
      else
        ([], c)
    | [] => ([], c)

/-- The condition that `\b` stands for. Braces after it name a special one, unless they start with
something that cannot be a name; then they count repetitions. -/
def readBoundary (c : Cursor) : Option (Primitive × Cursor) :=
  match c.rest with
  | '\x7b' :: rest =>
    let inner := c.next rest
    match inner.rest with
    | [] => none
    | x :: _ =>
      if x.isAlpha || x == '-' then
        let (name, after) := readBoundaryName inner.rest.length inner
        match after.rest with
        | '\x7d' :: rest =>
          match String.ofList name with
          | "start" => some (.anchor .wordStart, after.goto rest)
          | "end" => some (.anchor .wordEnd, after.goto rest)
          | "start-half" => some (.anchor .wordStartHalf, after.goto rest)
          | "end-half" => some (.anchor .wordEndHalf, after.goto rest)
          | _ => none
        | _ => none
      else
        some (.anchor .wordEdge, c)
  | _ => some (.anchor .wordEdge, c)

/-- An escape after its backslash. -/
def readEscape (c : Cursor) : Option (Primitive × Cursor) :=
  match c.rest with
  | [] => none
  | x :: rest =>
    let after := c.goto rest
    let lit (y : Char) : Option (Primitive × Cursor) := some (.lit ⟨y, false⟩, after)
    match x with
    | 'x' => readHex 2 (c.next rest)
    | 'u' => readHex 4 (c.next rest)
    | 'U' => readHex 8 (c.next rest)
    | 'p' => readProperty false (c.next rest)
    | 'P' => readProperty true (c.next rest)
    | 'd' => some (.letter false .digit, after)
    | 'D' => some (.letter true .digit, after)
    | 's' => some (.letter false .space, after)
    | 'S' => some (.letter true .space, after)
    | 'w' => some (.letter false .word, after)
    | 'W' => some (.letter true .word, after)
    | 'a' => lit '\x07'
    | 'f' => lit '\x0c'
    | 't' => lit '\t'
    | 'n' => lit '\n'
    | 'r' => lit '\r'
    | 'v' => lit '\x0b'
    | 'A' => some (.anchor .textStart, after)
    | 'z' => some (.anchor .textEnd, after)
    | 'b' => readBoundary after
    | 'B' => some (.anchor .notWordEdge, after)
    | '<' => some (.anchor .wordStart, after)
    | '>' => some (.anchor .wordEnd, after)
    | _ => if isEscapable x then lit x else none

/-! ### Bracketed classes -/

/-- The ranges of the named ASCII classes. -/
def asciiClass? : String → Option (List (Nat × Nat))
  | "alnum" => some [(48, 57), (65, 90), (97, 122)]
  | "alpha" => some [(65, 90), (97, 122)]
  | "ascii" => some [(0, 127)]
  | "blank" => some [(9, 9), (32, 32)]
  | "cntrl" => some [(0, 31), (127, 127)]
  | "digit" => some [(48, 57)]
  | "graph" => some [(33, 126)]
  | "lower" => some [(97, 122)]
  | "print" => some [(32, 126)]
  | "punct" => some [(33, 47), (58, 64), (91, 96), (123, 126)]
  | "space" => some [(9, 13), (32, 32)]
  | "upper" => some [(65, 90)]
  | "word" => some [(48, 57), (65, 90), (95, 95), (97, 122)]
  | "xdigit" => some [(48, 57), (65, 70), (97, 102)]
  | _ => none

/-- A named ASCII class, if the text is one after its opening bracket. -/
def readAsciiClass? (cs : List Char) : Option (ClassItem × List Char) :=
  match cs with
  | ':' :: rest =>
    let (negated, rest) := match rest with
      | '^' :: rest => (true, rest)
      | rest => (false, rest)
    let name := rest.takeWhile (· ≠ ':')
    match rest.drop name.length with
    | ':' :: ']' :: rest =>
      (asciiClass? (String.ofList name)).map fun ranges ↦ (.ascii negated ranges, rest)
    | _ => none
  | _ => none

/-- An item of a class, before it is known whether it starts a range. -/
def readClassPrimitive (c : Cursor) : Option (Primitive × Cursor) :=
  match c.rest with
  | '\\' :: rest => readEscape (c.goto rest)
  | x :: rest => some (.lit ⟨x, false⟩, c.goto rest)
  | [] => none

/-- A primitive as an item of a class. -/
def Primitive.toItem? : Primitive → Option ClassItem
  | lit l => some (.lit l)
  | letter negated cls => some (.letter negated cls)
  | property negated p => some (.property negated p)
  | anchor _ => none
  | dot => none

/-- A character or a range of characters in a class. A hyphen does not make a range before the
closing bracket or another hyphen. -/
def readRange (c : Cursor) : Option (ClassItem × Cursor) := do
  let (first, c) ← readClassPrimitive c
  let c := c.skip
  match c.rest with
  | [] => none
  | '-' :: rest =>
    if c.peek = some ']' ∨ c.peek = some '-' then (first.toItem?).map (·, c)
    else
      let c := c.next rest
      if c.rest.isEmpty then none
      else
        let (last, c) ← readClassPrimitive c
        match first, last with
        | .lit a, .lit b => if a.char ≤ b.char then some (.range a b, c) else none
        | _, _ => none
  | _ => (first.toItem?).map (·, c)

/-- Hyphens at the start of a class are literal. The fuel is the length of the rest. -/
def readHyphens : (fuel : Nat) → Cursor → List ClassItem × Cursor
  | 0, c => ([], c)
  | fuel + 1, c =>
    match c.rest with
    | '-' :: rest =>
      let (items, c) := readHyphens fuel (c.next rest)
      (.lit ⟨'-', false⟩ :: items, c)
    | _ => ([], c)

/-- The start of a class after its opening bracket: whether it is negated, and the hyphens or the
closing bracket that are literal there. -/
def readClassStart (c : Cursor) : Option (Bool × List ClassItem × Cursor) :=
  let c := c.skip
  let (negated, c) := match c.rest with
    | '^' :: rest => (true, c.next rest)
    | _ => (false, c)
  let (hyphens, c) := readHyphens c.rest.length c
  match c.rest with
  | [] => none
  | ']' :: rest =>
    if hyphens.isEmpty then
      let c := c.next rest
      if c.rest.isEmpty then none else some (negated, [.lit ⟨']', false⟩], c)
    else
      some (negated, hyphens, c)
  | _ => some (negated, hyphens, c)

/-- Puts a pending operation and its left side before a union of items, which are in reverse. -/
def combine (pending : Option (SetOp × ClassSet)) (items : List ClassItem) : ClassSet :=
  match pending with
  | none => .items items.reverse
  | some (op, left) => .op op left (.items items.reverse)

/-- The inside of a class up to and with its closing bracket. Operations bind from the left. -/
def readClassSet : (fuel : Nat) → (pending : Option (SetOp × ClassSet)) → (items : List ClassItem) →
    Cursor → Option (ClassSet × Cursor)
  | 0, _, _, _ => none
  | fuel + 1, pending, items, c =>
    let c := c.skip
    match c.rest with
    | [] => none
    | ']' :: rest => some (combine pending items, c.goto rest)
    | '&' :: '&' :: rest => readClassSet fuel (some (.inter, combine pending items)) [] (c.goto rest)
    | '-' :: '-' :: rest => readClassSet fuel (some (.diff, combine pending items)) [] (c.goto rest)
    | '~' :: '~' :: rest =>
      readClassSet fuel (some (.symmDiff, combine pending items)) [] (c.goto rest)
    | '[' :: rest =>
      match readAsciiClass? rest with
      | some (item, rest) => readClassSet fuel pending (item :: items) (c.goto rest)
      | none => do
        let (negated, start, inner) ← readClassStart (c.goto rest)
        let (set, c) ← readClassSet fuel none start inner
        readClassSet fuel pending (.bracket negated set :: items) c
    | _ => do
      let (item, c) ← readRange c
      readClassSet fuel pending (item :: items) c

/-- A bracketed class after its opening bracket. -/
def readClass (c : Cursor) : Option (Ast × Cursor) := do
  let (negated, start, inner) ← readClassStart c
  let (set, c) ← readClassSet (2 * c.rest.length + 2) none start inner
  some (.bracket negated set, c)

/-! ### Repetitions -/

/-- The digits of a count, without what is skipped. The fuel is the length of the rest. -/
def readCountDigits : (fuel : Nat) → Cursor → List Char × Cursor
  | 0, c => ([], c)
  | fuel + 1, c =>
    match c.rest with
    | d :: rest =>
      if d.isDigit then
        let (ds, c) := readCountDigits fuel (c.next rest)
        (d :: ds, c)
      else
        ([], c)
    | [] => ([], c)

/-- Skips white space, which may stand around a count even where it counts elsewhere. -/
def skipBlanks : (fuel : Nat) → Cursor → Cursor
  | 0, c => c
  | fuel + 1, c =>
    match c.rest with
    | x :: rest => if Text.isBlank x then skipBlanks fuel (c.next rest) else c
    | [] => c

/-- A count of repetitions of at most 32 bits, with white space around it. -/
def readCount (c : Cursor) : Option (Nat × Cursor) :=
  let c := c.goto (Text.skipBlank c.rest)
  let (ds, c) := readCountDigits c.rest.length c
  let n := Text.valueOf ds
  if ds.isEmpty ∨ UInt32.size ≤ n then none else some (n, skipBlanks c.rest.length c)

/-- The counts of a repetition after its opening brace. -/
def readCounts (c : Cursor) : Option (Nat × Option Nat × Cursor) := do
  let (least, c) ← readCount c
  match c.rest with
  | '\x7d' :: rest => some (least, some least, c.next rest)
  | ',' :: rest =>
    let c := c.next rest
    match c.rest with
    | '\x7d' :: rest => some (least, none, c.next rest)
    | _ =>
      let (most, c) ← readCount c
      match c.rest with
      | '\x7d' :: rest => if least ≤ most then some (least, some most, c.next rest) else none
      | _ => none
  | _ => none

/-- A question mark after a repetition, which only says that it prefers few. -/
def dropLazy (c : Cursor) : Cursor :=
  match c.rest with
  | '?' :: rest => c.goto rest
  | _ => c

/-- Repeats the last of the parts in hand, which are in reverse; flags cannot be repeated. -/
def repeatLast (least : Nat) (most : Option Nat) : List Ast → Option (List Ast)
  | [] => none
  | .flags _ :: _ => none
  | a :: parts => some (.rep a least most :: parts)

/-! ### Groups -/

/-- The flag of a letter. -/
def flag? : Char → Option Flag
  | 'i' => some .caseless
  | 'm' => some .multiLine
  | 's' => some .dotAll
  | 'U' => some .lazy
  | 'u' => some .unicode
  | 'R' => some .crlf
  | 'x' => some .spaced
  | _ => none

/-- Flags up to a colon or a closing parenthesis, which is returned; `on` and `off` are those so
far, and `last` tells whether the last character was the hyphen. -/
def readFlags (on off : List Flag) (negated last : Bool) : List Char →
    Option (FlagEdit × Char × List Char)
  | [] => none
  | x :: rest =>
    if x = ':' ∨ x = ')' then if last then none else some (⟨on, off⟩, x, rest)
    else if x = '-' then if negated then none else readFlags on off true true rest
    else
      match flag? x with
      | none => none
      | some f =>
        if on.contains f ∨ off.contains f then none
        else if negated then readFlags on (f :: off) true false rest
        else readFlags (f :: on) off false false rest

/-- A character of a group's name. -/
def isNameChar (first : Bool) (c : Char) : Bool :=
  c == '_' || Unicode.alphabetic.contains c.toNat ||
    (!first && (c == '.' || c == '[' || c == ']' || (Unicode.ofCategory "N").contains c.toNat))

/-- A group's name up to and with its closing angle bracket; it is new and not empty. -/
def readName (c : Cursor) : Option Cursor :=
  let name := c.rest.takeWhile (· ≠ '>')
  match c.rest.drop name.length, name with
  | '>' :: rest, x :: xs =>
    let text := String.ofList name
    if isNameChar true x && xs.all (isNameChar false) && !c.names.contains text then
      some { c with rest, names := text :: c.names }
    else
      none
  | _, _ => none

/-- What stands at the start of a group. -/
inductive GroupHead where
  /-- The group captures what it matches. -/
  | capturing
  /-- The group only sets flags for its inside. -/
  | plain (edit : FlagEdit)
  /-- There is no group, only flags for what follows. -/
  | flags (edit : FlagEdit)

/-- The start of a group after its opening parenthesis. Looking around is not supported. -/
def readGroupHead (c : Cursor) : Option (GroupHead × Cursor) :=
  let c := c.skip
  match c.rest with
  | '?' :: 'P' :: '<' :: rest => (readName (c.goto rest)).map (.capturing, ·)
  | '?' :: '<' :: '=' :: _ => none
  | '?' :: '<' :: '!' :: _ => none
  | '?' :: '<' :: rest => (readName (c.goto rest)).map (.capturing, ·)
  | '?' :: rest =>
    match readFlags [] [] false false rest with
    | some (edit, ':', rest) => some (.plain edit, c.goto rest)
    | some (edit, _, rest) =>
      if edit.on.isEmpty ∧ edit.off.isEmpty then none else some (.flags edit, c.goto rest)
    | none => none
  | _ => some (.capturing, c)

/-! ### Expressions -/

/-- A primitive as an expression. -/
def Primitive.toAst : Primitive → Ast
  | lit l => .lit l
  | anchor a => .anchor a
  | dot => .dot
  | letter negated cls => .letter negated cls
  | property negated p => .property negated p

/-- A primitive: an escape, a dot, a line boundary or a plain character. -/
def readPrimitive (x : Char) (rest : List Char) (c : Cursor) : Option (Primitive × Cursor) :=
  match x with
  | '\\' => readEscape (c.goto rest)
  | '.' => some (.dot, c.goto rest)
  | '^' => some (.anchor .caret, c.goto rest)
  | '$' => some (.anchor .dollar, c.goto rest)
  | _ => some (.lit ⟨x, false⟩, c.goto rest)

/-- Branches up to the end of the pattern or a closing parenthesis, which is left. `branches` and
`parts` are those so far, in reverse. -/
def readBranches : (fuel : Nat) → (branches parts : List Ast) → Cursor → Option (Ast × Cursor)
  | 0, _, _, _ => none
  | fuel + 1, branches, parts, c =>
    let c := c.skip
    let finish := Ast.ofBranches (Ast.ofParts parts.reverse :: branches).reverse
    match c.rest with
    | [] => some (finish, c)
    | ')' :: _ => some (finish, c)
    | '|' :: rest => readBranches fuel (.ofParts parts.reverse :: branches) [] (c.goto rest)
    | '(' :: rest => do
      let (head, inner) ← readGroupHead (c.goto rest)
      let group (captures : Bool) (edit : FlagEdit) : Option (Ast × Cursor) := do
        let (body, c) ← readBranches fuel [] []
          { inner with spaced := (edit.value? .spaced).getD inner.spaced }
        match c.rest with
        | ')' :: rest =>
          readBranches fuel branches (.group captures edit body :: parts)
            { c with rest, spaced := inner.spaced }
        | _ => none
      match head with
      | .capturing => group true ⟨[], []⟩
      | .plain edit => group false edit
      | .flags edit =>
        readBranches fuel branches (.flags edit :: parts)
          { inner with spaced := (edit.value? .spaced).getD inner.spaced }
    | '[' :: rest => do
      let (cls, c) ← readClass (c.goto rest)
      readBranches fuel branches (cls :: parts) c
    | '?' :: rest => do
      readBranches fuel branches (← repeatLast 0 (some 1) parts) (dropLazy (c.goto rest))
    | '*' :: rest => do
      readBranches fuel branches (← repeatLast 0 none parts) (dropLazy (c.goto rest))
    | '+' :: rest => do
      readBranches fuel branches (← repeatLast 1 none parts) (dropLazy (c.goto rest))
    | '\x7b' :: rest => do
      let (least, most, after) ← readCounts (c.next rest)
      readBranches fuel branches (← repeatLast least most parts) (dropLazy after)
    | x :: rest => do
      let (p, c) ← readPrimitive x rest c
      readBranches fuel branches (p.toAst :: parts) c

/-- Reads a whole pattern. Every step takes a character, or enters or leaves a group. -/
def parse? (pattern : String) : Option Ast := do
  let cs := pattern.toList
  let (ast, c) ← readBranches (2 * cs.length + 2) [] [] ⟨cs, false, []⟩
  if c.rest.isEmpty ∧ ast.depth ≤ maxDepth then some ast else none

end StatusRollup.Pattern.Regex
