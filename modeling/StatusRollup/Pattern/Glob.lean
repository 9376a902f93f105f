import StatusRollup.Pattern.Expr

/-!
# Globs

A glob is a wildcard pattern for a whole text, which it takes as the bytes of its UTF-8 form: `?` is
one byte, `*` any number of them, `[…]` one byte out of ranges, `{…,…}` a choice of globs, and a
backslash takes the next character literally. `**` as a whole component between slashes stands for
any number of components.

* `Glob.parse` reads a pattern as tokens, and `GlobError` says what can be wrong with it.
* `Glob.toExpr` gives the tokens their meaning. An alternative that stands for nothing at all is
  dropped from its choice.
-/

namespace StatusRollup.Pattern

/-- What is wrong with a glob. -/
inductive GlobError where
  /-- A class without its closing bracket. -/
  | unclosedClass
  /-- A range whose end comes before its start. -/
  | invalidRange (first last : Char)
  /-- A closing brace without its opening one. -/
  | unopenedChoice
  /-- A choice without its closing brace. -/
  | unclosedChoice
  /-- A backslash at the end. -/
  | danglingEscape
  deriving DecidableEq

namespace GlobError

/-- What is wrong, in words. -/
def message : GlobError → String
  | unclosedClass => "unclosed character class; missing ']'"
  | invalidRange first last =>
    "invalid range; '" ++ String.ofList [first] ++ "' > '" ++ String.ofList [last] ++ "'"
  | unopenedChoice =>
    "unopened alternate group; missing '\x7b' (maybe escape '\x7d' with '[\x7d]'?)"
  | unclosedChoice =>
    "unclosed alternate group; missing '\x7d' (maybe escape '\x7b' with '[\x7b]'?)"
  | danglingEscape => "dangling '\\'"

end GlobError

/-- A piece of a glob. -/
inductive GlobToken where
  /-- A character. -/
  | lit (c : Char)
  /-- Any byte. -/
  | anyByte
  /-- Any number of bytes. -/
  | anyRun
  /-- Any number of leading components. -/
  | anyPrefix
  /-- Any number of final components. -/
  | anySuffix
  /-- Any number of components in between. -/
  | anyBetween
  /-- A byte out of ranges of characters, or out of none of them. -/
  | cls (negated : Bool) (ranges : List (Char × Char))
  /-- A choice. -/
  | choice (branches : List (List GlobToken))

namespace Glob

/-! ### Reading a pattern -/

/-- The state of a reader. -/
structure State where
  /-- The tokens of the branches read so far, the newest first and each newest token first. -/
  branches : List (List GlobToken)
  /-- For each open choice, the newest one first, the branches read before it. -/
  outer : List (List (List GlobToken))
  /-- The last character that was taken. -/
  previous : Option Char

namespace State

/-- The state before the first character. -/
def start : State := ⟨[[]], [], none⟩

/-- Adds a token to the current branch. -/
def push (s : State) (t : GlobToken) : State :=
  match s.branches with
  | b :: bs => { s with branches := (t :: b) :: bs }
  | [] => { s with branches := [[t]] }

/-- The current branch has no token yet. -/
def atStart (s : State) : Bool := (s.branches.head?.getD []).isEmpty

/-- The reader is inside a choice. -/
def inChoice (s : State) : Bool := !s.outer.isEmpty

/-- Opens a choice with an empty branch. -/
def openChoice (s : State) : State :=
  { s with branches := [[]], outer := s.branches :: s.outer }

/-- Closes the innermost choice. -/
def closeChoice (s : State) : Except GlobError State :=
  match s.outer with
  | [] => .error .unopenedChoice
  | before :: outer =>
    .ok ({ s with branches := before, outer }.push
      (.choice (s.branches.reverse.map List.reverse)))

/-- A comma is a literal outside choices and starts a new branch inside. -/
def comma (s : State) : State :=
  if s.inChoice then { s with branches := [] :: s.branches } else s.push (.lit ',')

/-- Replaces the last token before two stars that end a component. After leading or final components
nothing changes; after anything else, which is a slash or the start of a branch, the stars take its
place. -/
def pushComponents (s : State) (final : Bool) : State :=
  match s.branches with
  | (t :: b) :: bs =>
    let new := match t with
      | .anyPrefix => .anyPrefix
      | .anySuffix => .anySuffix
      | _ => if final then .anySuffix else .anyBetween
    { s with branches := (new :: b) :: bs }
  | _ => s

end State

/-- The ranges of a class being read: the newest first; the characters `-` and `]` are literal at
the start, a `-` elsewhere opens a range, and a range takes the end that follows it. -/
structure ClassState where
  /-- The ranges. -/
  ranges : List (Char × Char) := []
  /-- Nothing was read yet. -/
  first : Bool := true
  /-- A `-` was read that may open a range. -/
  inRange : Bool := false

/-- Sets the end of the newest range. -/
def extend (ranges : List (Char × Char)) (c : Char) : Except GlobError (List (Char × Char)) :=
  match ranges with
  | (a, _) :: rest => if c < a then .error (.invalidRange a c) else .ok ((a, c) :: rest)
  | [] => .ok [(c, c)]

/-- The rest of a class up to and with its closing bracket, and the last character before the
rest. -/
def readClass (s : ClassState) : List Char → Except GlobError (List (Char × Char) × List Char)
  | [] => .error .unclosedClass
  | c :: rest =>
    if c = ']' ∧ ¬s.first then
      .ok ((if s.inRange then ('-', '-') :: s.ranges else s.ranges).reverse, rest)
    else if c = '-' ∧ ¬s.first ∧ ¬s.inRange then
      readClass { s with inRange := true } rest
    else if s.inRange then
      match extend s.ranges c with
      | .error e => .error e
      | .ok ranges => readClass { ranges, first := false, inRange := false } rest
    else
      readClass { ranges := (c, c) :: s.ranges, first := false, inRange := false } rest

/-- What two stars mean, given what stands around them, and the text after them. -/
def readStars (s : State) (before : Option Char) (rest : List Char) : State × List Char :=
  let plain := (s.push .anyRun).push .anyRun
  let stars := { s with previous := some '*' }
  if s.atStart then
    match rest with
    | [] => (stars.push .anyPrefix, [])
    | '/' :: rest => ({ s with previous := some '/' }.push .anyPrefix, rest)
    | _ => ({ plain with previous := some '*' }, rest)
  else if before ≠ some '/' ∧ ¬(s.inChoice ∧ (before = some ',' ∨ before = some '\x7b')) then
    ({ plain with previous := some '*' }, rest)
  else
    match rest with
    | [] => (stars.pushComponents true, [])
    | c :: after =>
      if (c = ',' ∨ c = '\x7d') ∧ s.inChoice then (stars.pushComponents true, rest)
      else if c = '/' then ({ s with previous := some '/' }.pushComponents false, after)
      else ({ plain with previous := some '*' }, rest)

/-- Reads a pattern. Each step takes a character, so the length is enough fuel. -/
def readTokens : (fuel : Nat) → State → List Char → Except GlobError State
  | _, s, [] => .ok s
  | 0, s, _ => .ok s
  | fuel + 1, s, c :: rest =>
    let next := { s with previous := some c }
    match c with
    | '?' => readTokens fuel (next.push .anyByte) rest
    | '*' =>
      match rest with
      | '*' :: rest =>
        let (s, rest) := readStars s s.previous rest
        readTokens fuel s rest
      | _ => readTokens fuel (next.push .anyRun) rest
    | '[' =>
      let (negated, body) := match rest with
        | '!' :: body | '^' :: body => (true, body)
        | _ => (false, rest)
      match readClass {} body with
      | .error e => .error e
      | .ok (ranges, rest) =>
        readTokens fuel ({ next with previous := some ']' }.push (.cls negated ranges)) rest
    | '\x7b' => readTokens fuel next.openChoice rest
    | '\x7d' =>
      match next.closeChoice with
      | .error e => .error e
      | .ok s => readTokens fuel s rest
    | ',' => readTokens fuel next.comma rest
    | '\\' =>
      match rest with
      | [] => .error .danglingEscape
      | c :: rest => readTokens fuel ({ next with previous := some c }.push (.lit c)) rest
    | c => readTokens fuel (next.push (.lit c)) rest

/-- Reads a pattern as tokens. -/
def parse (pattern : String) : Except GlobError (List GlobToken) :=
  match readTokens pattern.toList.length .start pattern.toList with
  | .error e => .error e
  | .ok s =>
    if s.inChoice then .error .unclosedChoice else .ok ((s.branches.head?.getD []).reverse)

/-! ### Meaning -/

/-- The bytes of a character. -/
def bytesOf (c : Char) : List Nat := (String.singleton c).toUTF8.toList.map UInt8.toNat

/-- The ranges of bytes that a range of characters names: the last byte of the first character up to
the first byte of the last one, and all other bytes of both on their own. -/
def byteRanges (first last : Char) : List (Nat × Nat) :=
  let as := bytesOf first
  let bs := bytesOf last
  if first = last then as.map fun b ↦ (b, b)
  else
    (as.dropLast.map fun b ↦ (b, b)) ++ [(as.getLast?.getD 0, bs.head?.getD 0)] ++
      (bs.drop 1).map fun b ↦ (b, b)

/-- A glob's expression; it has no boundary conditions. -/
abbrev GlobExpr := Expr CodeSet Empty

/-- Any one byte. -/
def byte : GlobExpr := .one ⟨[(0, 255)]⟩

/-- Any number of bytes. -/
def bytes : GlobExpr := .rep byte 0 none

/-- A slash. -/
def slash : GlobExpr := .one (.single '/'.toNat)

/-- Tokens that stand for nothing, whatever follows: no token, or only empty choices. -/
def isNothing : List GlobToken → Bool
  | [] => true
  | .choice branches :: rest => allNothing branches && isNothing rest
  | _ :: _ => false
where
  /-- Every branch stands for nothing. -/
  allNothing : List (List GlobToken) → Bool
    | [] => true
    | b :: bs => isNothing b && allNothing bs

mutual

/-- The meaning of a token. -/
def tokenExpr : GlobToken → GlobExpr
  | .lit c => .seqAll ((bytesOf c).map fun b ↦ .one (.single b))
  | .anyByte => byte
  | .anyRun => bytes
  | .anyPrefix => .alt (.rep slash 0 (some 1)) (.seq bytes slash)
  | .anySuffix => .seq slash bytes
  | .anyBetween => .alt slash (.seq slash (.seq bytes slash))
  | .cls negated ranges =>
    .one ((CodeSet.ofRanges (ranges.flatMap fun (a, b) ↦ byteRanges a b)).negateIf negated)
  | .choice branches => if isNothing.allNothing branches then .empty else .altAll (branchExprs branches)

/-- The meaning of tokens in a row. -/
def tokensExpr : List GlobToken → GlobExpr
  | [] => .empty
  | t :: ts => .seq (tokenExpr t) (tokensExpr ts)

/-- The meanings of the branches that stand for something. -/
def branchExprs : List (List GlobToken) → List GlobExpr
  | [] => []
  | b :: bs => if isNothing b then branchExprs bs else tokensExpr b :: branchExprs bs

end

/-- The meaning of a glob; alone, any number of leading components is any text. -/
def toExpr : List GlobToken → GlobExpr
  | [.anyPrefix] => bytes
  | tokens => tokensExpr tokens

/-- The whole text matches the glob. -/
def accepts (tokens : List GlobToken) (text : String) : Bool :=
  (toExpr tokens).isWhole (fun t ↦ t.elim) (text.toUTF8.toList.map UInt8.toNat)

end Glob

end StatusRollup.Pattern
