import StatusRollup.Failure
import StatusRollup.Pattern.Glob
import StatusRollup.Pattern.Regex

/-!
# Matchers of condition types

A matcher is a pattern of one of three kinds, read once and then asked about condition types. The
whole type has to equal an exact pattern or match a glob; some part of it has to match a regular
expression. A caller may also bring a matcher of any other kind (`Matcher.supplied`).
-/

namespace StatusRollup

open Pattern

/-- How a pattern is read. -/
inductive PatternKind where
  /-- The pattern is the type. -/
  | exact
  /-- The pattern is a glob. -/
  | glob
  /-- The pattern is a regular expression. -/
  | regex
  deriving DecidableEq

namespace PatternKind

/-- Every kind. -/
def all : List PatternKind := [exact, glob, regex]

/-- The written name of a kind. -/
def name : PatternKind → String
  | exact => "exact"
  | glob => "glob"
  | regex => "regex"

end PatternKind

/-- A pattern that has been read. -/
inductive Matcher where
  /-- A condition type. -/
  | exact (type : String)
  /-- A glob. -/
  | glob (source : String) (tokens : List GlobToken)
  /-- A regular expression. -/
  | regex (r : Regex)
  /-- What a caller has brought: its pattern, how it shows itself, and what it accepts. -/
  | supplied (pattern shown : String) (accepts : String → Bool)

namespace Matcher

/-- Reads a glob. -/
def glob? (pattern : String) : Except Failure Matcher :=
  match Glob.parse pattern with
  | .ok tokens => .ok (glob pattern tokens)
  | .error e =>
    .error (.invalidPattern pattern <| some ("error parsing glob '" ++ pattern ++ "': " ++ e.message))

/-- Reads a regular expression. -/
def regex? (pattern : String) : Except Failure Matcher :=
  match Regex.compile? pattern with
  | some r => .ok (regex r)
  | none => .error (.invalidPattern pattern none)

/-- Reads a pattern of a kind. -/
def compile (kind : PatternKind) (pattern : String) : Except Failure Matcher :=
  match kind with
  | .exact => .ok (exact pattern)
  | .glob => glob? pattern
  | .regex => regex? pattern

/-- The pattern as written. -/
def pattern : Matcher → String
  | exact type => type
  | glob source _ => source
  | regex r => r.source
  | supplied pattern _ _ => pattern

/-- The matcher accepts a condition type. -/
def accepts (m : Matcher) (type : String) : Bool :=
  match m with
  | exact wanted => wanted == type
  | glob _ tokens => Glob.accepts tokens type
  | regex r => r.occursIn type
  | supplied _ _ accepts => accepts type

end Matcher

end StatusRollup
