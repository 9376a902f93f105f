import StatusRollup.Condition
import StatusRollup.Pattern.Matcher

/-!
# Hold policies

How long a failing condition has to last before it may change a composite. A policy is a list of
rules and a default: the first rule that accepts a condition type decides its hold. Patterns are
read when a policy is built, so a bad one is reported before anything is evaluated.
-/

namespace StatusRollup

/-- The hold of the condition types that a matcher accepts. -/
structure Rule where
  /-- The condition types. -/
  matcher : Matcher
  /-- Their hold. -/
  hold : Duration

namespace Rule

/-- A rule for a pattern of a kind. -/
def compile (kind : PatternKind) (pattern : String) (hold : Duration) : Except Failure Rule :=
  (Matcher.compile kind pattern).map fun matcher ↦ ⟨matcher, hold⟩

/-- A rule for one condition type. -/
def exact (type : String) (hold : Duration) : Rule := ⟨.exact type, hold⟩

/-- A rule for a glob. -/
def glob? (pattern : String) (hold : Duration) : Except Failure Rule := compile .glob pattern hold

/-- A rule for a regular expression. -/
def regex? (pattern : String) (hold : Duration) : Except Failure Rule := compile .regex pattern hold

/-- The pattern of the rule. -/
def pattern (r : Rule) : String := r.matcher.pattern

/-- The rule is about this condition type. -/
def accepts (r : Rule) (type : String) : Bool := r.matcher.accepts type

end Rule

/-- Rules in order, and the hold of the condition types that none of them accepts. -/
structure Policy where
  /-- The hold without a rule. -/
  defaultHold : Duration
  /-- The rules. -/
  rules : List Rule

namespace Policy

/-- No hold at all. -/
def none : Policy := ⟨.zero, []⟩

/-- A policy whose rules are regular expressions. The first bad pattern is reported. -/
def ofPatterns (defaultHold : Duration) (patterns : List (String × Duration)) :
    Except Failure Policy :=
  (patterns.mapM fun (pattern, hold) ↦ Rule.regex? pattern hold).map fun rules ↦
    ⟨defaultHold, rules⟩

/-- The hold of a condition type. -/
def holdFor (p : Policy) (type : String) : Duration :=
  ((p.rules.find? fun r ↦ r.accepts type).map (·.hold)).getD p.defaultHold

/-- A condition has lasted for its hold. One that is stamped later than now has just begun. -/
def outlasted (p : Policy) (now : Instant) (x : Condition) : Bool :=
  p.holdFor x.type ≤ x.since.age now

end Policy

end StatusRollup
