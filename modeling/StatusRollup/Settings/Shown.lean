import StatusRollup.Settings

/-!
# Settings shown in one line

Settings as a log shows them: every structure as its name and its fields in braces, texts in quotes,
and a length of time in the largest unit that leaves a whole part.
-/

namespace StatusRollup

namespace Shown

/-- A structure: its name and its fields. -/
def struct (name : String) (fields : List (String × String)) : String :=
  name ++ " \x7b " ++ String.intercalate ", " (fields.map fun (key, value) ↦ key ++ ": " ++ value)
    ++ " \x7d"

/-- A list. -/
def list {α : Type} (item : α → String) (xs : List α) : String :=
  "[" ++ String.intercalate ", " (xs.map item) ++ "]"

/-- A truth value. -/
def truth (b : Bool) : String := if b then "true" else "false"

/-- A whole part and a fraction of so many places, without its final zeros. -/
def fraction (whole part places : Nat) : String :=
  let ds := (Text.fixed places part).reverse.dropWhile (· = '0')
  toString whole ++ (if ds.isEmpty then "" else "." ++ String.ofList ds.reverse)

end Shown

/-- A length of time in seconds, milliseconds, microseconds or nanoseconds. -/
def Duration.shown (d : Duration) : String :=
  let n := d.nanos
  if 1000000000 ≤ n then Shown.fraction (n / 1000000000) (n % 1000000000) 9 ++ "s"
  else if 1000000 ≤ n then Shown.fraction (n / 1000000) (n % 1000000) 6 ++ "ms"
  else if 1000 ≤ n then Shown.fraction (n / 1000) (n % 1000) 3 ++ "µs"
  else toString n ++ "ns"

/-- A matcher. -/
def Matcher.shown : Matcher → String
  | exact type => Shown.struct "ExactMatcher" [("condition_type", Text.quoted type)]
  | glob source _ => Shown.struct "GlobMatcher" [("pattern", Text.quoted source)]
  | regex r =>
    Shown.struct "RegexMatcher" [("regex", "Regex(" ++ Text.quoted r.source ++ ")")]
  | supplied _ shown _ => shown

/-- A rule. -/
def Rule.shown (r : Rule) : String :=
  Shown.struct "InertiaRule" [("matcher", r.matcher.shown), ("hold", r.hold.shown)]

/-- A policy. -/
def Policy.shown (p : Policy) : String :=
  Shown.struct "InertiaPolicy"
    [("default_hold", p.defaultHold.shown), ("rules", Shown.list Rule.shown p.rules)]

/-- A reference to an object. -/
def ObjectRef.shown (r : ObjectRef) : String :=
  Shown.struct "ObjectReference"
    [("group", Text.quoted r.group), ("resource", Text.quoted r.resource),
      ("namespace", Text.quoted r.scope), ("name", Text.quoted r.name)]

/-- The settings of a component. -/
def Settings.shown (s : Settings) : String :=
  Shown.struct "SyncerSettings"
    [("record_name", Text.quoted s.name), ("policy", s.policy.shown),
      ("static_related_objects", Shown.list ObjectRef.shown s.fixed),
      ("has_dynamic_related_objects", Shown.truth s.registered),
      ("max_conflict_retries", toString s.maxRetries.toNat),
      ("emit_events", Shown.truth s.emits)]

end StatusRollup
