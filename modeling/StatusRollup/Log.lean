import StatusRollup.Event
import StatusRollup.Failure

/-!
# Log entries

What a pass has to tell besides its outcome. An entry knows its level, its text and its fields; the
order of the fields is the order in which they are written.
-/

namespace StatusRollup

/-- The level of an entry. -/
inductive Level where
  /-- For those who look for a fault. -/
  | debug
  /-- For information. -/
  | info
  /-- Something to look at. -/
  | warn
  deriving DecidableEq

/-- The written name of a level. -/
def Level.name : Level → String
  | debug => "DEBUG"
  | info => "INFO"
  | warn => "WARN"

/-- The value of a field. -/
inductive LogValue where
  /-- A number. -/
  | number (n : Nat)
  /-- A text. -/
  | text (s : String)
  deriving DecidableEq

/-- An entry of the log. -/
inductive LogEntry where
  /-- Conditions that belong to no category were left out. -/
  | ignored (count : Nat)
  /-- A failing condition has not lasted for its hold yet. -/
  | absorbed (type : String) (age hold : Duration)
  /-- The supplier of related objects did not answer. -/
  | supplierSilent (record : String)
  /-- There was nothing to write. -/
  | unchanged (record : String)
  /-- A record was written. -/
  | written (record : String) (version : UInt64) (changes : Nat)
  /-- A status changed. -/
  | changed (severity : Severity) (transition : Transition)
  /-- A stored version was raised, so that a write would be overtaken. -/
  | overtaken (record : String)
  /-- A write was overtaken and is tried again. -/
  | conflicted (record : String) (attempt : Nat) (failure : Failure)
  deriving DecidableEq

namespace LogEntry

/-- The level of an entry. -/
def level : LogEntry → Level
  | ignored _ => .debug
  | absorbed .. => .debug
  | supplierSilent _ => .debug
  | unchanged _ => .debug
  | written .. => .info
  | changed .info _ => .info
  | changed .warning _ => .warn
  | overtaken _ => .debug
  | conflicted .. => .warn

/-- The text of an entry. -/
def message : LogEntry → String
  | ignored _ => "Conditions without a category suffix ignored"
  | absorbed .. => "Failing condition absorbed by inertia"
  | supplierSilent _ => "Dynamic related objects unavailable, keeping persisted list"
  | unchanged _ => "Status unchanged"
  | written .. => "Status record written"
  | changed .. => "Status condition changed"
  | overtaken _ => "Injected write conflict"
  | conflicted .. => "Status write conflicted, re-reading"

/-- An optional status as a field shows it. -/
def optionalStatus : Option Status → String
  | none => "None"
  | some s => "Some(" ++ s.name ++ ")"

/-- The fields of an entry. -/
def fields : LogEntry → List (String × LogValue)
  | ignored count => [("ignored", .number count)]
  | absorbed type age hold =>
    [("condition_type", .text type), ("age_secs", .number age.seconds),
      ("hold_secs", .number hold.seconds)]
  | supplierSilent record => [("record", .text record)]
  | unchanged record => [("record", .text record)]
  | written record version changes =>
    [("record", .text record), ("version", .number version.toNat), ("changes", .number changes)]
  | changed _ t =>
    [("category", .text t.category.suffix), ("from", .text (optionalStatus t.previous)),
      ("to", .text t.current.name), ("reason", .text t.reason)]
  | overtaken record => [("record", .text record)]
  | conflicted record attempt failure =>
    [("record", .text record), ("attempt", .number attempt), ("error", .text failure.message)]

end LogEntry

end StatusRollup
