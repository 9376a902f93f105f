import StatusRollup.Record
import StatusRollup.Uuid

/-!
# Events

An event says what a pass changed in a record. A `Notice` is an event as it is published, with the
time of the pass, the record's name and a severity; an `Envelope` is a notice with an identifier.
-/

namespace StatusRollup

/-- Something that a pass changed in a record. -/
inductive Event where
  /-- The record was stored for the first time. -/
  | created (name : String)
  /-- A status changed. -/
  | changed (transition : Transition)
  /-- A category is no longer reported. -/
  | removed (category : Category)
  /-- The related objects changed; there are now so many. -/
  | relatedChanged (count : Nat)
  deriving DecidableEq

/-- How much attention an event deserves. -/
inductive Severity where
  /-- For information. -/
  | info
  /-- A category left its healthy status. -/
  | warning
  deriving DecidableEq

/-- The written name of a severity. -/
def Severity.name : Severity → String
  | info => "Info"
  | warning => "Warning"

/-- A change to a status that is not the healthy one is a warning; all else is information. -/
def Event.severity : Event → Severity
  | changed t => if t.current = t.category.healthy then .info else .warning
  | _ => .info

/-- An event as it is published. -/
structure Notice where
  /-- The time of the pass. -/
  timestamp : Instant
  /-- The name of the record. -/
  record : String
  /-- The severity. -/
  severity : Severity
  /-- The event. -/
  event : Event
  deriving DecidableEq

/-- The notice of an event. -/
def Event.notice (e : Event) (record : String) (now : Instant) : Notice :=
  ⟨now, record, e.severity, e⟩

/-- A notice with an identifier. -/
structure Envelope where
  /-- The identifier. -/
  id : Uuid
  /-- The notice. -/
  notice : Notice
  deriving DecidableEq

end StatusRollup
