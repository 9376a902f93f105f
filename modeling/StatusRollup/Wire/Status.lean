import StatusRollup.Event
import StatusRollup.Instant.Text
import StatusRollup.Wire

/-!
# The wire form of statuses, conditions, records and events

For each type a pair of functions, `toJson` and `ofJson?`. What is written can be read back.

An event is an object whose only key names its kind. Its fields are an object, too; a text that is
read straight into an event may also give them as an array (`Event.ofJson?` with `tuples`).
-/

namespace StatusRollup

open Json (Slot readStruct readStr readNat readUInt64 readList readEnum)

namespace Status

/-- The wire form. -/
def toJson (s : Status) : Json := .str s.name

/-- Reads the wire form. -/
def ofJson? : Json → Option Status := readEnum (all.map fun s ↦ (s.name, s))

end Status

namespace Category

/-- The wire form. -/
def toJson (c : Category) : Json := .str c.suffix

/-- Reads the wire form. -/
def ofJson? : Json → Option Category := readEnum (all.map fun c ↦ (c.suffix, c))

end Category

namespace Severity

/-- The wire form. -/
def toJson (s : Severity) : Json := .str s.name

/-- Reads the wire form. -/
def ofJson? : Json → Option Severity := readEnum ([info, warning].map fun s ↦ (s.name, s))

end Severity

namespace Instant

/-- The wire form. -/
def toJson (t : Instant) : Json := .str t.write

/-- Reads the wire form. -/
def ofJson? (j : Json) : Option Instant := (readStr j).bind read?

end Instant

namespace Uuid

/-- The wire form. -/
def toJson (u : Uuid) : Json := .str u.write

/-- Reads the wire form. -/
def ofJson? (j : Json) : Option Uuid := (readStr j).bind read?

end Uuid

namespace Condition

/-- The wire names of the fields. -/
def fields : List String := ["type", "status", "lastTransitionTime", "reason", "message"]

/-- The wire form. -/
def toJson (c : Condition) : Json :=
  .obj [("type", .str c.type), ("status", c.status.toJson),
    ("lastTransitionTime", c.since.toJson), ("reason", .str c.reason), ("message", .str c.message)]

/-- Reads the wire form. -/
def ofJson? : Json → Option Condition :=
  readStruct fields fun slot ↦ do
    let type ← (slot "type").required readStr
    let status ← (slot "status").required Status.ofJson?
    let since ← (slot "lastTransitionTime").required Instant.ofJson?
    let reason ← (slot "reason").defaulted "" readStr
    let message ← (slot "message").defaulted "" readStr
    some { type, status, since, reason, message }

end Condition

namespace Composite

/-- The wire names of the fields. -/
def fields : List String := ["category", "status", "reason", "message", "lastTransitionTime"]

/-- The wire form. -/
def toJson (c : Composite) : Json :=
  .obj [("category", c.category.toJson), ("status", c.status.toJson), ("reason", .str c.reason),
    ("message", .str c.message), ("lastTransitionTime", Json.ofOption Instant.toJson c.since)]

/-- Reads the wire form. -/
def ofJson? : Json → Option Composite :=
  readStruct fields fun slot ↦ do
    let category ← (slot "category").required Category.ofJson?
    let status ← (slot "status").required Status.ofJson?
    let reason ← (slot "reason").required readStr
    let message ← (slot "message").required readStr
    let since ← (slot "lastTransitionTime").optional Instant.ofJson?
    some { category, status, reason, message, since }

end Composite

namespace StoredCondition

/-- The wire names of the fields. -/
def fields : List String := ["category", "status", "reason", "message", "lastTransitionTime"]

/-- The wire form. -/
def toJson (c : StoredCondition) : Json :=
  .obj [("category", c.category.toJson), ("status", c.status.toJson), ("reason", .str c.reason),
    ("message", .str c.message), ("lastTransitionTime", c.since.toJson)]

/-- Reads the wire form. -/
def ofJson? : Json → Option StoredCondition :=
  readStruct fields fun slot ↦ do
    let category ← (slot "category").required Category.ofJson?
    let status ← (slot "status").required Status.ofJson?
    let reason ← (slot "reason").defaulted "" readStr
    let message ← (slot "message").defaulted "" readStr
    let since ← (slot "lastTransitionTime").required Instant.ofJson?
    some { category, status, reason, message, since }

end StoredCondition

namespace Transition

/-- The wire names of the fields. -/
def fields : List String := ["category", "from", "to", "reason"]

/-- The wire form. -/
def toJson (t : Transition) : Json :=
  .obj [("category", t.category.toJson), ("from", Json.ofOption Status.toJson t.previous),
    ("to", t.current.toJson), ("reason", .str t.reason)]

/-- Reads the wire form. -/
def ofJson? : Json → Option Transition :=
  readStruct fields fun slot ↦ do
    let category ← (slot "category").required Category.ofJson?
    let previous ← (slot "from").optional Status.ofJson?
    let current ← (slot "to").required Status.ofJson?
    let reason ← (slot "reason").required readStr
    some { category, previous, current, reason }

end Transition

namespace ObjectRef

/-- The wire names of the fields. -/
def fields : List String := ["group", "resource", "namespace", "name"]

/-- The wire form. -/
def toJson (r : ObjectRef) : Json :=
  .obj [("group", .str r.group), ("resource", .str r.resource), ("namespace", .str r.scope),
    ("name", .str r.name)]

/-- Reads the wire form. -/
def ofJson? : Json → Option ObjectRef :=
  readStruct fields fun slot ↦ do
    let group ← (slot "group").required readStr
    let resource ← (slot "resource").required readStr
    let scope ← (slot "namespace").defaulted "" readStr
    let name ← (slot "name").required readStr
    some { group, resource, scope, name }

end ObjectRef

namespace Record

/-- The wire names of the fields. -/
def fields : List String := ["name", "resourceVersion", "conditions", "relatedObjects"]

/-- The wire form. -/
def toJson (r : Record) : Json :=
  .obj [("name", .str r.name), ("resourceVersion", Json.ofNat r.version.toNat),
    ("conditions", Json.ofList StoredCondition.toJson r.conditions),
    ("relatedObjects", Json.ofList ObjectRef.toJson r.related)]

/-- Reads the wire form. -/
def ofJson? : Json → Option Record :=
  readStruct fields fun slot ↦ do
    let name ← (slot "name").required readStr
    let version ← (slot "resourceVersion").defaulted 0 readUInt64
    let conditions ← (slot "conditions").defaulted [] (readList StoredCondition.ofJson?)
    let related ← (slot "relatedObjects").defaulted [] (readList ObjectRef.ofJson?)
    some { name, version, conditions, related }

end Record

namespace Event

/-- The wire form: the name of the event's kind as the only key of an object. -/
def toJson : Event → Json
  | created name => .obj [("RecordCreated", .obj [("name", .str name)])]
  | changed t => .obj [("ConditionChanged", t.toJson)]
  | removed c => .obj [("ConditionRemoved", .obj [("category", c.toJson)])]
  | relatedChanged n => .obj [("RelatedObjectsChanged", .obj [("count", Json.ofNat n)])]

/-- Reads the fields of an event of a kind. -/
def ofFields? (kind : String) (j : Json) : Option Event :=
  match kind with
  | "RecordCreated" =>
    readStruct ["name"] (fun slot ↦ ((slot "name").required readStr).map created) j
  | "ConditionChanged" => (Transition.ofJson? j).map changed
  | "ConditionRemoved" =>
    readStruct ["category"] (fun slot ↦ ((slot "category").required Category.ofJson?).map removed) j
  | "RelatedObjectsChanged" =>
    readStruct ["count"]
      (fun slot ↦ ((slot "count").required (readNat UInt64.size)).map relatedChanged)
      j
  | _ => none

/-- Reads the wire form. With `tuples`, the fields may be an array. -/
def ofJson? (tuples : Bool) : Json → Option Event
  | .obj [(kind, .obj fields)] => ofFields? kind (.obj fields)
  | .obj [(kind, .arr items)] => if tuples then ofFields? kind (.arr items) else none
  | _ => none

end Event

namespace Notice

/-- The wire form. -/
def toJson (n : Notice) : Json :=
  .obj [("timestamp", n.timestamp.toJson), ("record", .str n.record),
    ("severity", n.severity.toJson), ("event", n.event.toJson)]

end Notice

namespace Envelope

/-- The wire names of the fields. -/
def fields : List String := ["id", "timestamp", "record", "severity", "event"]

/-- The wire form. -/
def toJson (e : Envelope) : Json :=
  .obj [("id", e.id.toJson), ("timestamp", e.notice.timestamp.toJson),
    ("record", .str e.notice.record), ("severity", e.notice.severity.toJson),
    ("event", e.notice.event.toJson)]

/-- Reads the wire form. With `tuples`, the event's fields may be an array. -/
def ofJson? (tuples : Bool) : Json → Option Envelope :=
  readStruct fields fun slot ↦ do
    let id ← (slot "id").required Uuid.ofJson?
    let timestamp ← (slot "timestamp").required Instant.ofJson?
    let record ← (slot "record").required readStr
    let severity ← (slot "severity").required Severity.ofJson?
    let event ← (slot "event").required (Event.ofJson? tuples)
    some ⟨id, { timestamp, record, severity, event }⟩

end Envelope

end StatusRollup
