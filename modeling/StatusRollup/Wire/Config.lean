import StatusRollup.Config
import StatusRollup.Wire.Status

/-!
# The wire form of configurations

For each part of a configuration a pair of functions, `toJson` and `ofJson?`. What is written can be
read back.
-/

namespace StatusRollup

open Json (Slot readStruct readStr readBool readUInt32 readUInt64 readList readEnum)

namespace PatternKind

/-- The wire form. -/
def toJson (k : PatternKind) : Json := .str k.name

/-- Reads the wire form. -/
def ofJson? : Json → Option PatternKind := readEnum (all.map fun k ↦ (k.name, k))

end PatternKind

namespace RuleConfig

/-- The wire names of the fields. -/
def fields : List String := ["pattern", "hold_secs", "kind"]

/-- The wire form. -/
def toJson (c : RuleConfig) : Json :=
  .obj [("pattern", .str c.pattern), ("hold_secs", Json.ofNat c.holdSecs.toNat),
    ("kind", c.kind.toJson)]

/-- Reads the wire form. -/
def ofJson? : Json → Option RuleConfig :=
  readStruct fields fun slot ↦ do
    let pattern ← (slot "pattern").required readStr
    let holdSecs ← (slot "hold_secs").required readUInt64
    let kind ← (slot "kind").defaulted defaultKind PatternKind.ofJson?
    some { pattern, holdSecs, kind }

end RuleConfig

namespace HoldConfig

/-- The wire names of the fields. -/
def fields : List String := ["default_hold_secs", "rules"]

/-- The wire form. -/
def toJson (c : HoldConfig) : Json :=
  .obj [("default_hold_secs", Json.ofNat c.defaultSecs.toNat),
    ("rules", Json.ofList RuleConfig.toJson c.rules)]

/-- Reads the wire form. -/
def ofJson? : Json → Option HoldConfig :=
  readStruct fields fun slot ↦ do
    let defaultSecs ← (slot "default_hold_secs").defaulted default.defaultSecs readUInt64
    let rules ← (slot "rules").defaulted [] (readList RuleConfig.ofJson?)
    some { defaultSecs, rules }

end HoldConfig

namespace SyncConfig

/-- The wire names of the fields. -/
def fields : List String := ["max_conflict_retries", "emit_events"]

/-- The wire form. -/
def toJson (c : SyncConfig) : Json :=
  .obj [("max_conflict_retries", Json.ofNat c.maxRetries.toNat), ("emit_events", .bool c.emits)]

/-- Reads the wire form. -/
def ofJson? : Json → Option SyncConfig :=
  readStruct fields fun slot ↦ do
    let maxRetries ← (slot "max_conflict_retries").defaulted default.maxRetries readUInt32
    let emits ← (slot "emit_events").defaulted default.emits readBool
    some { maxRetries, emits }

end SyncConfig

namespace LogConfig

/-- The wire names of the fields. -/
def fields : List String := ["level"]

/-- The wire form. -/
def toJson (c : LogConfig) : Json := .obj [("level", .str c.level)]

/-- Reads the wire form. -/
def ofJson? : Json → Option LogConfig :=
  readStruct fields fun slot ↦ do
    let level ← (slot "level").defaulted default.level readStr
    some { level }

end LogConfig

namespace Config

/-- The wire names of the fields. -/
def fields : List String := ["record_name", "inertia", "related_objects", "sync", "logging"]

/-- The wire form. -/
def toJson (c : Config) : Json :=
  .obj [("record_name", .str c.recordName), ("inertia", c.hold.toJson),
    ("related_objects", Json.ofList ObjectRef.toJson c.related), ("sync", c.sync.toJson),
    ("logging", c.logging.toJson)]

/-- Reads the wire form. -/
def ofJson? : Json → Option Config :=
  readStruct fields fun slot ↦ do
    let recordName ← (slot "record_name").defaulted defaultName readStr
    let hold ← (slot "inertia").defaulted .default HoldConfig.ofJson?
    let related ← (slot "related_objects").defaulted [] (readList ObjectRef.ofJson?)
    let sync ← (slot "sync").defaulted .default SyncConfig.ofJson?
    let logging ← (slot "logging").defaulted .default LogConfig.ofJson?
    some { recordName, hold, related, sync, logging }

end Config

end StatusRollup
