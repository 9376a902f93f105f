import StatusRollup.Binary64.Text
import StatusRollup.Config
import StatusRollup.Config.Value

/-!
# Reading a configuration out of merged layers

Values are taken generously: a text may be written as a number or a truth value, a number or a truth
value as a text, and names of kinds do not distinguish case. A structure is a table, whose other
keys are ignored, or an array of its fields in order, which may go on after the last field. A field
that is not there takes its default, if it has one.
-/

namespace StatusRollup

namespace Value

/-- A text; numbers and truth values are written out. -/
def readStr? : Value → Option String
  | str s => some s
  | bool b => some (if b then "true" else "false")
  | int n => some (toString n)
  | float x => some x.write
  | _ => none

/-- A text in lower case. -/
def lower (s : String) : String := String.ofList (s.toList.map Char.toLower)

/-- A truth value; a number is true unless it is zero. -/
def readBool? : Value → Option Bool
  | bool b => some b
  | int n => some (n ≠ 0)
  | float x => some !x.isZero
  | str s =>
    match lower s with
    | "1" | "true" | "on" | "yes" => some true
    | "0" | "false" | "off" | "no" => some false
    | _ => none
  | _ => none

/-- A natural number of 64 bits in decimal digits, perhaps after a plus sign. -/
def readDigits? (s : String) : Option UInt64 :=
  let ds := match s.toList with
    | '+' :: rest => rest
    | cs => cs
  let n := Text.valueOf ds
  if ds.isEmpty ∨ !ds.all Char.isDigit ∨ UInt64.size ≤ n then none else some (UInt64.ofNat n)

/-- A natural number of 64 bits; a fraction is rounded. -/
def readUInt64? : Value → Option UInt64
  | int n => if 0 ≤ n ∧ n < UInt64.size then some (UInt64.ofNat n.toNat) else none
  | float x => some x.toUInt64
  | bool b => some (if b then 1 else 0)
  | str s =>
    match lower s with
    | "true" | "on" | "yes" => some 1
    | "false" | "off" | "no" => some 0
    | _ => readDigits? s
  | _ => none

/-- A natural number of 32 bits. -/
def readUInt32? (t : Value) : Option UInt32 :=
  t.readUInt64?.bind fun n ↦ if n.toNat < UInt32.size then some n.toUInt32 else none

/-- A list. -/
def readList? {α : Type} (read : Value → Option α) : Value → Option (List α)
  | array is => is.mapM read
  | _ => none

/-- A member of an enumeration by its name, which may also be the only key of a table. -/
def readEnum? {α : Type} (members : List (String × α)) : Value → Option α
  | str s => members.lookup (lower s)
  | table [(s, _)] => members.lookup (lower s)
  | _ => none

/-- A structure with these fields; each field is read from its value, if there is one. -/
def readStruct? {α : Type} (names : List String) (read : (String → Option Value) → Option α) :
    Value → Option α
  | table fs => read fun name ↦ fs.lookup name
  | array is => read fun name ↦ is[names.idxOf name]?
  | _ => none

/-- A field with a default. -/
def orDefault {α : Type} (default : α) (read : Value → Option α) : Option Value → Option α
  | some t => read t
  | none => some default

end Value

open Value (readStr? readBool? readUInt64? readUInt32? readList? readEnum? readStruct? orDefault)

/-- Reads a kind of pattern. -/
def PatternKind.ofValue? : Value → Option PatternKind :=
  readEnum? (PatternKind.all.map fun k ↦ (k.name, k))

/-- Reads a rule. -/
def RuleConfig.ofValue? : Value → Option RuleConfig :=
  readStruct? ["pattern", "hold_secs", "kind"] fun field ↦ do
    let pattern ← (field "pattern").bind readStr?
    let holdSecs ← (field "hold_secs").bind readUInt64?
    let kind ← orDefault RuleConfig.defaultKind PatternKind.ofValue? (field "kind")
    some { pattern, holdSecs, kind }

/-- Reads the holds of failing conditions. -/
def HoldConfig.ofValue? : Value → Option HoldConfig :=
  readStruct? ["default_hold_secs", "rules"] fun field ↦ do
    let defaultSecs ← orDefault default.defaultSecs readUInt64? (field "default_hold_secs")
    let rules ← orDefault [] (readList? RuleConfig.ofValue?) (field "rules")
    some { defaultSecs, rules }

/-- Reads a reference to an object. -/
def ObjectRef.ofValue? : Value → Option ObjectRef :=
  readStruct? ["group", "resource", "namespace", "name"] fun field ↦ do
    let group ← (field "group").bind readStr?
    let resource ← (field "resource").bind readStr?
    let scope ← orDefault "" readStr? (field "namespace")
    let name ← (field "name").bind readStr?
    some { group, resource, scope, name }

/-- Reads how passes behave. -/
def SyncConfig.ofValue? : Value → Option SyncConfig :=
  readStruct? ["max_conflict_retries", "emit_events"] fun field ↦ do
    let maxRetries ← orDefault default.maxRetries readUInt32? (field "max_conflict_retries")
    let emits ← orDefault default.emits readBool? (field "emit_events")
    some { maxRetries, emits }

/-- Reads how the log behaves. -/
def LogConfig.ofValue? : Value → Option LogConfig :=
  readStruct? ["level"] fun field ↦ do
    let level ← orDefault default.level readStr? (field "level")
    some { level }

/-- Reads a configuration. -/
def Config.ofValue? : Value → Option Config :=
  readStruct? ["record_name", "inertia", "related_objects", "sync", "logging"] fun field ↦ do
    let recordName ← orDefault Config.defaultName readStr? (field "record_name")
    let hold ← orDefault HoldConfig.default HoldConfig.ofValue? (field "inertia")
    let related ← orDefault [] (readList? ObjectRef.ofValue?) (field "related_objects")
    let sync ← orDefault SyncConfig.default SyncConfig.ofValue? (field "sync")
    let logging ← orDefault LogConfig.default LogConfig.ofValue? (field "logging")
    some { recordName, hold, related, sync, logging }

end StatusRollup
