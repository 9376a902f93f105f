import StatusRollup.Aggregate
import StatusRollup.Related

/-!
# Settings and plans

The settings of one component, and what a pass would make of its record: the plan.

A plan merges the composites into the current record one by one, drops the categories that are no
longer reported and reconciles the related objects. It lists an event for everything that a reader
of the record can see changed: the creation of the record, each change of status, each category
dropped and a different set of related objects, in this order.
-/

namespace StatusRollup

/-- How one component's status is kept. -/
structure Settings where
  /-- The name of the record. -/
  name : String
  /-- How long failures are held back. -/
  policy : Policy
  /-- The configured related objects. -/
  fixed : List ObjectRef
  /-- There is a supplier of related objects. -/
  registered : Bool
  /-- How many times an overtaken write is tried again. -/
  maxRetries : UInt32
  /-- Events are published. -/
  emits : Bool

/-- What a pass would store, and the events it would publish. -/
structure Plan where
  /-- The record, still with the version it was read at. -/
  record : Record
  /-- What changes. -/
  events : List Event
  deriving DecidableEq

namespace Settings

/-- Settings with a name and a policy: nothing configured besides, five retries, events
published. -/
def ofPolicy (name : String) (policy : Policy) : Settings where
  name := name
  policy := policy
  fixed := []
  registered := false
  maxRetries := 5
  emits := true

/-- How often a write is attempted in one pass. -/
def attempts (s : Settings) : Nat := min (s.maxRetries.toNat + 1) (UInt32.size - 1)

/-- What the supplier says, given its current answer. -/
def supply (s : Settings) (answer : Option (List ObjectRef)) : Supply :=
  Supply.ofSupplier (if s.registered then some answer else none)

/-- The plan for some conditions and the current record. -/
def plan (s : Settings) (answer : Option (List ObjectRef)) (conditions : List Condition)
    (current : Record) (now : Instant) : Plan :=
  let composites := aggregate s.policy now conditions
  let (merged, transitions) := Record.setAll now composites current
  let reported := Composite.reports composites
  let related := (s.supply answer).reconcile s.fixed current.related
  let same := ObjectRef.sameSet related current.related
  { record := { merged.retain reported with related := if same then merged.related else related }
    events :=
      (if current.isNew then [.created current.name] else []) ++
        transitions.map .changed ++
        (merged.dropped reported).map .removed ++
        (if same then [] else [.relatedChanged related.length]) }

/-- What there is to tell about a plan. -/
def planLog (s : Settings) (answer : Option (List ObjectRef)) (conditions : List Condition)
    (current : Record) (now : Instant) : List LogEntry :=
  aggregateLog s.policy now conditions ++
    (if s.supply answer = .unavailable then [.supplierSilent current.name] else [])

end Settings

end StatusRollup
