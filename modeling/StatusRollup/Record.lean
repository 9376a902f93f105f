import StatusRollup.Condition
import StatusRollup.ObjectRef

/-!
# Status records

A record is what is stored for one component: a version, at most one condition per category (unless
someone else stored more) and the related objects. Composites are merged into it one by one.

A version has 64 bits. Counting goes on at 0 after the last one, where a record that has been
written looks like one that never was.

* `Record.set` refreshes the first condition of the composite's category, or puts a new one before
  the first condition of a later category. The time of change moves only with the status.
* `Record.transition` is the change of status that such a merge makes, if it makes one.
* `Record.retain` drops the categories that are no longer reported, `Record.dropped` names them.
-/

namespace StatusRollup

/-- A condition as it is stored. -/
structure StoredCondition where
  /-- The category. -/
  category : Category
  /-- The status. -/
  status : Status
  /-- The causes. -/
  reason : String
  /-- The messages. -/
  message : String
  /-- When the stored status last changed. -/
  since : Instant
  deriving DecidableEq

/-- A change of status in a record. -/
structure Transition where
  /-- The category. -/
  category : Category
  /-- The status before, if the category was stored. -/
  previous : Option Status
  /-- The status after. -/
  current : Status
  /-- The causes of the new status. -/
  reason : String
  deriving DecidableEq

/-- The status document of one component. -/
@[ext]
structure Record where
  /-- The component's name. -/
  name : String
  /-- Counts the writes; 0 means never stored. -/
  version : UInt64
  /-- The conditions. -/
  conditions : List StoredCondition
  /-- The related objects. -/
  related : List ObjectRef
  deriving DecidableEq

namespace StoredCondition

/-- The condition with what a composite says; the time moves only if the status does. -/
def refresh (x : StoredCondition) (c : Composite) (now : Instant) : StoredCondition where
  category := x.category
  status := c.status
  reason := c.reason
  message := c.message
  since := if x.status = c.status then x.since else now

/-- A composite as a newly stored condition. Its own time is kept, if it has one. -/
def ofComposite (c : Composite) (now : Instant) : StoredCondition where
  category := c.category
  status := c.status
  reason := c.reason
  message := c.message
  since := c.since.getD now

/-- Refreshes the first condition of the composite's category. -/
def refreshFirst (c : Composite) (now : Instant) : List StoredCondition → List StoredCondition
  | [] => []
  | x :: xs => if x.category = c.category then x.refresh c now :: xs else x :: refreshFirst c now xs

/-- Puts a condition before the first one of a later category. -/
def insert (x : StoredCondition) : List StoredCondition → List StoredCondition
  | [] => [x]
  | y :: ys => if x.category < y.category then x :: y :: ys else y :: insert x ys

end StoredCondition

namespace Record

/-- The record of a component about which nothing is stored. -/
def empty (name : String) : Record := ⟨name, 0, [], []⟩

/-- The record was never stored. -/
def isNew (r : Record) : Bool := r.version = 0

/-- The first stored condition of a category. -/
def find (r : Record) (c : Category) : Option StoredCondition :=
  r.conditions.find? fun x ↦ x.category = c

/-- Merges a composite into the record. -/
def set (r : Record) (c : Composite) (now : Instant) : Record :=
  match r.find c.category with
  | some _ => { r with conditions := StoredCondition.refreshFirst c now r.conditions }
  | none =>
    { r with conditions := StoredCondition.insert (StoredCondition.ofComposite c now) r.conditions }

/-- The change of status that merging a composite makes, if any. -/
def transition (r : Record) (c : Composite) : Option Transition :=
  match r.find c.category with
  | some x =>
    if x.status = c.status then none else some ⟨c.category, some x.status, c.status, c.reason⟩
  | none => some ⟨c.category, none, c.status, c.reason⟩

/-- Merges composites one after the other and collects the changes of status. -/
def setAll (now : Instant) : List Composite → Record → Record × List Transition
  | [], r => (r, [])
  | c :: cs, r =>
    let (r', ts) := setAll now cs (r.set c now)
    (r', (r.transition c).toList ++ ts)

/-- Keeps the conditions of some categories. -/
def retain (keep : Category → Bool) (r : Record) : Record :=
  { r with conditions := r.conditions.filter fun x ↦ keep x.category }

/-- The categories of the conditions that `retain` drops. -/
def dropped (keep : Category → Bool) (r : Record) : List Category :=
  (r.conditions.filter fun x ↦ !keep x.category).map (·.category)

end Record

end StatusRollup
