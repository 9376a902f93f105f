import StatusRollup.Log
import StatusRollup.Policy

/-!
# Composites

The conditions of one category come to one composite (`Category.composite?`), and the composites of
all categories are the aggregate of a list of conditions (`aggregate`).

* A condition escalates when it may change the composite's status. Without a policy every condition
  that is not healthy does; with one, a condition has to report the failing status and to have
  outlasted its hold.
* Nothing escalates: the composite is healthy, and its message is made of all conditions.
* Something escalates: the composite is unknown if an escalating condition is, and failing
  otherwise. Its reason and message are made of all conditions that are not healthy, also of those
  still held back, so they stay visible.

The order of the conditions is kept throughout.
-/

namespace StatusRollup

/-- The reason of a healthy composite. -/
def asExpected : String := "AsExpected"

/-- The reason of a composite without conditions. -/
def noData : String := "NoData"

namespace Condition

/-- The condition's type without the category's suffix, and its own reason, if it has one. -/
def reasonToken (c : Category) (x : Condition) : String :=
  let stem := (c.stem x.type).getD x.type
  if x.reason = "" then stem else stem ++ "_" ++ x.reason

/-- The lines of the condition's message, each with the condition's type. An empty message has no
lines. -/
def messageLines (x : Condition) : List String :=
  if x.message = "" then []
  else (x.message.toList.splitOn '\n').map fun line ↦ x.type ++ ": " ++ String.ofList line

end Condition

namespace Composite

/-- The reasons of conditions in one text. -/
def joinReasons (c : Category) (xs : List Condition) : String :=
  String.intercalate "::" (xs.map (Condition.reasonToken c))

/-- The messages of conditions in one text. -/
def joinMessages (xs : List Condition) : String :=
  String.intercalate "\n" (xs.flatMap Condition.messageLines)

/-- The composite of a category without conditions. -/
def withoutData (c : Category) : Composite where
  category := c
  status := .unknown
  reason := noData
  message := ""
  since := none

end Composite

namespace Category

/-- The conditions that may change the composite's status. -/
def escalating (c : Category) (policy : Option Policy) (now : Instant) (xs : List Condition) :
    List Condition :=
  match policy with
  | none => c.nonHealthy xs
  | some p => (c.nonHealthy xs).filter fun x ↦ x.status = c.failing && p.outlasted now x

/-- The composite in which nothing escalates. -/
def healthyComposite (c : Category) (xs : List Condition) : Composite where
  category := c
  status := c.healthy
  reason := asExpected
  message := Composite.joinMessages xs
  since := Instant.latest (xs.map (·.since))

/-- The composite of conditions of which some escalate. -/
def escalatedComposite (c : Category) (xs escalating : List Condition) : Composite where
  category := c
  status := if escalating.any fun x ↦ x.status = .unknown then .unknown else c.failing
  reason := Composite.joinReasons c (c.nonHealthy xs)
  message := Composite.joinMessages (c.nonHealthy xs)
  since := Instant.latest (escalating.map (·.since))

/-- What the conditions of a category come to. Without conditions only `degraded` is reported. -/
def composite? (c : Category) (policy : Option Policy) (now : Instant) (xs : List Condition) :
    Option Composite :=
  if xs.isEmpty then
    if c = .degraded then some (Composite.withoutData c) else none
  else
    let escalating := c.escalating policy now xs
    if escalating.isEmpty then some (c.healthyComposite xs)
    else some (c.escalatedComposite xs escalating)

/-- The failing conditions that a policy still holds back. -/
def absorbed (c : Category) (policy : Policy) (now : Instant) (xs : List Condition) :
    List LogEntry :=
  (xs.filter fun x ↦ x.status = c.failing && !policy.outlasted now x).map fun x ↦
    .absorbed x.type (x.since.age now) (policy.holdFor x.type)

/-- The policy, for a category whose failures are held back. -/
def policyFor (c : Category) (policy : Policy) : Option Policy :=
  if c.usesHold then some policy else none

end Category

/-- The composites of all categories that are reported, in the order of the categories. -/
def aggregate (policy : Policy) (now : Instant) (xs : List Condition) : List Composite :=
  let groups := Grouped.ofList xs
  Category.all.filterMap fun c ↦ c.composite? (c.policyFor policy) now (groups.get c)

/-- What there is to tell about an aggregation. -/
def aggregateLog (policy : Policy) (now : Instant) (xs : List Condition) : List LogEntry :=
  let groups := Grouped.ofList xs
  (if groups.unrecognized = 0 then [] else [.ignored groups.unrecognized]) ++
    Category.all.flatMap fun c ↦
      if c.usesHold then c.absorbed policy now (groups.get c) else []

end StatusRollup
