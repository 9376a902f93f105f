import StatusRollup.Instant
import StatusRollup.Status

/-!
# Conditions

A `Condition` is one report about a component; a `Composite` is what the conditions of one category
come to. `Grouped` sorts conditions by category and counts those that belong to none.
-/

namespace StatusRollup

/-- One report about a component. -/
structure Condition where
  /-- What is reported on; its ending tells the category. -/
  type : String
  /-- What is reported. -/
  status : Status
  /-- When the status last changed. -/
  since : Instant
  /-- A word for the cause, perhaps empty. -/
  reason : String := ""
  /-- An explanation of any number of lines, perhaps empty. -/
  message : String := ""
  deriving DecidableEq

/-- What the conditions of one category come to. -/
structure Composite where
  /-- The category. -/
  category : Category
  /-- The status of the whole. -/
  status : Status
  /-- The causes of the deciding conditions. -/
  reason : String
  /-- Their messages. -/
  message : String
  /-- The latest change among the conditions that decided the status; none without conditions. -/
  since : Option Instant
  deriving DecidableEq

/-- The composite says that all is well. -/
def Composite.isHealthy (c : Composite) : Bool := c.status = c.category.healthy

/-- Some of the composites is of this category. -/
def Composite.reports (composites : List Composite) (c : Category) : Bool :=
  composites.any fun x ↦ x.category = c

namespace Category

/-- The conditions that do not report the category's healthy status, in their order. -/
def nonHealthy (c : Category) (conditions : List Condition) : List Condition :=
  conditions.filter fun x ↦ x.status ≠ c.healthy

end Category

/-- Conditions sorted by category, in their order, and the number of those that belong to none. -/
structure Grouped where
  /-- The conditions of `degraded`. -/
  degraded : List Condition := []
  /-- The conditions of `progressing`. -/
  progressing : List Condition := []
  /-- The conditions of `available`. -/
  available : List Condition := []
  /-- How many conditions belong to no category. -/
  unrecognized : Nat := 0

namespace Grouped

/-- Puts a condition in front of those of its category. -/
def cons (x : Condition) (g : Grouped) : Grouped :=
  match classify x.type with
  | some .degraded => { g with degraded := x :: g.degraded }
  | some .progressing => { g with progressing := x :: g.progressing }
  | some .available => { g with available := x :: g.available }
  | none => { g with unrecognized := g.unrecognized + 1 }

/-- Sorts conditions by category. -/
def ofList : List Condition → Grouped
  | [] => {}
  | x :: xs => (ofList xs).cons x

/-- The conditions of a category. -/
def get (g : Grouped) : Category → List Condition
  | .degraded => g.degraded
  | .progressing => g.progressing
  | .available => g.available

/-- The category has no condition. -/
def isEmpty (g : Grouped) (c : Category) : Bool := (g.get c).isEmpty

/-- Every condition is in its category's list or counted as unrecognized. -/
theorem length_add_unrecognized (xs : List Condition) :
    ((ofList xs).get .degraded).length + ((ofList xs).get .progressing).length +
      ((ofList xs).get .available).length + (ofList xs).unrecognized = xs.length := by
  induction xs with
  | nil => rfl
  | cons x xs ih =>
    simp only [ofList, cons, List.length_cons]
    split <;> simp only [get, List.length_cons] at ih ⊢ <;> omega

end Grouped

end StatusRollup
