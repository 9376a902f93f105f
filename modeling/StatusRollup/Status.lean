/-!
# Statuses and categories

A condition reports one of three statuses about one component. The category of a condition is the
axis it contributes to, and each category has a status that means all is well.

* `Status.flip` exchanges the two definite statuses and fixes `unknown`, so a category's failing
  status is the flip of its healthy one and the two always differ (`Category.failing_ne_healthy`).
* Categories are ordered by `Category.rank`, which is the order in which composites are listed.
* A condition type belongs to a category when it ends in the category's suffix. No suffix is a
  suffix of another one, so a type belongs to at most one category.
-/

namespace StatusRollup

/-- What a condition says about its statement: it holds, it does not hold, or nobody can tell. -/
inductive Status where
  /-- The statement holds. -/
  | yes
  /-- The statement does not hold. -/
  | no
  /-- Nobody can tell. -/
  | unknown
  deriving DecidableEq

namespace Status

/-- The opposite definite status; `unknown` has none and stays. -/
def flip : Status → Status
  | yes => no
  | no => yes
  | unknown => unknown

/-- The written name of a status. -/
def name : Status → String
  | yes => "True"
  | no => "False"
  | unknown => "Unknown"

/-- Every status. -/
def all : List Status := [yes, no, unknown]

end Status

/-- The axis a condition contributes to. -/
inductive Category where
  /-- The component works worse than it should. -/
  | degraded
  /-- The component is on its way to a new state. -/
  | progressing
  /-- The component can be used. -/
  | available
  deriving DecidableEq

namespace Category

/-- Every category, in the order composites are listed. -/
def all : List Category := [degraded, progressing, available]

/-- The place of a category in `all`. -/
def rank : Category → Nat
  | degraded => 0
  | progressing => 1
  | available => 2

instance : LT Category := ⟨fun a b ↦ a.rank < b.rank⟩

instance (a b : Category) : Decidable (a < b) := inferInstanceAs (Decidable (a.rank < b.rank))

/-- The ending that marks a condition type as belonging to a category. It is also the category's
written name. -/
def suffix : Category → String
  | degraded => "Degraded"
  | progressing => "Progressing"
  | available => "Available"

/-- The status that means all is well. -/
def healthy : Category → Status
  | degraded => .no
  | progressing => .no
  | available => .yes

/-- The status that means something is wrong. -/
def failing (c : Category) : Status := c.healthy.flip

/-- Failures of this category are held back until they have lasted. -/
def usesHold : Category → Bool
  | degraded => true
  | progressing => false
  | available => false

/-- A condition type carries a category when it ends in the category's suffix. -/
def carries (c : Category) (type : String) : Bool :=
  c.suffix.toList.isSuffixOf type.toList

/-- The condition type without the category's suffix, if it has that suffix. -/
def stem (c : Category) (type : String) : Option String :=
  if c.carries type then
    some (String.ofList (type.toList.take (type.toList.length - c.suffix.toList.length)))
  else
    none

theorem mem_all (c : Category) : c ∈ all := by cases c <;> decide

theorem failing_ne_healthy (c : Category) : c.failing ≠ c.healthy := by cases c <;> decide

end Category

/-- The category a condition type belongs to, if any. -/
def classify (type : String) : Option Category :=
  Category.all.find? fun c ↦ c.carries type

end StatusRollup
