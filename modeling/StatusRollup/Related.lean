import StatusRollup.ObjectRef

/-!
# Reconciling related objects

Three lists meet in a pass: the configured references, the answer of an optional supplier and the
list already stored. What the supplier says decides which of them are kept.

* No supplier: the configured list alone.
* A supplier that answered: its answer, then the configured list.
* A supplier that could not answer: the configured list, then the stored one, so nothing known is
  forgotten.

Repetitions are kept as given; whether a list changed is asked of it as a set.
-/

namespace StatusRollup

/-- What the supplier of related objects says in one pass. -/
inductive Supply where
  /-- There is no supplier. -/
  | unregistered
  /-- There is one, but it could not answer. -/
  | unavailable
  /-- It answered with this list. -/
  | resolved (refs : List ObjectRef)
  deriving DecidableEq

namespace Supply

/-- Asks an optional supplier, itself given by its optional answer. -/
def ofSupplier : Option (Option (List ObjectRef)) → Supply
  | none => unregistered
  | some none => unavailable
  | some (some refs) => resolved refs

/-- What a supplier says, given by whether it exists, whether it answered, and its answer. -/
def ofFlags (registered answered : Bool) (refs : List ObjectRef) : Supply :=
  if registered then
    if answered then resolved refs else unavailable
  else
    unregistered

/-- The list to report, out of what the supplier said, the configured list and the stored one. -/
def reconcile (supply : Supply) (fixed existing : List ObjectRef) : List ObjectRef :=
  match supply with
  | unregistered => fixed
  | unavailable => fixed ++ existing
  | resolved refs => refs ++ fixed

end Supply

end StatusRollup
