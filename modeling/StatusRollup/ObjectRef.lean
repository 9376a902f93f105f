/-!
# References to related objects

A reference names one object by group, resource, namespace and name; an object outside any namespace
has the empty one. References are ordered by these four fields in turn, and lists of references are
compared as sets by `ObjectRef.sameSet`.
-/

namespace StatusRollup

/-- A pointer to one object. -/
structure ObjectRef where
  /-- The API group, empty for the core one. -/
  group : String
  /-- The plural resource name. -/
  resource : String
  /-- The namespace, empty for an object outside any. -/
  scope : String
  /-- The object's name. -/
  name : String
  deriving DecidableEq

namespace ObjectRef

/-- The reference in slashes, without the namespace where there is none. -/
def display (r : ObjectRef) : String :=
  if r.scope = "" then
    r.group ++ "/" ++ r.resource ++ "/" ++ r.name
  else
    r.group ++ "/" ++ r.resource ++ "/" ++ r.scope ++ "/" ++ r.name

/-- Group first, then resource, namespace and name, each by code points. -/
def cmp (a b : ObjectRef) : Ordering :=
  (compare a.group b.group).then <|
    (compare a.resource b.resource).then <|
      (compare a.scope b.scope).then (compare a.name b.name)

/-- Sorts references, equal ones staying in their order. -/
def sort (rs : List ObjectRef) : List ObjectRef :=
  rs.mergeSort fun a b ↦ (cmp a b).isLE

/-- Compares lists of references element by element; a proper beginning comes first. -/
def cmpList : List ObjectRef → List ObjectRef → Ordering
  | [], [] => .eq
  | [], _ :: _ => .lt
  | _ :: _, [] => .gt
  | a :: as, b :: bs => (cmp a b).then (cmpList as bs)

/-- The two lists hold the same references, whatever their order and repetitions. -/
def sameSet (as bs : List ObjectRef) : Bool :=
  as.all (fun r ↦ bs.contains r) && bs.all (fun r ↦ as.contains r)

theorem sameSet_iff {as bs : List ObjectRef} :
    sameSet as bs = true ↔ ∀ r, r ∈ as ↔ r ∈ bs := by
  simp only [sameSet, Bool.and_eq_true, List.all_eq_true, List.contains_iff_mem]
  exact ⟨fun h r ↦ ⟨h.1 r, h.2 r⟩, fun h ↦ ⟨fun r ↦ (h r).1, fun r ↦ (h r).2⟩⟩

end ObjectRef

end StatusRollup
