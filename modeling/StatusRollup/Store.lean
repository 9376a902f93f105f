import StatusRollup.Log

/-!
# The store

A store keeps one record per name. A write carries the version it was based on and succeeds only if
that is still the stored one, which it then raises by one. A store may hold back a number of
conflicts: each of them raises the stored version in front of an update, as if another writer had
come first. After the last version that 64 bits hold comes 0.

* A record is stored under its own name: `Store.kept` is part of the type, so no operation can break
  it.
* `Reply` is what an operation leaves behind: a result, the new state and what there is to tell.
* `Sink` names the three operations that a pass needs, for any kind of state; `Store.sink` is the
  store itself.
-/

namespace StatusRollup

/-- What an operation on a state leaves behind. -/
structure Reply (σ α : Type) where
  /-- The result. -/
  result : Except Failure α
  /-- The new state. -/
  state : σ
  /-- What there is to tell. -/
  log : List LogEntry

/-- The operations on stored records. -/
structure Sink (σ : Type) where
  /-- The record of a name. -/
  get : String → σ → Reply σ (Option Record)
  /-- Stores a record under a new name. -/
  create : Record → σ → Reply σ Record
  /-- Replaces the record that was read at the same version. -/
  update : Record → σ → Reply σ Record

/-- Records by name. -/
structure Store where
  /-- The record of each name. -/
  records : String → Option Record
  /-- The conflicts still held back. -/
  pending : Nat
  /-- The successful writes so far. -/
  writes : UInt32
  /-- A stored record is found under its own name. -/
  kept : ∀ {name r}, records name = some r → r.name = name

namespace Store

/-- The store without records that holds back some conflicts. -/
def empty (pending : Nat) : Store where
  records _ := none
  pending := pending
  writes := 0
  kept := nofun

/-- Puts a record under its name. -/
def put (s : Store) (r : Record) : Store where
  records name := if name = r.name then some r else s.records name
  pending := s.pending
  writes := s.writes
  kept {name x} h := by
    split at h
    · next heq =>
      obtain rfl := Option.some.inj h
      exact heq.symm
    · exact s.kept h

/-- Puts a record as if it had been written before; it counts as no write. -/
def seed (s : Store) (r : Record) : Store :=
  s.put { r with version := max r.version 1 }

/-- Reads a record. -/
def get (name : String) (s : Store) : Reply Store (Option Record) := ⟨.ok (s.records name), s, []⟩

/-- Puts a record with a new version and counts the write. -/
def write (s : Store) (r : Record) (version : UInt64) : Store :=
  { s.put { r with version } with writes := s.writes + 1 }

/-- Stores a record under a new name, with version 1. -/
def create (r : Record) (s : Store) : Reply Store Record :=
  match s.records r.name with
  | some _ => ⟨.error (.alreadyExists r.name), s, []⟩
  | none => ⟨.ok { r with version := 1 }, s.write r 1, []⟩

/-- Replaces a record whose version is the stored one. -/
def swap (r stored : Record) (s : Store) : Except Failure Record × Store :=
  if stored.version = r.version then
    (.ok { r with version := r.version + 1 }, s.write r (r.version + 1))
  else
    (.error (.conflict r.name r.version stored.version), s)

/-- Uses up a conflict that was held back: the record's version is raised in front of an update. -/
def overtake (s : Store) (r : Record) : Store :=
  { s.put { r with version := r.version + 1 } with pending := s.pending - 1 }

/-- Replaces the record that was read at the same version. A conflict that was held back comes
first. -/
def update (r : Record) (s : Store) : Reply Store Record :=
  match s.records r.name with
  | none => ⟨.error (.recordNotFound r.name), s, []⟩
  | some stored =>
    if s.pending = 0 then
      let (result, s) := swap r stored s
      ⟨result, s, []⟩
    else
      let (result, s) := swap r { stored with version := stored.version + 1 } (s.overtake stored)
      ⟨result, s, [.overtaken r.name]⟩

/-- The store as the sink of a pass. -/
def sink : Sink Store := ⟨get, create, update⟩

@[simp] theorem records_put (s : Store) (r : Record) (name : String) :
    (s.put r).records name = if name = r.name then some r else s.records name := rfl

end Store

end StatusRollup
