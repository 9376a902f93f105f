import StatusRollup.Store

/-!
# A store with a script

A store that can be told to misbehave. A fault is queued for one of the three operations and used up
by the next call of it; what was called is remembered.
-/

namespace StatusRollup

/-- The operations of a sink. -/
inductive Method where
  /-- `Sink.get` -/
  | get
  /-- `Sink.create` -/
  | create
  /-- `Sink.update` -/
  | update
  deriving DecidableEq

namespace Method

/-- Every operation. -/
def all : List Method := [get, create, update]

/-- The written name of an operation. -/
def name : Method → String
  | get => "get"
  | create => "create"
  | update => "update"

end Method

/-- What happens to a call. -/
inductive Fault where
  /-- The store cannot be reached. -/
  | unavailable (cause : String)
  /-- The record is missing. -/
  | notFound (name : String)
  /-- Someone else puts a record first. -/
  | seed (record : Record)
  /-- Nothing. -/
  | pass

/-- A store, the faults queued for each operation, and what was called. -/
structure Scripted where
  /-- The store. -/
  store : Store
  /-- The faults, the next one first. -/
  faults : Method → List Fault
  /-- The operations called so far, the newest one first. -/
  calls : List Method

namespace Scripted

/-- A store without a script. -/
def ofStore (store : Store) : Scripted := ⟨store, fun _ ↦ [], []⟩

/-- Replaces the faults of an operation. -/
def setFaults (s : Scripted) (m : Method) (fs : List Fault) : Scripted :=
  { s with faults := fun x ↦ if x = m then fs else s.faults x }

/-- Queues a fault. -/
def addFault (s : Scripted) (m : Method) (f : Fault) : Scripted := s.setFaults m (s.faults m ++ [f])

/-- Hands a call on to the store. -/
def forward {α : Type} (s : Scripted) (operation : Store → Reply Store α) : Reply Scripted α :=
  let reply := operation s.store
  ⟨reply.result, { s with store := reply.state }, reply.log⟩

/-- A call of an operation, with its fault. -/
def call {α : Type} (m : Method) (operation : Store → Reply Store α) (s : Scripted) :
    Reply Scripted α :=
  let s := { s with calls := m :: s.calls }
  match s.faults m with
  | [] => s.forward operation
  | fault :: rest =>
    let s := s.setFaults m rest
    match fault with
    | .unavailable cause => ⟨.error (.sinkUnavailable cause), s, []⟩
    | .notFound name => ⟨.error (.recordNotFound name), s, []⟩
    | .seed record => forward { s with store := s.store.seed record } operation
    | .pass => s.forward operation

/-- The scripted store as the sink of a pass. -/
def sink : Sink Scripted where
  get name := call .get (Store.get name)
  create record := call .create (Store.create record)
  update record := call .update (Store.update record)

end Scripted

end StatusRollup
