import StatusRollup.Pass
import StatusRollup.Store.Scripted

/-!
# Sessions

A session is a component with everything around it: its settings, the source of its conditions, the
supplier of related objects, a scripted store and at most one subscriber. Commands change the
surroundings, run passes or use the store directly, and each one is answered by a `Step`.

Only so many notices wait for a subscriber: one who falls behind loses the oldest.
-/

namespace StatusRollup

/-- A component and its surroundings. -/
structure Session where
  /-- The settings. -/
  settings : Settings
  /-- The store. -/
  sink : Scripted
  /-- The source answers. -/
  sourceUp : Bool
  /-- What the source answers. -/
  conditions : List Condition
  /-- What the supplier answers. -/
  answer : Option (List ObjectRef)
  /-- Events reach subscribers. -/
  broadcasts : Bool
  /-- What waits for the subscriber, if there is one. -/
  inbox : Option (List Notice)

/-- Something to do in a session. -/
inductive Command where
  /-- Runs a pass. -/
  | pass (now : Instant)
  /-- Plans without storing. -/
  | plan (conditions : List Condition) (current : Record) (now : Instant)
  /-- Changes the conditions. -/
  | setConditions (conditions : List Condition)
  /-- Makes the source answer or fail. -/
  | setSource (up : Bool)
  /-- Changes the supplier's answer. -/
  | setAnswer (answer : Option (List ObjectRef))
  /-- Queues a fault of the store. -/
  | addFault (method : Method) (fault : Fault)
  /-- Puts a record as if it had been written before. -/
  | seed (record : Record)
  /-- Reads a record. -/
  | get (name : String)
  /-- Stores a record under a new name. -/
  | create (record : Record)
  /-- Replaces a record. -/
  | update (record : Record)
  /-- Replaces the subscriber by a new one. -/
  | subscribe
  /-- Takes what waits for the subscriber. -/
  | drain

/-- What a command comes to. -/
inductive Answer where
  /-- Nothing to say. -/
  | done
  /-- The outcome of a pass. -/
  | outcome (o : Outcome)
  /-- A plan. -/
  | plan (p : Plan)
  /-- A record, if there is one. -/
  | found (record : Option Record)
  /-- A record that was stored. -/
  | stored (record : Record)
  /-- What waited for the subscriber. -/
  | notices (ns : List Notice)
  /-- A failure. -/
  | failed (e : Failure)

/-- The answer to a command, and what can be seen of the session after it. -/
structure Step where
  /-- The answer. -/
  answer : Answer
  /-- The operations that the command's passes called. -/
  calls : List Method
  /-- The successful writes so far. -/
  writes : UInt32
  /-- The component's record. -/
  stored : Option Record
  /-- What there is to tell. -/
  log : List LogEntry

namespace Session

/-- The text of the source's failure. -/
def outage : String := "simulated source outage"

/-- What a pass is told now. -/
def feed (s : Session) : Feed where
  conditions := if s.sourceUp then .ok s.conditions else .error (.sourceUnavailable outage)
  answer := s.answer

/-- The store's part in the session. -/
def store (s : Session) : Store := s.sink.store

/-- Changes the store. -/
def setStore (s : Session) (store : Store) : Session := { s with sink := { s.sink with store } }

/-- How many notices wait for a subscriber. -/
def capacity : Nat := 1024

/-- The newest notices, as many as wait. -/
def newest (ns : List Notice) : List Notice := ns.drop (ns.length - capacity)

/-- Hands notices to the subscriber. -/
def deliver (s : Session) (ns : List Notice) : Session :=
  if s.broadcasts then { s with inbox := s.inbox.map fun waiting ↦ newest (waiting ++ ns) } else s

/-- Runs a pass and delivers what it publishes. -/
def pass (s : Session) (now : Instant) : Answer × List LogEntry × Session :=
  let reply := s.settings.pass Scripted.sink s.feed now s.sink
  let after := { s with sink := reply.state }.deliver reply.sent
  match reply.result with
  | .ok o => (.outcome o, reply.log, after)
  | .error e => (.failed e, reply.log, after)

/-- Writes to the store directly. -/
def writeDirectly (s : Session) (operation : Store → Reply Store Record) :
    Answer × List LogEntry × Session :=
  let reply := operation s.store
  let answer := match reply.result with
    | .ok r => Answer.stored r
    | .error e => .failed e
  (answer, reply.log, s.setStore reply.state)

/-- Does what a command says. -/
def perform (s : Session) : Command → Answer × List LogEntry × Session
  | .pass now => s.pass now
  | .plan conditions current now =>
    (.plan (s.settings.plan s.answer conditions current now),
      s.settings.planLog s.answer conditions current now, s)
  | .setConditions conditions => (.done, [], { s with conditions })
  | .setSource up => (.done, [], { s with sourceUp := up })
  | .setAnswer answer => (.done, [], { s with answer })
  | .addFault m f => (.done, [], { s with sink := s.sink.addFault m f })
  | .seed r => (.done, [], s.setStore (s.store.seed r))
  | .get name => (.found (s.store.records name), [], s)
  | .create r => s.writeDirectly (Store.create r)
  | .update r => s.writeDirectly (Store.update r)
  | .subscribe => (.done, [], { s with inbox := some [] })
  | .drain => (.notices (s.inbox.getD []), [], { s with inbox := s.inbox.map fun _ ↦ [] })

/-- One command and what can be seen after it. -/
def step (s : Session) (c : Command) : Step × Session :=
  let (answer, log, after) := perform { s with sink := { s.sink with calls := [] } } c
  (⟨answer, after.sink.calls.reverse, after.store.writes,
    after.store.records after.settings.name, log⟩, after)

/-- Commands in a row. -/
def run (s : Session) : List Command → List Step
  | [] => []
  | c :: cs =>
    let (answer, after) := s.step c
    answer :: after.run cs

end Session

end StatusRollup
