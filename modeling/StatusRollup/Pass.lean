import StatusRollup.Settings
import StatusRollup.Store

/-!
# Passes

A pass brings a component's record up to date. One attempt reads the conditions and the record,
plans, and writes only if the plan differs from what is stored. An attempt that is overtaken is
repeated from a fresh read, as often as the settings allow; every other failure ends the pass.

Nothing is published before a write has succeeded, and then exactly the plan's events are
(`Settings.publish`).
-/

namespace StatusRollup

/-- What a pass is told about the component. -/
structure Feed where
  /-- Its conditions, or why they cannot be had. -/
  conditions : Except Failure (List Condition)
  /-- The current answer of the supplier of related objects. -/
  answer : Option (List ObjectRef)

/-- How a pass ends, if it does not fail. -/
inductive Outcome where
  /-- There was nothing to write. -/
  | unchanged (record : Record)
  /-- The record was written. -/
  | updated (record : Record) (events : List Event)
  deriving DecidableEq

namespace Outcome

/-- The record that is stored now. -/
def record : Outcome → Record
  | unchanged r => r
  | updated r _ => r

/-- What changed. -/
def events : Outcome → List Event
  | unchanged _ => []
  | updated _ es => es

end Outcome

/-- What there is to tell about an event: changes of status are. -/
def Event.log (e : Event) : List LogEntry :=
  match e with
  | changed t => [.changed e.severity t]
  | _ => []

/-- What a pass, or one attempt of it, leaves behind. -/
structure PassReply (σ : Type) extends Reply σ Outcome where
  /-- What it sent to the subscribers. -/
  sent : List Notice

variable {σ : Type}

namespace Settings

/-- The notices of some events, unless events are not published. -/
def publish (s : Settings) (events : List Event) (now : Instant) : List Notice :=
  if s.emits then events.map fun e ↦ e.notice s.name now else []

/-- One attempt: reads, plans and writes if there is a difference. -/
def attempt (s : Settings) (sink : Sink σ) (feed : Feed) (now : Instant) (state : σ) :
    PassReply σ :=
  match feed.conditions with
  | .error e => ⟨⟨.error e, state, []⟩, []⟩
  | .ok conditions =>
    let read := sink.get s.name state
    match read.result with
    | .error e => ⟨⟨.error e, read.state, read.log⟩, []⟩
    | .ok current =>
      let base := current.getD (Record.empty s.name)
      let plan := s.plan feed.answer conditions base now
      let log := read.log ++ s.planLog feed.answer conditions base now
      if current.isSome ∧ plan.record = base then
        ⟨⟨.ok (.unchanged base), read.state, log ++ [.unchanged s.name]⟩, []⟩
      else
        let write :=
          if current.isSome then sink.update plan.record read.state
          else sink.create plan.record read.state
        match write.result with
        | .error e => ⟨⟨.error e, write.state, log ++ write.log⟩, []⟩
        | .ok record =>
          ⟨⟨.ok (.updated record plan.events), write.state,
            log ++ write.log ++ .written s.name record.version plan.events.length ::
              plan.events.flatMap Event.log⟩, s.publish plan.events now⟩

/-- Attempts until one is not overtaken or none is left; `number` counts them from 1. -/
def attemptsFrom (s : Settings) (sink : Sink σ) (feed : Feed) (now : Instant) :
    (left number : Nat) → σ → PassReply σ
  | 0, _, state => ⟨⟨.error (.retriesExhausted s.name s.attempts), state, []⟩, []⟩
  | left + 1, number, state =>
    let reply := s.attempt sink feed now state
    match reply.result with
    | .ok _ => reply
    | .error e =>
      if e.isConflict then
        let rest := s.attemptsFrom sink feed now left (number + 1) reply.state
        { rest with
          log := reply.log ++ .conflicted s.name number e :: rest.log
          sent := reply.sent ++ rest.sent }
      else
        reply

/-- A whole pass. -/
def pass (s : Settings) (sink : Sink σ) (feed : Feed) (now : Instant) (state : σ) :
    PassReply σ :=
  s.attemptsFrom sink feed now s.attempts 1 state

end Settings

end StatusRollup
