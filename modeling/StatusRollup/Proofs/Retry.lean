import StatusRollup.Pass
import StatusRollup.Proofs.Plan
import StatusRollup.Proofs.Swap

/-!
# Passes that are overtaken

A pass over the store, in closed form. The store holds back some conflicts, and each of them costs
the pass one attempt: the stored version is raised, the update is refused, and the next attempt
reads the raised record. Since the plan for a raised record is the same but for the version
(`Settings.record_plan_version`, `Settings.events_plan_raise`), all attempts of a pass try to write
the same thing.

* One attempt ends in one of four ways: `attempt_absent`, `attempt_unchanged`, `attempt_written` and
  `attempt_overtaken`. Each says everything about the reply but its log.
* `attemptsFrom_add` peels off the overtaken attempts: after `n` of them the pass goes on as if it
  had started at the store `n` conflicts later.
* A whole pass follows: `pass_absent`, `pass_unchanged`, `pass_written` and `pass_exhausted`.
-/

namespace StatusRollup

namespace Store

variable {store : Store} {r : Record} {n : Nat}

/-- The store after so many updates of a record were overtaken. -/
def overtakeTimes (store : Store) (r : Record) : Nat → Store
  | 0 => store
  | n + 1 => (store.overtakeTimes r n).overtake (r.raise n)

@[simp] theorem pending_overtakeTimes : (store.overtakeTimes r n).pending = store.pending - n := by
  induction n with
  | zero => rfl
  | succ n ih =>
    show (store.overtakeTimes r n).pending - 1 = _
    rw [ih]
    omega

@[simp] theorem writes_overtakeTimes : (store.overtakeTimes r n).writes = store.writes := by
  induction n with
  | zero => rfl
  | succ n ih => exact ih

/-- Only the version of the one record has moved. -/
theorem records_overtakeTimes {name : String} (hr : store.records name = some r) :
    (store.overtakeTimes r n).records =
      Function.update store.records name (some (r.raise n)) := by
  induction n with
  | zero =>
    rw [Record.raise_zero]
    exact (Function.update_eq_self_iff.2 hr.symm).symm
  | succ n ih =>
    rw [overtakeTimes, records_overtake (Record.name_raise.trans (store.kept hr)), ih,
      Function.update_idem, Record.raise_succ]

theorem records_overtakeTimes_self {name : String} (hr : store.records name = some r) :
    (store.overtakeTimes r n).records name = some (r.raise n) := by
  rw [records_overtakeTimes hr, Function.update_self]

end Store

namespace Settings

variable {s : Settings} {answer : Option (List ObjectRef)} {xs : List Condition} {now : Instant}
  {store : Store} {r : Record}

/-! ### One attempt -/

/-- Nothing is stored: the planned record is created. -/
theorem attempt_absent (answer : Option (List ObjectRef)) (xs : List Condition) (now : Instant)
    (hr : store.records s.name = none) :
    let plan := s.plan answer xs (.empty s.name) now
    ∃ log, s.attempt Store.sink ⟨.ok xs, answer⟩ now store =
      ⟨⟨.ok (.updated { plan.record with version := 1 } plan.events),
        store.write plan.record 1, log⟩, s.publish plan.events now⟩ := by
  have habsent : store.records (s.plan answer xs (.empty s.name) now).record.name = none := by
    rw [name_plan]
    exact hr
  have hcreate := Store.create_absent habsent
  simp only [attempt, Store.sink, Store.get, hr, Option.isSome_none, Option.getD_none,
    Bool.false_eq_true, false_and, if_false, hcreate]
  exact ⟨_, rfl⟩

/-- The planned record is the stored one: nothing happens. -/
theorem attempt_unchanged (hr : store.records s.name = some r)
    (hplan : (s.plan answer xs r now).record = r) :
    ∃ log, s.attempt Store.sink ⟨.ok xs, answer⟩ now store =
      ⟨⟨.ok (.unchanged r), store, log⟩, []⟩ := by
  simp only [attempt, Store.sink, Store.get, hr, Option.isSome_some, Option.getD_some, hplan,
    and_self, if_true]
  exact ⟨_, rfl⟩

/-- A planned record finds the record it was planned for. -/
theorem records_name_plan (answer : Option (List ObjectRef)) (xs : List Condition) (now : Instant)
    (hr : store.records s.name = some r) :
    store.records (s.plan answer xs r now).record.name = some r := by
  rw [name_plan, store.kept hr, hr]

/-- There is something to write and no conflict is held back: the record is replaced. -/
theorem attempt_written (hr : store.records s.name = some r)
    (hplan : (s.plan answer xs r now).record ≠ r) (hpending : store.pending = 0) :
    let plan := s.plan answer xs r now
    ∃ log, s.attempt Store.sink ⟨.ok xs, answer⟩ now store =
      ⟨⟨.ok (.updated { plan.record with version := r.version + 1 } plan.events),
        store.write plan.record (r.version + 1), log⟩, s.publish plan.events now⟩ := by
  have hupdate := Store.update_current (records_name_plan answer xs now hr) hpending
    version_plan.symm
  simp only [attempt, Store.sink, Store.get, hr, Option.isSome_some, Option.getD_some, hplan,
    and_false, if_false, if_true, hupdate, version_plan]
  exact ⟨_, rfl⟩

/-- There is something to write, but a conflict comes first. -/
theorem attempt_overtaken (hr : store.records s.name = some r)
    (hplan : (s.plan answer xs r now).record ≠ r) (hpending : 0 < store.pending) :
    ∃ log, s.attempt Store.sink ⟨.ok xs, answer⟩ now store =
      ⟨⟨.error (.conflict s.name r.version (r.version + 1)), store.overtake r, log⟩, []⟩ := by
  have hne : r.version + 1 ≠ (s.plan answer xs r now).record.version := by
    rw [version_plan, ne_eq, UInt64.add_eq_left]
    decide
  have hupdate := Store.update_overtaken (records_name_plan answer xs now hr) hpending hne
  simp only [attempt, Store.sink, Store.get, hr, Option.isSome_some, Option.getD_some, hplan,
    and_false, if_false, if_true, hupdate, version_plan, name_plan, store.kept hr]
  exact ⟨_, rfl⟩

/-! ### Attempts in a row -/

section Attempts

variable {σ : Type} {sink : Sink σ} {feed : Feed} {state after : σ} (left number : Nat)
  {log : List LogEntry} {sent : List Notice}

/-- An attempt that succeeds is the last one. -/
theorem attemptsFrom_of_ok {o : Outcome}
    (h : s.attempt sink feed now state = ⟨⟨.ok o, after, log⟩, sent⟩) :
    s.attemptsFrom sink feed now (left + 1) number state = ⟨⟨.ok o, after, log⟩, sent⟩ := by
  simp only [attemptsFrom, h]

/-- An attempt that is overtaken hands its state on to the next one. -/
theorem attemptsFrom_of_conflict {e : Failure} (he : e.isConflict = true)
    (h : s.attempt sink feed now state = ⟨⟨.error e, after, log⟩, []⟩) :
    ∃ log', s.attemptsFrom sink feed now (left + 1) number state =
      { s.attemptsFrom sink feed now left (number + 1) after with log := log' } := by
  simp only [attemptsFrom, h, he, if_true, List.nil_append]
  exact ⟨_, rfl⟩

end Attempts

theorem attempts_pos (s : Settings) : 0 < s.attempts :=
  Nat.lt_min.2 ⟨Nat.succ_pos _, by decide⟩

theorem attempts_lt (s : Settings) : s.attempts < UInt32.size :=
  Nat.lt_of_le_of_lt (Nat.min_le_right _ _) (by decide)

/-- A raised record still has something to write to it. -/
theorem raised_ne (hplan : (s.plan answer xs r now).record ≠ r) {n : Nat} :
    (s.plan answer xs (r.raise n) now).record ≠ r.raise n :=
  fun h ↦ hplan (plan_eq_iff_version.1 h)

/-- **Overtaken attempts peel off.** While conflicts are held back, an attempt does no more than
raise the stored version, so the pass goes on as if it had started there. The induction is on the
number of attempts peeled off; the plan at the raised record is the plan at the record. -/
theorem attemptsFrom_add (hr : store.records s.name = some r)
    (hplan : (s.plan answer xs r now).record ≠ r) (left number : Nat) {n : Nat}
    (hn : n ≤ store.pending) :
    ∃ log, s.attemptsFrom Store.sink ⟨.ok xs, answer⟩ now (left + n) number store =
      { s.attemptsFrom Store.sink ⟨.ok xs, answer⟩ now left (number + n)
          (store.overtakeTimes r n) with log := log } := by
  induction n generalizing left with
  | zero => exact ⟨_, rfl⟩
  | succ n ih =>
    -- one attempt more is left after the first `n`, and it meets a conflict too
    obtain ⟨log, hpeel⟩ := ih (left + 1) (by omega)
    have hpending : 0 < (store.overtakeTimes r n).pending := by
      rw [Store.pending_overtakeTimes]
      omega
    obtain ⟨log₁, hattempt⟩ := attempt_overtaken (Store.records_overtakeTimes_self hr)
      (raised_ne hplan) hpending
    obtain ⟨log₂, hstep⟩ := attemptsFrom_of_conflict left (number + n) rfl hattempt
    rw [show left + (n + 1) = left + 1 + n by omega, hpeel, hstep]
    exact ⟨_, rfl⟩

/-! ### Whole passes -/

/-- A pass that finds no record creates it, whatever conflicts are held back. -/
theorem pass_absent (answer : Option (List ObjectRef)) (xs : List Condition) (now : Instant)
    (hr : store.records s.name = none) :
    let plan := s.plan answer xs (.empty s.name) now
    ∃ log, s.pass Store.sink ⟨.ok xs, answer⟩ now store =
      ⟨⟨.ok (.updated { plan.record with version := 1 } plan.events),
        store.write plan.record 1, log⟩, s.publish plan.events now⟩ := by
  obtain ⟨log, hattempt⟩ := attempt_absent answer xs now hr
  obtain ⟨left, hleft⟩ := Nat.exists_eq_add_of_le' s.attempts_pos
  rw [pass, hleft]
  exact ⟨log, attemptsFrom_of_ok left 1 hattempt⟩

/-- A pass that has nothing to write does nothing, whatever conflicts are held back. -/
theorem pass_unchanged (hr : store.records s.name = some r)
    (hplan : (s.plan answer xs r now).record = r) :
    ∃ log, s.pass Store.sink ⟨.ok xs, answer⟩ now store =
      ⟨⟨.ok (.unchanged r), store, log⟩, []⟩ := by
  obtain ⟨log, hattempt⟩ := attempt_unchanged hr hplan
  obtain ⟨left, hleft⟩ := Nat.exists_eq_add_of_le' s.attempts_pos
  rw [pass, hleft]
  exact ⟨log, attemptsFrom_of_ok left 1 hattempt⟩

/-- A pass with more attempts than conflicts writes its plan, at the version that the conflicts have
raised. Its events are those for the raised record. -/
theorem pass_written (hr : store.records s.name = some r)
    (hplan : (s.plan answer xs r now).record ≠ r) (hpending : store.pending < s.attempts) :
    let record := (s.plan answer xs r now).record
    let version := (r.raise store.pending).version + 1
    let events := (s.plan answer xs (r.raise store.pending) now).events
    ∃ log, s.pass Store.sink ⟨.ok xs, answer⟩ now store =
      ⟨⟨.ok (.updated { record with version } events),
        (store.overtakeTimes r store.pending).write record version, log⟩,
        s.publish events now⟩ := by
  intro record version events
  obtain ⟨left, hleft⟩ : ∃ left, s.attempts = left + 1 + store.pending :=
    ⟨s.attempts - 1 - store.pending, by omega⟩
  obtain ⟨log, hpeel⟩ := attemptsFrom_add hr hplan (left + 1) 1 (Nat.le_refl store.pending)
  obtain ⟨log', hattempt⟩ := attempt_written
    (Store.records_overtakeTimes_self (n := store.pending) hr) (raised_ne hplan) (by simp)
  have hrecord : (s.plan answer xs (r.raise store.pending) now).record =
      { record with version := (r.raise store.pending).version } := record_plan_version
  rw [hrecord] at hattempt
  rw [pass, hleft, hpeel, attemptsFrom_of_ok left _ hattempt]
  exact ⟨_, rfl⟩

/-- A pass with as many conflicts as attempts, or more, gives up. It has raised the version once for
each attempt and has done nothing else. -/
theorem pass_exhausted (hr : store.records s.name = some r)
    (hplan : (s.plan answer xs r now).record ≠ r) (hpending : s.attempts ≤ store.pending) :
    ∃ log, s.pass Store.sink ⟨.ok xs, answer⟩ now store =
      ⟨⟨.error (.retriesExhausted s.name s.attempts), store.overtakeTimes r s.attempts, log⟩,
        []⟩ := by
  obtain ⟨log, hpeel⟩ := attemptsFrom_add hr hplan 0 1 hpending
  rw [Nat.zero_add] at hpeel
  rw [pass, hpeel]
  exact ⟨_, rfl⟩

/-- **Conflicts are transparent up to the number of attempts.** A pass over a stored record does one
of three things, decided by whether its plan differs from the record and by whether the conflicts
held back outnumber its attempts: nothing at all, exactly the planned write, or a failure that
leaves the record alone but for its version. A pass that creates its record meets no conflict.

Versions have 64 bits, and a record at version 0 looks new. So the planned write tells the planned
events as long as the version was not raised past the last one, neither before the pass nor by the
conflicts in front of the write. -/
theorem pass_under_conflicts (s : Settings) (answer : Option (List ObjectRef))
    (xs : List Condition) (now : Instant) (store : Store) :
    let attempts := min (s.maxRetries.toNat + 1) (UInt32.size - 1)
    let reply := s.pass Store.sink ⟨.ok xs, answer⟩ now store
    (∀ r, store.records s.name = some r →
      let plan := s.plan answer xs r now
      (plan.record = r →
        reply.result = .ok (.unchanged r) ∧ reply.state = store ∧ reply.sent = []) ∧
      (plan.record ≠ r → store.pending < attempts →
        r.version ≠ 0 → r.version.toNat + store.pending < UInt64.size →
        let written := { plan.record with version := r.version + .ofNat store.pending + 1 }
        reply.result = .ok (.updated written plan.events) ∧
          reply.state.records = Function.update store.records s.name (some written) ∧
          reply.state.pending = 0 ∧ reply.state.writes = store.writes + 1 ∧
          reply.sent = s.publish plan.events now) ∧
      (plan.record ≠ r → attempts ≤ store.pending →
        let raised := { r with version := r.version + .ofNat attempts }
        reply.result = .error (.retriesExhausted s.name attempts) ∧
          reply.state.records = Function.update store.records s.name (some raised) ∧
          reply.state.pending = store.pending - attempts ∧ reply.state.writes = store.writes ∧
          reply.sent = [])) ∧
    (store.records s.name = none →
      let plan := s.plan answer xs (.empty s.name) now
      let created := { plan.record with version := 1 }
      reply.result = .ok (.updated created plan.events) ∧
        reply.state.records = Function.update store.records s.name (some created) ∧
        reply.state.pending = store.pending ∧ reply.state.writes = store.writes + 1 ∧
        reply.sent = s.publish plan.events now) := by
  intro attempts reply
  refine ⟨fun r hr ↦ ⟨fun hplan ↦ ?_, fun hplan hpending hversion hroom ↦ ?_,
    fun hplan hpending ↦ ?_⟩, fun hr ↦ ?_⟩
  · obtain ⟨log, hpass⟩ := pass_unchanged hr hplan
    rw [show reply = _ from hpass]
    exact ⟨rfl, rfl, rfl⟩
  · obtain ⟨log, hpass⟩ := pass_written hr hplan hpending
    rw [events_plan_raise hversion hroom] at hpass
    rw [show reply = _ from hpass]
    refine ⟨rfl, ?_, ?_, ?_, rfl⟩
    · rw [Store.records_write (name_plan.trans (store.kept hr)), Store.records_overtakeTimes hr,
        Function.update_idem]
      rfl
    · exact Store.pending_overtakeTimes.trans (Nat.sub_self _)
    · exact congrArg (· + 1) Store.writes_overtakeTimes
  · obtain ⟨log, hpass⟩ := pass_exhausted hr hplan hpending
    rw [show reply = _ from hpass]
    exact ⟨rfl, Store.records_overtakeTimes hr, Store.pending_overtakeTimes,
      Store.writes_overtakeTimes, rfl⟩
  · obtain ⟨log, hpass⟩ := pass_absent answer xs now hr
    rw [show reply = _ from hpass]
    exact ⟨rfl, Store.records_write name_plan, rfl, rfl, rfl⟩

/-- Two conflicts, six attempts, and a record stored at version 1 that knows of no failure yet: the
third attempt writes version 4. -/
theorem pass_under_two_conflicts :
    let s := Settings.ofPolicy "operator" .none
    let now : Instant := ⟨0, 0, 0, by decide⟩
    let xs : List Condition := [⟨"DiskDegraded", .yes, now, "", ""⟩]
    let store := (Store.empty 2).seed (.empty "operator")
    (s.pass Store.sink ⟨.ok xs, none⟩ now store).result =
      .ok (.updated ⟨"operator", 4, [⟨.degraded, .yes, "Disk", "", now⟩], []⟩
        [.changed ⟨.degraded, none, .yes, "Disk"⟩]) := by
  intro s now xs store
  obtain ⟨hstored, -⟩ := pass_under_conflicts s none xs now store
  obtain ⟨-, hwritten, -⟩ := hstored ⟨"operator", 1, [], []⟩ (by decide)
  exact (hwritten (by decide) (by decide) (by decide) (by decide)).1.trans (by decide)

end Settings

end StatusRollup
