import StatusRollup.Proofs.Retry

/-!
# The course of a pass

Everything that a pass over the store can do, said once (`Settings.Course`, `Settings.course`). It
rests, because the planned record is stored already; or it creates its record; or it writes the
planned record, after as many overtaken attempts as there were conflicts; or it fails, because the
source does or because all of its attempts were overtaken. Later modules go by these cases and never
open a pass.

What a pass leaves alone follows (`Settings.Atomic`). It writes under the name that it finds in the
stored record, and not under the name in its settings; that these are the same is what the store
keeps for every record in it (`Store.kept`). So records under other names are out of reach, and a
pass that fails has moved nothing but a version.
-/

namespace StatusRollup

namespace Settings

variable {s : Settings} {feed : Feed} {now : Instant} {store : Store} {r : Record}

/-- The record that a pass starts from: the stored one, or an empty one. -/
def base (s : Settings) (store : Store) : Record := (store.records s.name).getD (.empty s.name)

theorem base_of_absent (hr : store.records s.name = none) : s.base store = .empty s.name := by
  rw [base, hr, Option.getD_none]

theorem base_of_stored (hr : store.records s.name = some r) : s.base store = r := by
  rw [base, hr, Option.getD_some]

@[simp] theorem name_base : (s.base store).name = s.name := by
  rcases hr : store.records s.name with - | r
  · rw [base_of_absent hr]
    rfl
  · rw [base_of_stored hr, store.kept hr]

/-! ### Passes whose source fails -/

/-- While the source fails, attempts leave the state alone. A failure that looks like an overtaken
write is tried again, in vain; any other one ends the pass. -/
theorem attemptsFrom_of_error {σ : Type} {e : Failure} (he : feed.conditions = .error e)
    (now : Instant) (sink : Sink σ) (state : σ) (left number : Nat) :
    ∃ failure log, s.attemptsFrom sink feed now left number state =
        ⟨⟨.error failure, state, log⟩, []⟩ ∧
      (failure = e ∧ e.isConflict = false ∨ failure = .retriesExhausted s.name s.attempts) := by
  have hattempt : s.attempt sink feed now state = ⟨⟨.error e, state, []⟩, []⟩ := by
    simp only [attempt, he]
  induction left generalizing number with
  | zero => exact ⟨_, _, rfl, .inr rfl⟩
  | succ left ih =>
    cases hconflict : e.isConflict with
    | false =>
      refine ⟨e, [], ?_, .inl ⟨rfl, rfl⟩⟩
      simp only [attemptsFrom, hattempt, hconflict, Bool.false_eq_true, if_false]
    | true =>
      obtain ⟨failure, log, hrest, hfailure⟩ := ih (number + 1)
      obtain ⟨log', hstep⟩ := attemptsFrom_of_conflict left number hconflict hattempt
      rw [hrest] at hstep
      exact ⟨failure, log', hstep, hfailure.imp_left fun h ↦ ⟨h.1, hconflict ▸ h.2⟩⟩

/-! ### Everything a pass can do -/

/-- The courses that a pass over a store can take, with what it leaves behind. The log is left
out. -/
inductive Course (s : Settings) (feed : Feed) (now : Instant) (store : Store) :
    PassReply Store → Prop where
  /-- The planned record is stored already. -/
  | rests {xs : List Condition} {r : Record} {log : List LogEntry} :
    feed.conditions = .ok xs → store.records s.name = some r →
      (s.plan feed.answer xs r now).record = r →
      Course s feed now store ⟨⟨.ok (.unchanged r), store, log⟩, []⟩
  /-- Nothing is stored, and the planned record is created. -/
  | creates {xs : List Condition} {written : Record} {events : List Event} {after : Store}
    {log : List LogEntry} :
    feed.conditions = .ok xs → store.records s.name = none →
      written = { (s.plan feed.answer xs (.empty s.name) now).record with version := 1 } →
      events = (s.plan feed.answer xs (.empty s.name) now).events →
      after.records = Function.update store.records s.name (some written) →
      after.pending = store.pending → after.writes = store.writes + 1 →
      Course s feed now store ⟨⟨.ok (.updated written events), after, log⟩, s.publish events now⟩
  /-- The planned record is written, after `n` attempts that were overtaken. The events are those
  for the record as these have raised it. -/
  | writes {xs : List Condition} {r : Record} {n : Nat} {written : Record} {events : List Event}
    {after : Store} {log : List LogEntry} :
    feed.conditions = .ok xs → store.records s.name = some r → n < s.attempts →
      n ≤ store.pending →
      written =
        { (s.plan feed.answer xs r now).record with version := (r.raise n).version + 1 } →
      events = (s.plan feed.answer xs (r.raise n) now).events →
      after.records = Function.update store.records s.name (some written) →
      after.pending = store.pending - n → after.writes = store.writes + 1 →
      Course s feed now store ⟨⟨.ok (.updated written events), after, log⟩, s.publish events now⟩
  /-- The source fails. -/
  | sourceFails {e failure : Failure} {log : List LogEntry} :
    feed.conditions = .error e →
      (failure = e ∧ e.isConflict = false ∨ failure = .retriesExhausted s.name s.attempts) →
      Course s feed now store ⟨⟨.error failure, store, log⟩, []⟩
  /-- All attempts are overtaken. -/
  | exhausted {xs : List Condition} {r : Record} {after : Store} {log : List LogEntry} :
    feed.conditions = .ok xs → store.records s.name = some r → s.attempts ≤ store.pending →
      after.records = Function.update store.records s.name (some (r.raise s.attempts)) →
      after.pending = store.pending - s.attempts → after.writes = store.writes →
      Course s feed now store
        ⟨⟨.error (.retriesExhausted s.name s.attempts), after, log⟩, []⟩

/-- **Every pass takes one of these courses.** -/
theorem course (s : Settings) (feed : Feed) (now : Instant) (store : Store) :
    s.Course feed now store (s.pass Store.sink feed now store) := by
  obtain ⟨conditions, answer⟩ := feed
  rcases conditions with e | xs
  · have he : (⟨.error e, answer⟩ : Feed).conditions = .error e := rfl
    obtain ⟨failure, log, hpass, hfailure⟩ :=
      attemptsFrom_of_error (s := s) he now Store.sink store s.attempts 1
    rw [pass, hpass]
    exact .sourceFails he hfailure
  rcases hr : store.records s.name with - | r
  · obtain ⟨log, hpass⟩ := pass_absent answer xs now hr
    rw [hpass]
    exact .creates rfl hr rfl rfl (Store.records_write name_plan) rfl rfl
  by_cases hplan : (s.plan answer xs r now).record = r
  · obtain ⟨log, hpass⟩ := pass_unchanged hr hplan
    rw [hpass]
    exact .rests rfl hr hplan
  rcases Nat.lt_or_ge store.pending s.attempts with hpending | hpending
  · obtain ⟨log, hpass⟩ := pass_written hr hplan hpending
    rw [hpass]
    refine .writes rfl hr hpending (Nat.le_refl _) rfl rfl ?_ ?_ ?_
    · rw [Store.records_write (name_plan.trans (store.kept hr)), Store.records_overtakeTimes hr,
        Function.update_idem]
    · exact Store.pending_overtakeTimes
    · exact congrArg (· + 1) Store.writes_overtakeTimes
  · obtain ⟨log, hpass⟩ := pass_exhausted hr hplan hpending
    rw [hpass]
    exact .exhausted rfl hr hpending (Store.records_overtakeTimes hr) Store.pending_overtakeTimes
      Store.writes_overtakeTimes

/-- What a pass reports is stored, and it is the planned record at some version. The events are
those planned for the record at some version, unless nothing was written. -/
theorem outcome_of_pass {o : Outcome} (h : (s.pass Store.sink feed now store).result = .ok o) :
    (s.pass Store.sink feed now store).state.records s.name = some o.record ∧
      ∃ xs, feed.conditions = .ok xs ∧
        (∃ version, o.record =
          { (s.plan feed.answer xs (s.base store) now).record with version }) ∧
        ((∃ version, o.events =
            (s.plan feed.answer xs { s.base store with version } now).events) ∨
          o.events = [] ∧ store.records s.name = some o.record) := by
  have hcourse := s.course feed now store
  generalize s.pass Store.sink feed now store = reply at h hcourse ⊢
  cases hcourse with
  | @rests xs r log hxs hr hplan =>
    obtain rfl := Except.ok.inj h
    refine ⟨hr, xs, hxs, ⟨r.version, ?_⟩, .inr ⟨rfl, hr⟩⟩
    rw [base_of_stored hr, hplan]
    rfl
  | @creates xs written events after log hxs hr hwritten hevents hrecords =>
    obtain rfl := Except.ok.inj h
    rw [base_of_absent hr]
    refine ⟨?_, xs, hxs, ⟨_, hwritten⟩, .inl ⟨_, hevents⟩⟩
    show after.records s.name = some written
    rw [hrecords, Function.update_self]
  | @writes xs r n written events after log hxs hr _ _ hwritten hevents hrecords =>
    obtain rfl := Except.ok.inj h
    rw [base_of_stored hr]
    refine ⟨?_, xs, hxs, ⟨_, hwritten⟩, .inl ⟨_, hevents⟩⟩
    show after.records s.name = some written
    rw [hrecords, Function.update_self]
  | sourceFails => exact absurd h nofun
  | exhausted => exact absurd h nofun

/-- **The frame**: records under other names stay as they are. -/
theorem records_pass_of_ne {name : String} (hname : name ≠ s.name) :
    (s.pass Store.sink feed now store).state.records name = store.records name := by
  have hcourse := s.course feed now store
  generalize s.pass Store.sink feed now store = reply at hcourse ⊢
  cases hcourse with
  | rests => rfl
  | creates _ _ _ _ hrecords =>
    exact (congrFun hrecords name).trans (Function.update_of_ne hname ..)
  | writes _ _ _ _ _ _ hrecords =>
    exact (congrFun hrecords name).trans (Function.update_of_ne hname ..)
  | sourceFails => rfl
  | exhausted _ _ _ hrecords =>
    exact (congrFun hrecords name).trans (Function.update_of_ne hname ..)

/-- **A pass that fails** has used up some conflicts, each of which raised the version of the
record, and has done nothing else. -/
theorem failed_pass {e : Failure} (h : (s.pass Store.sink feed now store).result = .error e) :
    let reply := s.pass Store.sink feed now store
    reply.sent = [] ∧ reply.state.writes = store.writes ∧
      ∃ n ≤ store.pending, reply.state.pending = store.pending - n ∧
        reply.state.records s.name =
          (store.records s.name).map fun r ↦ r.raise n := by
  intro reply
  have hcourse : s.Course feed now store reply := s.course feed now store
  replace h : reply.result = .error e := h
  clear_value reply
  cases hcourse with
  | rests => exact absurd h nofun
  | creates => exact absurd h nofun
  | writes => exact absurd h nofun
  | sourceFails =>
    refine ⟨rfl, rfl, 0, Nat.zero_le _, rfl, ?_⟩
    simp only [Record.raise_zero, Option.map_id']
  | exhausted _ hr hn hrecords hpending hwrites =>
    refine ⟨rfl, hwrites, s.attempts, hn, hpending, ?_⟩
    rw [hrecords, Function.update_self, hr, Option.map_some]

/-- A pass whose source fails changes nothing at all. -/
theorem pass_of_error {e : Failure} (he : feed.conditions = .error e) :
    let reply := s.pass Store.sink feed now store
    (∃ failure, reply.result = .error failure) ∧ reply.state = store ∧ reply.sent = [] := by
  obtain ⟨failure, log, hpass, -⟩ :=
    attemptsFrom_of_error (s := s) he now Store.sink store s.attempts 1
  rw [pass, hpass]
  exact ⟨⟨failure, rfl⟩, rfl, rfl⟩

/-- A pass fails with what its source failed with, or it gives up after its attempts. No failure of
the store ends it. -/
theorem failure_of_pass {e : Failure} (h : (s.pass Store.sink feed now store).result = .error e) :
    feed.conditions = .error e ∧ e.isConflict = false ∨ e = .retriesExhausted s.name s.attempts := by
  have hcourse := s.course feed now store
  generalize s.pass Store.sink feed now store = reply at h hcourse
  cases hcourse with
  | rests => exact absurd h nofun
  | creates => exact absurd h nofun
  | writes => exact absurd h nofun
  | sourceFails he hfailure =>
    obtain rfl := Except.error.inj h
    rcases hfailure with ⟨rfl, hconflict⟩ | hexhausted
    · exact .inl ⟨he, hconflict⟩
    · exact .inr hexhausted
  | exhausted => exact .inr (Except.error.inj h).symm

/-- A pass that leaves a reply behind is **atomic**: it is kept within its own record, and if it has
failed, it has changed no more of that than the version. -/
structure Atomic (s : Settings) (feed : Feed) (store : Store) (reply : PassReply Store) : Prop where
  /-- Records under other names stay as they are, however the pass ends. -/
  frame : ∀ name, name ≠ s.name → reply.state.records name = store.records name
  /-- A pass that fails has sent nothing and has counted no write. -/
  quiet : ∀ e, reply.result = .error e → reply.sent = [] ∧ reply.state.writes = store.writes
  /-- A pass that fails has raised the version of its record, if there is one, by the number of
  conflicts that it has used up. -/
  raised : ∀ e, reply.result = .error e → ∃ n ≤ store.pending,
    reply.state.pending = store.pending - n ∧
      reply.state.records s.name =
        (store.records s.name).map fun r ↦ r.raise n
  /-- A pass whose source fails does fail, and it changes nothing at all. -/
  sourceFails : ∀ e, feed.conditions = .error e →
    (∃ failure, reply.result = .error failure) ∧ reply.state = store ∧ reply.sent = []
  /-- A source that only ever is unavailable makes a pass fail with that, and so many overtaken
  attempts make it give up; failures of the store never come out. -/
  failures : (∀ e, feed.conditions = .error e → ∃ cause, e = .sourceUnavailable cause) →
    ∀ e, reply.result = .error e →
      (∃ cause, e = .sourceUnavailable cause) ∨ e = .retriesExhausted s.name s.attempts

theorem atomic (s : Settings) (feed : Feed) (now : Instant) (store : Store) :
    s.Atomic feed store (s.pass Store.sink feed now store) where
  frame _ hname := records_pass_of_ne hname
  quiet _ h := ⟨(failed_pass h).1, (failed_pass h).2.1⟩
  raised _ h := (failed_pass h).2.2
  sourceFails _ he := pass_of_error he
  failures hsource e h := by
    rcases failure_of_pass h with ⟨he, -⟩ | hexhausted
    · exact .inl (hsource e he)
    · exact .inr hexhausted

end Settings

end StatusRollup
