import StatusRollup.Proofs.Course
import StatusRollup.Proofs.Sinks

/-!
# Rounds

The passes of one component, run one after the other over a store. A turn is what one of them is
told and when; a round is a turn that was taken, with the store that it met. In a list of turns or
rounds the newest comes first, so the earlier part of a run is a run too, and a fact about every run
is a fact about the time after each of its passes.

Nothing is asked of a run: instants may go back, sources may fail and conflicts may be held back.
`base_of_round` is what one round does to the record, and both facts about whole runs rest on it.
-/

namespace StatusRollup

/-- What a pass is told, and when it runs. -/
structure Turn extends Feed where
  /-- The instant of the pass. -/
  now : Instant

/-- A turn that was taken. -/
structure Round extends Turn where
  /-- The store that the pass met. -/
  before : Store

namespace Round

variable (s : Settings) (round : Round)

/-- What the pass left behind. -/
def reply : PassReply Store := s.pass Store.sink round.toFeed round.now round.before

/-- The store that the pass left. -/
def after : Store := (round.reply s).state

/-- What the pass says has changed. -/
def events : List Event := (round.reply s).events

variable {s : Settings} {round : Round}

theorem events_of_ok {o : Outcome} (h : (round.reply s).result = .ok o) :
    round.events s = o.events := by
  rw [events, PassReply.events, h]

theorem events_of_error {e : Failure} (h : (round.reply s).result = .error e) :
    round.events s = [] := by
  rw [events, PassReply.events, h]

/-- Each notice that a round sends is of an event that it tells of. -/
theorem event_of_mem_sent {notice : Notice} (h : notice ∈ (round.reply s).sent) :
    notice.event ∈ round.events s := by
  rw [reply, Settings.sent_pass, Settings.publish] at h
  split at h
  · obtain ⟨event, hevent, rfl⟩ := List.mem_map.1 h
    exact hevent
  · exact absurd h List.not_mem_nil

end Round

namespace Settings

/-- The store that turns leave, the newest turn first. -/
def storeAfter (s : Settings) (start : Store) : List Turn → Store
  | [] => start
  | turn :: earlier =>
    (s.pass Store.sink turn.toFeed turn.now (s.storeAfter start earlier)).state

/-- The rounds that turns make, the newest first. -/
def rounds (s : Settings) (start : Store) : List Turn → List Round
  | [] => []
  | turn :: earlier => ⟨turn, s.storeAfter start earlier⟩ :: s.rounds start earlier

variable {s : Settings} {start : Store} {turn : Turn} {turns : List Turn} {round : Round}

theorem storeAfter_cons :
    s.storeAfter start (turn :: turns) = Round.after s ⟨turn, s.storeAfter start turns⟩ := rfl

/-- A round of a run is one of its turns, taken on the store that the turns before it left. -/
theorem mem_rounds_iff : round ∈ s.rounds start turns ↔
    ∃ later earlier, turns = later ++ round.toTurn :: earlier ∧
      round.before = s.storeAfter start earlier := by
  induction turns with
  | nil => simp [rounds]
  | cons turn turns ih =>
    rw [rounds, List.mem_cons, ih]
    constructor
    · rintro (rfl | ⟨later, earlier, rfl, hbefore⟩)
      · exact ⟨[], turns, rfl, rfl⟩
      · exact ⟨turn :: later, earlier, rfl, hbefore⟩
    · rintro ⟨later, earlier, heq, hbefore⟩
      rcases later with - | ⟨turn', later⟩
      · obtain ⟨rfl, rfl⟩ := List.cons.inj heq
        exact .inl (by rw [← hbefore])
      · obtain ⟨rfl, rfl⟩ := List.cons.inj heq
        exact .inr ⟨later, earlier, rfl, hbefore⟩

/-- The rounds of the earlier part of a run are rounds of the run. -/
theorem mem_rounds_append {later earlier : List Turn} (h : round ∈ s.rounds start earlier) :
    round ∈ s.rounds start (later ++ earlier) := by
  induction later with
  | nil => exact h
  | cons turn later ih => exact List.mem_cons_of_mem _ ih

/-- What a round of a run met and what it left are both left by a part of the run. -/
theorem exists_storeAfter_of_mem_rounds (h : round ∈ s.rounds start turns) :
    ∃ earlier, round.before = s.storeAfter start earlier ∧
      round.after s = s.storeAfter start (round.toTurn :: earlier) := by
  obtain ⟨-, earlier, -, hbefore⟩ := mem_rounds_iff.1 h
  refine ⟨earlier, hbefore, ?_⟩
  rw [storeAfter_cons, ← hbefore]

/-- A record that changed in no more than its version is still the record that passes start from. -/
theorem base_of_raised {before after : Store} {n : Nat}
    (h : after.records s.name =
      (before.records s.name).map fun r ↦ r.raise n) :
    ∃ version, s.base after = { s.base before with version } := by
  rcases hr : before.records s.name with - | r
  · rw [hr] at h
    exact ⟨0, by rw [base_of_absent h, base_of_absent hr]; rfl⟩
  · rw [hr] at h
    exact ⟨(r.raise n).version, by rw [base_of_stored h, base_of_stored hr]; rfl⟩

/-- **One round**, as far as the record shows it. It tells of nothing and leaves the record as it
is, but for its version; or it stores its plan and tells the events of that, for the record at the
version that conflicts have raised it to. -/
theorem base_of_round (s : Settings) (round : Round) :
    (round.events s = [] ∧
      ∃ version, s.base (round.after s) = { s.base round.before with version }) ∨
    ∃ xs, round.conditions = .ok xs ∧
      (∃ version, round.events s =
        (s.plan round.answer xs { s.base round.before with version } round.now).events) ∧
      ∃ version, s.base (round.after s) =
        { (s.plan round.answer xs (s.base round.before) round.now).record with version } := by
  rcases hresult : (round.reply s).result with e | o
  · obtain ⟨-, -, n, -, -, hrecords⟩ := failed_pass hresult
    exact .inl ⟨Round.events_of_error hresult, base_of_raised hrecords⟩
  · obtain ⟨hafter, xs, hxs, ⟨version, hrecord⟩, hevents⟩ := outcome_of_pass hresult
    have hbase : s.base (round.after s) = o.record := base_of_stored hafter
    rw [hbase, Round.events_of_ok hresult]
    rcases hevents with hplanned | ⟨hnone, hstored⟩
    · exact .inr ⟨xs, hxs, hplanned, version, hrecord⟩
    · exact .inl ⟨hnone, o.record.version, by rw [base_of_stored hstored]⟩

/-- A run stores each category at most once, if that is so at first. -/
theorem nodup_storeAfter (hstart : ((s.base start).conditions.map (·.category)).Nodup) :
    ((s.base (s.storeAfter start turns)).conditions.map (·.category)).Nodup := by
  induction turns with
  | nil => exact hstart
  | cons turn turns ih =>
    rw [storeAfter_cons]
    rcases s.base_of_round ⟨turn, s.storeAfter start turns⟩ with
      ⟨-, version, hbase⟩ | ⟨xs, -, -, version, hbase⟩
    · rw [hbase]
      exact ih
    · have hplan : ((s.plan turn.answer xs (s.base (s.storeAfter start turns))
          turn.now).record.conditions.map (·.category)).Nodup := nodup_plan ih
      rw [hbase]
      exact hplan

end Settings

end StatusRollup
