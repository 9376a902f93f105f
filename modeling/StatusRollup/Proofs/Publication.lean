import Mathlib.Data.List.Forall2
import StatusRollup.Proofs.Sinks
import StatusRollup.Session

/-!
# What a subscriber is told

A subscriber who is there from the start and does not fall behind is told of each change that a pass
says it has made, once and in order, whatever else happens in the session: passes that fail, passes
that are overtaken and try again, writes by others. And telling them is all that publication does:
without it a session takes the same course.

Both are facts about one step first, and then about a run by induction on its commands.

* While someone attends (`Session.Attended`) and there is room, what a pass sends joins what waits
  (`Session.exists_attended_step`, `Session.exists_attended_after`).
* A session that publishes nothing takes the same steps, with no notices to take
  (`Session.step_muted`, `Session.run_muted`).

That a pass sends the events of its outcome, and that it does not notice whether they are published,
holds over any sink (`Settings.sent_pass`, `Settings.pass_unpublished`).
-/

namespace StatusRollup

/-! ### Histories -/

/-- A command and the step that answers it. -/
structure Exchange where
  /-- The command. -/
  command : Command
  /-- The step. -/
  step : Step

namespace Exchange

/-- What an exchange says has changed, and when: the events of the outcome of a pass. -/
def changes (x : Exchange) : List (Instant × Event) :=
  match x.command, x.step.answer with
  | .pass now, .outcome o => o.events.map fun e ↦ (now, e)
  | _, _ => []

/-- What the subscriber takes in an exchange. -/
def taken (x : Exchange) : List Notice :=
  match x.command, x.step.answer with
  | .drain, .notices ns => ns
  | _, _ => []

/-- How many changes the subscriber has not taken yet after an exchange, if there were `n` before
it. -/
def undrained (n : Nat) (x : Exchange) : Nat :=
  match x.command with
  | .drain => 0
  | _ => n + x.changes.length

end Exchange

namespace Session

variable {s : Session} {c : Command} {cs : List Command} {waiting : List Notice}

/-- The session that commands leave. -/
def after (s : Session) : List Command → Session
  | [] => s
  | c :: cs => (s.step c).2.after cs

/-- A command with the step that answers it. -/
def exchange (s : Session) (c : Command) : Exchange := ⟨c, (s.step c).1⟩

/-- Commands with the steps that answer them. -/
def history (s : Session) (commands : List Command) : List Exchange :=
  commands.zipWith Exchange.mk (s.run commands)

theorem history_cons : s.history (c :: cs) = s.exchange c :: (s.step c).2.history cs := rfl

/-- Someone **attends** to what a session publishes, and so much waits for them. -/
structure Attended (s : Session) (waiting : List Notice) : Prop where
  /-- Events are published. -/
  emits : s.settings.emits = true
  /-- They reach subscribers. -/
  broadcasts : s.broadcasts = true
  /-- There is a subscriber. -/
  inbox : s.inbox = some waiting

end Session

/-! ### Notices -/

/-- A notice **tells** of a change: it bears the name of the record and the time of the pass, and it
is a warning iff a status has changed to one that is not the healthy one of its category. -/
structure Notice.Tells (name : String) (notice : Notice) (change : Instant × Event) : Prop where
  /-- The time is that of the pass. -/
  timestamp : notice.timestamp = change.1
  /-- The name is that of the record. -/
  record : notice.record = name
  /-- The event is the one that the pass tells of. -/
  event : notice.event = change.2
  /-- A change that leaves the healthy status is a warning, and nothing else is. -/
  severity : notice.severity = .warning ↔
    ∃ t, change.2 = .changed t ∧ t.current ≠ t.category.healthy

theorem Event.severity_eq_warning_iff {e : Event} :
    e.severity = .warning ↔ ∃ t, e = .changed t ∧ t.current ≠ t.category.healthy := by
  cases e with
  | changed t => simp [severity]
  | created | removed | relatedChanged => simp [severity]

theorem Event.tells_notice (e : Event) (name : String) (now : Instant) :
    (e.notice name now).Tells name (now, e) :=
  ⟨rfl, rfl, rfl, severity_eq_warning_iff⟩

/-- What is published of some events tells of each of them. -/
theorem Settings.forall₂_publish {s : Settings} (hemits : s.emits = true) (events : List Event)
    (now : Instant) :
    List.Forall₂ (Notice.Tells s.name) (s.publish events now) (events.map fun e ↦ (now, e)) := by
  rw [publish, if_pos hemits, List.forall₂_map_left_iff, List.forall₂_map_right_iff,
    List.forall₂_same]
  exact fun e _ ↦ e.tells_notice s.name now

/-- **Conveyed** means that nothing is lost and nothing made up: what waited at first, and then
notices of all the changes, are what was taken and what is left. -/
def Conveyed (name : String) (waiting : List Notice) (changes : List (Instant × Event))
    (taken left : List Notice) : Prop :=
  ∃ fresh, waiting ++ fresh = taken ++ left ∧ List.Forall₂ (Notice.Tells name) fresh changes

theorem Conveyed.append {name : String} {waiting next left taken taken' : List Notice}
    {changes changes' : List (Instant × Event)} (h : Conveyed name waiting changes taken next)
    (h' : Conveyed name next changes' taken' left) :
    Conveyed name waiting (changes ++ changes') (taken ++ taken') left := by
  obtain ⟨fresh, hfresh, htells⟩ := h
  obtain ⟨fresh', hfresh', htells'⟩ := h'
  refine ⟨fresh ++ fresh', ?_, List.rel_append htells htells'⟩
  calc waiting ++ (fresh ++ fresh')
      = taken ++ (next ++ fresh') := by rw [← List.append_assoc, hfresh, List.append_assoc]
    _ = taken ++ taken' ++ left := by rw [hfresh', List.append_assoc]

namespace Session

variable {s : Session} {c : Command} {cs : List Command} {waiting : List Notice}

theorem newest_of_length_le {ns : List Notice} (h : ns.length ≤ capacity) : newest ns = ns := by
  rw [newest, Nat.sub_eq_zero_of_le h, List.drop_zero]

/-- If there is room, nothing is lost. -/
theorem Attended.deliver {ns : List Notice} (h : s.Attended waiting)
    (hroom : (waiting ++ ns).length ≤ capacity) : (s.deliver ns).Attended (waiting ++ ns) := by
  rw [Session.deliver, if_pos h.broadcasts]
  refine ⟨h.emits, h.broadcasts, ?_⟩
  show s.inbox.map _ = _
  rw [h.inbox, Option.map_some, newest_of_length_le hroom]

/-! ### One step -/

/-- The answer to a pass. -/
def answerOf : Except Failure Outcome → Answer
  | .ok o => .outcome o
  | .error e => .failed e

/-- What the pass of a step leaves behind. -/
def reply (s : Session) (now : Instant) : PassReply Scripted :=
  s.settings.pass Scripted.sink s.feed now { s.sink with calls := [] }

/-- The session after the pass of a step. -/
def afterPass (s : Session) (now : Instant) : Session :=
  { s with sink := (s.reply now).state }.deliver (s.reply now).sent

theorem step_pass (s : Session) (now : Instant) : s.step (.pass now) =
    (⟨answerOf (s.reply now).result, (s.afterPass now).sink.calls.reverse,
      (s.afterPass now).store.writes,
      (s.afterPass now).store.records (s.afterPass now).settings.name, (s.reply now).log⟩,
      s.afterPass now) := by
  have hpass : perform { s with sink := { s.sink with calls := [] } } (.pass now) =
      (answerOf (s.reply now).result, (s.reply now).log, s.afterPass now) := by
    rw [perform, pass]
    show (match (s.reply now).result with | .ok o => _ | .error e => _) = _
    rcases (s.reply now).result with e | o
    · rfl
    · rfl
  rw [step, hpass]

theorem settings_deliver {ns : List Notice} : (s.deliver ns).settings = s.settings := by
  rw [deliver]
  split
  · rfl
  · rfl

/-- No command changes the settings. -/
theorem settings_step : (s.step c).2.settings = s.settings := by
  cases c with
  | pass now => rw [step_pass, afterPass, settings_deliver]
  | plan | setConditions | setSource | setAnswer | addFault | seed | get | create | update
  | subscribe | drain => rfl

/-- What the exchange says has changed is what the pass says. -/
theorem changes_pass {now : Instant} : (s.exchange (.pass now)).changes =
    (s.reply now).events.map fun e ↦ (now, e) := by
  simp only [exchange, Exchange.changes, step_pass, PassReply.events]
  rcases (s.reply now).result with e | o
  · rfl
  · rfl

/-- Where there is room, a step conveys what it says has changed. -/
theorem exists_attended_step (h : s.Attended waiting) (hc : c ≠ .subscribe)
    (hroom : (s.exchange c).undrained waiting.length ≤ capacity) :
    ∃ left, (s.step c).2.Attended left ∧
      left.length = (s.exchange c).undrained waiting.length ∧
      Conveyed s.settings.name waiting (s.exchange c).changes (s.exchange c).taken left := by
  cases c with
  | pass now =>
    -- all that the pass sends joins what waits
    have htells : List.Forall₂ (Notice.Tells s.settings.name) (s.reply now).sent
        (s.exchange (.pass now)).changes := by
      rw [changes_pass, show (s.reply now).sent = _ from Settings.sent_pass]
      exact Settings.forall₂_publish h.emits ..
    have hlength : (waiting ++ (s.reply now).sent).length =
        (s.exchange (.pass now)).undrained waiting.length := by
      rw [List.length_append, htells.length_eq]
      rfl
    have hattended : (s.step (.pass now)).2.Attended (waiting ++ (s.reply now).sent) := by
      rw [step_pass]
      exact Attended.deliver ⟨h.emits, h.broadcasts, h.inbox⟩ (hlength ▸ hroom)
    exact ⟨_, hattended, hlength, _, rfl, htells⟩
  | drain =>
    have htaken : (s.exchange .drain).taken = waiting :=
      congrArg (·.getD []) h.inbox
    refine ⟨[], ⟨h.emits, h.broadcasts, ?_⟩, rfl, [], ?_, .nil⟩
    · exact congrArg (Option.map fun _ ↦ []) h.inbox
    · rw [htaken]
  | subscribe => exact absurd rfl hc
  | plan | setConditions | setSource | setAnswer | addFault | seed | get | create | update =>
    exact ⟨waiting, ⟨h.emits, h.broadcasts, h.inbox⟩, rfl, [], List.append_nil _, .nil⟩

/-! ### Runs -/

/-- Where there is room at any time, a run conveys what its steps say has changed. -/
theorem exists_attended_after (h : s.Attended waiting) (hcs : .subscribe ∉ cs)
    (hroom : ∀ earlier, earlier <+: cs →
      (s.history earlier).foldl Exchange.undrained waiting.length ≤ capacity) :
    ∃ left, (s.after cs).Attended left ∧
      Conveyed s.settings.name waiting ((s.history cs).flatMap Exchange.changes)
        ((s.history cs).flatMap Exchange.taken) left := by
  induction cs generalizing s waiting with
  | nil => exact ⟨waiting, h, [], List.append_nil _, .nil⟩
  | cons c cs ih =>
    obtain ⟨hc, hcs⟩ := List.ne_and_not_mem_of_not_mem_cons hcs
    obtain ⟨next, hnext, hlength, hstep⟩ :=
      exists_attended_step h (Ne.symm hc) (hroom [c] (List.prefix_append [c] cs))
    obtain ⟨left, hleft, hrest⟩ := ih hnext hcs fun earlier hearlier ↦ by
      rw [hlength]
      exact hroom (c :: earlier) ((List.prefix_cons_inj c).2 hearlier)
    rw [settings_step] at hrest
    rw [history_cons, List.flatMap_cons, List.flatMap_cons]
    exact ⟨left, hleft, hstep.append hrest⟩

end Session

/-! ### Without publication -/

/-- The step with no notices taken. -/
def Step.muted (step : Step) : Step :=
  { step with
    answer := match step.answer with
      | .notices _ => .notices []
      | answer => answer }

namespace Session

variable {s : Session} {c : Command} {cs : List Command}

/-- The session with nothing published, neither before nor from now on. -/
def muted (s : Session) : Session :=
  { s with settings := s.settings.unpublished, inbox := s.inbox.map fun _ ↦ [] }

theorem reply_muted {now : Instant} : s.muted.reply now = { s.reply now with sent := [] } :=
  Settings.pass_unpublished

theorem afterPass_muted {now : Instant} : s.muted.afterPass now = (s.afterPass now).muted := by
  rw [afterPass, afterPass, reply_muted, deliver, deliver]
  show (if s.broadcasts then _ else _ : Session) = _
  have hnewest : newest [] = [] := newest_of_length_le (Nat.zero_le _)
  split
  · simp only [muted, Option.map_map, Function.comp_def, List.append_nil, hnewest]
  · rfl

/-- A direct write has to do with nothing that is muted. -/
theorem step_muted_of_write {operation : Store → Reply Store Record}
    (hc : ∀ t : Session, t.perform c = t.writeDirectly operation) :
    s.muted.step c = ((s.step c).1.muted, (s.step c).2.muted) := by
  simp only [step, hc, writeDirectly, store, muted]
  rcases operation s.sink.store with ⟨e | r, store, log⟩
  · rfl
  · rfl

/-- **A muted session takes the muted step.** -/
theorem step_muted : s.muted.step c = ((s.step c).1.muted, (s.step c).2.muted) := by
  cases c with
  | pass now =>
    rw [step_pass, step_pass, reply_muted, afterPass_muted]
    rcases (s.reply now).result with e | o
    · rfl
    · rfl
  | create r => exact step_muted_of_write fun _ ↦ rfl
  | update r => exact step_muted_of_write fun _ ↦ rfl
  | drain =>
    simp only [step, perform, muted, Step.muted]
    rcases s.inbox with - | waiting
    · rfl
    · rfl
  | subscribe | plan | setConditions | setSource | setAnswer | addFault | seed | get => rfl

/-- A muted session takes the muted steps. -/
theorem run_muted : s.muted.run cs = (s.run cs).map Step.muted := by
  induction cs generalizing s with
  | nil => rfl
  | cons c cs ih =>
    show (s.muted.step c).1 :: (s.muted.step c).2.run cs = _
    rw [step_muted, ih]
    rfl

theorem after_muted : s.muted.after cs = (s.after cs).muted := by
  induction cs generalizing s with
  | nil => rfl
  | cons c cs ih => rw [after, after, step_muted, ih]

theorem taken_muted {step : Step} : (Exchange.mk c step.muted).taken = [] := by
  rcases step with ⟨answer, calls, writes, stored, log⟩
  cases c with
  | drain => cases answer <;> rfl
  | pass | plan | setConditions | setSource | setAnswer | addFault | seed | get | create | update
  | subscribe => rfl

theorem flatMap_taken_muted : (s.muted.history cs).flatMap Exchange.taken = [] := by
  induction cs generalizing s with
  | nil => rfl
  | cons c cs ih =>
    rw [history_cons, List.flatMap_cons, exchange, step_muted, taken_muted, ih, List.append_nil]

/-- **Publication is faithful and has no effect.** Let a subscriber be there from the start and let
there be room, at any time, for what they have not taken yet. What they take during a run and what
waits at its end are notices of all the changes that the outcomes of passes tell of, in order and
once each. With publication switched off, the same commands come to the same steps, but for the
notices taken, and to the same store; and there are no notices. -/
theorem publication_faithful (s : Session) (commands : List Command) (h : s.Attended [])
    (hcommands : .subscribe ∉ commands)
    (hroom : ∀ earlier, earlier <+: commands →
      (s.history earlier).foldl Exchange.undrained 0 ≤ capacity) :
    let history := s.history commands
    let quiet := { s with settings := { s.settings with emits := false } }
    (∃ waiting, (s.after commands).inbox = some waiting ∧
      List.Forall₂ (Notice.Tells s.settings.name) (history.flatMap Exchange.taken ++ waiting)
        (history.flatMap Exchange.changes)) ∧
      quiet.run commands = (s.run commands).map Step.muted ∧
      (quiet.after commands).store = (s.after commands).store ∧
      (quiet.history commands).flatMap Exchange.taken = [] ∧
      (quiet.after commands).inbox = some [] := by
  intro history quiet
  obtain ⟨waiting, hattended, fresh, hfresh, htells⟩ := exists_attended_after h hcommands hroom
  have hquiet : quiet = s.muted := by
    show { s with settings := _ } = { s with settings := _, inbox := s.inbox.map fun _ ↦ [] }
    rw [h.inbox]
    rfl
  rw [hquiet, run_muted, after_muted, flatMap_taken_muted]
  refine ⟨⟨waiting, hattended.inbox, ?_⟩, rfl, rfl, rfl, ?_⟩
  · rw [List.nil_append] at hfresh
    rw [← hfresh]
    exact htells
  · exact congrArg (Option.map fun _ ↦ []) hattended.inbox

/-- A record is created, an overtaken write is tried again, a pass has nothing to do, and another
one finds no source. The subscriber takes three notices, and the one of the last pass waits. Without
publication just as many writes are counted. -/
theorem publication_faithful_retried :
    let instant (day : Fin 6) : Instant := ⟨day, 0, 0, by decide +revert⟩
    let disk (status : Status) : Condition := ⟨"DiskDegraded", status, instant 0, "", ""⟩
    let s : Session :=
      { settings := .ofPolicy "operator" .none, sink := .ofStore (.empty 1), sourceUp := true,
        conditions := [disk .yes], answer := none, broadcasts := true, inbox := some [] }
    let commands : List Command :=
      [.pass (instant 1), .setConditions [], .pass (instant 2), .pass (instant 3),
        .setSource false, .pass (instant 4), .drain, .setSource true, .setConditions [disk .no],
        .pass (instant 5)]
    let quiet := { s with settings := { s.settings with emits := false } }
    let changes : List (Instant × Event) :=
      [(instant 1, .created "operator"), (instant 1, .changed ⟨.degraded, none, .yes, "Disk"⟩),
        (instant 2, .changed ⟨.degraded, some .yes, .unknown, "NoData"⟩),
        (instant 5, .changed ⟨.degraded, some .unknown, .no, "AsExpected"⟩)]
    (∃ waiting, (s.after commands).inbox = some waiting ∧
      List.Forall₂ (Notice.Tells "operator")
        ((s.history commands).flatMap Exchange.taken ++ waiting) changes) ∧
      (quiet.run commands).map (·.writes) = [1, 1, 2, 2, 2, 2, 2, 2, 2, 3] := by
  intro instant disk s commands quiet changes
  have hroom : ∀ n ≤ commands.length,
      (s.history (commands.take n)).foldl Exchange.undrained 0 ≤ capacity := by decide
  obtain ⟨⟨waiting, hinbox, htells⟩, hrun, -⟩ :=
    publication_faithful s commands ⟨rfl, rfl, rfl⟩ (by simp [commands]) fun earlier hearlier ↦ by
      rw [List.prefix_iff_eq_take.1 hearlier]
      exact hroom _ hearlier.length_le
  have hchanges : (s.history commands).flatMap Exchange.changes = changes := by decide
  refine ⟨⟨waiting, hinbox, hchanges ▸ htells⟩, ?_⟩
  rw [hrun]
  decide

end Session

end StatusRollup
