import StatusRollup.Pass

/-!
# Passes over any sink

A pass knows the state behind a sink by the three operations alone. Four things follow for every
sink, whatever its state is.

* What each operation keeps, a pass keeps (`Settings.pass_keeps`).
* A sink may add to the state of another one, such as a record of the calls. As long as its
  operations do the same on the part that it shares with the other, a pass does the same too, and
  cannot tell which of the two it runs over (`Settings.pass_covers`).
* A pass sends the events of its outcome and nothing else: an attempt that is overtaken sends
  nothing (`Settings.sent_pass`).
* A pass does not notice either whether its events are published (`Settings.pass_unpublished`).

All go attempt by attempt: an attempt reads once and then writes at most once, and it sends nothing
before that.
-/

namespace StatusRollup

variable {σ τ α : Type}

/-- A reply as seen by someone who sees a part of the state. -/
def Reply.map (view : τ → σ) (reply : Reply τ α) : Reply σ α :=
  ⟨reply.result, view reply.state, reply.log⟩

/-- A pass as seen by someone who sees a part of the state. -/
def PassReply.map (view : τ → σ) (reply : PassReply τ) : PassReply σ :=
  ⟨reply.toReply.map view, reply.sent⟩

/-- What a pass says has changed: the events of its outcome. A pass that failed has none. -/
def PassReply.events (reply : PassReply σ) : List Event :=
  match reply.result with
  | .ok o => o.events
  | .error _ => []

namespace Sink

/-- A sink **keeps** a property of states if each of its operations does, whatever it answers. -/
structure Keeps (sink : Sink σ) (P : σ → Prop) : Prop where
  /-- Reading keeps it. -/
  get : ∀ name state, P state → P (sink.get name state).state
  /-- Creating keeps it. -/
  create : ∀ r state, P state → P (sink.create r state).state
  /-- Updating keeps it. -/
  update : ∀ r state, P state → P (sink.update r state).state

/-- A sink **covers** another one if it does the same as that on the part of its state that is in
view. -/
structure Covers (wide : Sink τ) (narrow : Sink σ) (view : τ → σ) : Prop where
  /-- Reading is the same. -/
  get : ∀ name state, narrow.get name (view state) = (wide.get name state).map view
  /-- Creating is the same. -/
  create : ∀ r state, narrow.create r (view state) = (wide.create r state).map view
  /-- Updating is the same. -/
  update : ∀ r state, narrow.update r (view state) = (wide.update r state).map view

end Sink

namespace Settings

variable {s : Settings} {feed : Feed} {now : Instant} {sink : Sink σ} {P : σ → Prop} {state : σ}

theorem attempt_keeps (hsink : sink.Keeps P) (h : P state) :
    P (s.attempt sink feed now state).state := by
  have hread := hsink.get s.name state h
  simp only [attempt]
  split
  · exact h
  split
  · exact hread
  split
  · exact hread
  have hwrite : ∀ (current : Option Record) (r : Record),
      P (if current.isSome then sink.update r (sink.get s.name state).state
        else sink.create r (sink.get s.name state).state).state := by
    intro current r
    split
    · exact hsink.update r _ hread
    · exact hsink.create r _ hread
  split
  · exact hwrite ..
  · exact hwrite ..

/-- **What each operation keeps, a pass keeps.** -/
theorem pass_keeps (hsink : sink.Keeps P) (h : P state) : P (s.pass sink feed now state).state := by
  have hattempts : ∀ left number state, P state →
      P (s.attemptsFrom sink feed now left number state).state := by
    intro left
    induction left with
    | zero => exact fun _ _ h ↦ h
    | succ left ih =>
      intro number state h
      have hattempt : P (s.attempt sink feed now state).state := attempt_keeps hsink h
      simp only [attemptsFrom]
      split
      · exact hattempt
      split
      · exact ih _ _ hattempt
      · exact hattempt
  exact hattempts _ _ _ h

variable {wide : Sink τ} {narrow : Sink σ} {view : τ → σ}

theorem attempt_covers (h : wide.Covers narrow view) (state : τ) :
    s.attempt narrow feed now (view state) = (s.attempt wide feed now state).map view := by
  obtain ⟨conditions, answer⟩ := feed
  rcases conditions with e | xs
  · rfl
  rcases hread : wide.get s.name state with ⟨e | current, read, log⟩
  · simp only [attempt, h.get, hread, Reply.map]
    rfl
  -- both have read the same, so they choose the same write
  have hwrite : ∀ r, (if current.isSome then narrow.update r (view read)
      else narrow.create r (view read)) =
        (if current.isSome then wide.update r read else wide.create r read).map view := by
    intro r
    split
    · exact h.update r read
    · exact h.create r read
  simp only [attempt, h.get, hread, Reply.map, hwrite]
  split
  · rfl
  generalize (if current.isSome then _ else _ : Reply τ Record) = write
  rcases write with ⟨e | written, left, log'⟩
  · rfl
  · rfl

/-- **A pass cannot tell** a sink from one that covers it. -/
theorem pass_covers (h : wide.Covers narrow view) (state : τ) :
    s.pass narrow feed now (view state) = (s.pass wide feed now state).map view := by
  have hattempts : ∀ left number state,
      s.attemptsFrom narrow feed now left number (view state) =
        (s.attemptsFrom wide feed now left number state).map view := by
    intro left
    induction left with
    | zero => exact fun _ _ ↦ rfl
    | succ left ih =>
      intro number state
      simp only [attemptsFrom, attempt_covers h]
      rcases s.attempt wide feed now state with ⟨⟨e | o, left', log⟩, sent⟩
      · simp only [PassReply.map, Reply.map, ih]
        split
        · rfl
        · rfl
      · rfl
  exact hattempts _ _ _

/-! ### What a pass sends -/

theorem publish_nil : s.publish [] now = [] := ite_self _

theorem sent_attempt : (s.attempt sink feed now state).sent =
    s.publish (s.attempt sink feed now state).events now := by
  simp only [attempt]
  split
  · exact publish_nil.symm
  split
  · exact publish_nil.symm
  split
  · exact publish_nil.symm
  split
  · exact publish_nil.symm
  · rfl

/-- **A pass sends what it says has changed**, each event once; a pass that fails sends nothing. -/
theorem sent_pass : (s.pass sink feed now state).sent =
    s.publish (s.pass sink feed now state).events now := by
  have hattempts : ∀ left number state,
      (s.attemptsFrom sink feed now left number state).sent =
        s.publish (s.attemptsFrom sink feed now left number state).events now := by
    intro left
    induction left with
    | zero => exact fun _ _ ↦ publish_nil.symm
    | succ left ih =>
      intro number state
      have hsent : (s.attempt sink feed now state).sent =
        s.publish (s.attempt sink feed now state).events now := sent_attempt
      rcases hreply : s.attempt sink feed now state with ⟨⟨e | o, state', log⟩, sent⟩
      · -- an attempt that failed has sent nothing, so all that is sent comes from the rest
        obtain rfl : sent = [] := by simpa only [hreply, PassReply.events, publish_nil] using hsent
        simp only [attemptsFrom, hreply]
        split
        · exact ih ..
        · exact publish_nil.symm
      · rw [hreply] at hsent
        simpa only [attemptsFrom, hreply] using hsent
  exact hattempts _ _ _

variable (s) in
/-- The settings with nothing published. -/
def unpublished : Settings := { s with emits := false }

theorem attempt_unpublished : s.unpublished.attempt sink feed now state =
    { s.attempt sink feed now state with sent := [] } := by
  have hplan : s.unpublished.plan = s.plan := rfl
  have hlog : s.unpublished.planLog = s.planLog := rfl
  have hname : s.unpublished.name = s.name := rfl
  have hsilent : ∀ events, s.unpublished.publish events now = [] := fun _ ↦ rfl
  simp only [attempt, hplan, hlog, hname, hsilent]
  split
  · rfl
  split
  · rfl
  split
  · rfl
  split
  · rfl
  · rfl

/-- **A pass does not notice whether its events are published**: but for what is sent, it does the
same. -/
theorem pass_unpublished : s.unpublished.pass sink feed now state =
    { s.pass sink feed now state with sent := [] } := by
  have hattempts : ∀ left number state,
      s.unpublished.attemptsFrom sink feed now left number state =
        { s.attemptsFrom sink feed now left number state with sent := [] } := by
    intro left
    induction left with
    | zero => exact fun _ _ ↦ rfl
    | succ left ih =>
      intro number state
      simp only [attemptsFrom, attempt_unpublished, ih]
      split
      · rfl
      split
      · rfl
      · rfl
  exact hattempts _ _ _

end Settings

end StatusRollup
