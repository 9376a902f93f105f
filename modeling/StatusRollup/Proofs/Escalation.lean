import Mathlib.Order.Bounds.Defs
import StatusRollup.Proofs.Composites
import StatusRollup.Proofs.Elapsed

/-!
# Escalation

When the degraded composite reports a failure, what it then says, and what becomes of it as time
passes.

A degraded condition escalates when it reports a failure and has outlasted its hold
(`Condition.Escalates`). Two sets of conditions go into an escalated composite, and they differ: the
escalating ones alone date it, while its reason and message list every degraded condition that is
not healthy, also those held back (`Composite.IsEscalation`).

* `exists_degraded` — there is always one degraded composite; it reports a failure exactly when some
  condition escalates, and then it is an escalation of those that do. Nothing after it looks into
  the aggregate.
* `degraded_threshold` — outside leap seconds a condition escalates by plain arithmetic on
  nanoseconds (`Condition.Due`).
* `degraded_persists` — an escalation stays as time passes, as long as no leap second comes between;
  `degraded_lapses` is what happens if one does.
-/

namespace StatusRollup

namespace Category

variable {k : Category} {policy : Option Policy} {now : Instant} {xs : List Condition}

/-! ### What a category comes to -/

/-- With a policy the failing conditions that have outlasted their hold escalate, and no others. -/
theorem mem_escalating_iff {p : Policy} {x : Condition} :
    x ∈ k.escalating (some p) now xs ↔
      x ∈ xs ∧ x.status = k.failing ∧ p.outlasted now x = true := by
  simp only [escalating, nonHealthy, List.mem_filter, Bool.and_eq_true, decide_eq_true_eq]
  constructor
  · rintro ⟨⟨hx, -⟩, hescalates⟩
    exact ⟨hx, hescalates⟩
  · rintro ⟨hx, hfailing, hout⟩
    exact ⟨⟨hx, fun h ↦ k.failing_ne_healthy (hfailing.symm.trans h)⟩, hfailing, hout⟩

/-- What escalates is some of the conditions, with a policy and without one. -/
theorem mem_of_mem_escalating {x : Condition} (h : x ∈ k.escalating policy now xs) : x ∈ xs := by
  cases policy with
  | none => exact (List.mem_filter.1 h).1
  | some p => exact (mem_escalating_iff.1 h).1

theorem escalating_nil : k.escalating policy now [] = [] := by
  cases policy <;> rfl

theorem composite?_of_escalating_eq_nil (hxs : xs ≠ []) (h : k.escalating policy now xs = []) :
    k.composite? policy now xs = some (k.healthyComposite xs) := by
  have hempty : xs.isEmpty = false := by simpa using hxs
  simp only [composite?, hempty, h, List.isEmpty_nil, Bool.false_eq_true, if_false, if_true]

theorem composite?_of_escalating_ne_nil (h : k.escalating policy now xs ≠ []) :
    k.composite? policy now xs =
      some (k.escalatedComposite xs (k.escalating policy now xs)) := by
  have hxs : xs ≠ [] := by
    rintro rfl
    exact h escalating_nil
  have hempty : xs.isEmpty = false := by simpa using hxs
  have hescalating : (k.escalating policy now xs).isEmpty = false := by simpa using h
  simp only [composite?, hempty, hescalating, Bool.false_eq_true, if_false]

/-- With a policy an escalated composite is failing, never unknown. -/
theorem status_escalatedComposite {p : Policy} :
    (k.escalatedComposite xs (k.escalating (some p) now xs)).status = k.failing := by
  refine if_neg fun h ↦ ?_
  obtain ⟨x, hx, hunknown⟩ := List.any_eq_true.1 h
  obtain ⟨-, hfailing, -⟩ := mem_escalating_iff.1 hx
  rw [decide_eq_true_eq, hfailing] at hunknown
  cases k <;> exact absurd hunknown (by decide)

end Category

/-! ### The degraded composite -/

/-- A condition **escalates**: it is a degraded one, reports a failure and has outlasted its
hold. -/
def Condition.Escalates (policy : Policy) (now : Instant) (x : Condition) : Prop :=
  classify x.type = some .degraded ∧ x.status = .yes ∧ policy.outlasted now x = true

/-- The composite is an escalation of some of the conditions: it lists every degraded condition that
is not healthy, in their order, and carries the latest time of those that escalate. -/
structure Composite.IsEscalation (c : Composite) (xs : List Condition)
    (escalates : Condition → Prop) : Prop where
  /-- The reason lists the degraded conditions that are not healthy. -/
  reason : c.reason = joinReasons .degraded
    (xs.filter fun x ↦ classify x.type = some .degraded ∧ x.status ≠ .no)
  /-- So does the message. -/
  message : c.message = joinMessages
    (xs.filter fun x ↦ classify x.type = some .degraded ∧ x.status ≠ .no)
  /-- The time is the latest among those that escalate. -/
  since : ∃ t, c.since = some t ∧ IsGreatest {t | ∃ x ∈ xs, escalates x ∧ x.since = t} t

variable {policy : Policy} {now now' : Instant} {xs : List Condition}

theorem nonHealthy_get_degraded :
    Category.degraded.nonHealthy ((Grouped.ofList xs).get .degraded) =
      xs.filter fun x ↦ classify x.type = some .degraded ∧ x.status ≠ .no := by
  rw [Grouped.get_ofList, Category.nonHealthy, List.filter_filter]
  refine List.filter_congr fun x _ ↦ ?_
  rw [Bool.and_comm, Bool.decide_and]
  rfl

theorem mem_escalating_degraded_iff {x : Condition} :
    x ∈ Category.degraded.escalating (some policy) now ((Grouped.ofList xs).get .degraded) ↔
      x ∈ xs ∧ x.Escalates policy now := by
  rw [Category.mem_escalating_iff, Grouped.get_ofList, List.mem_filter, decide_eq_true_eq]
  exact and_assoc

theorem lookup_degraded :
    Composite.lookup (aggregate policy now xs) .degraded =
      Category.degraded.composite? (some policy) now ((Grouped.ofList xs).get .degraded) :=
  lookup_aggregate

/-- Nothing escalates: the composite is healthy, or has no conditions at all. -/
theorem exists_degraded_of_not (h : ¬∃ x ∈ xs, x.Escalates policy now) :
    ∃ c, Composite.lookup (aggregate policy now xs) .degraded = some c ∧ c.status ≠ .yes := by
  rw [lookup_degraded]
  have hnone :
      Category.degraded.escalating (some policy) now ((Grouped.ofList xs).get .degraded) = [] :=
    List.eq_nil_iff_forall_not_mem.2 fun x hx ↦ h ⟨x, mem_escalating_degraded_iff.1 hx⟩
  by_cases hempty : (Grouped.ofList xs).get .degraded = []
  · rw [hempty]
    exact ⟨_, rfl, nofun⟩
  · exact ⟨_, Category.composite?_of_escalating_eq_nil hempty hnone, nofun⟩

/-- Something escalates: the composite is an escalation of all that does. -/
theorem exists_escalation (h : ∃ x ∈ xs, x.Escalates policy now) :
    ∃ c, Composite.lookup (aggregate policy now xs) .degraded = some c ∧ c.status = .yes ∧
      c.IsEscalation xs (Condition.Escalates policy now) := by
  rw [lookup_degraded]
  obtain ⟨x, hx⟩ := h
  have hne :
      Category.degraded.escalating (some policy) now ((Grouped.ofList xs).get .degraded) ≠ [] :=
    List.ne_nil_of_mem (mem_escalating_degraded_iff.2 hx)
  refine ⟨_, Category.composite?_of_escalating_ne_nil hne, Category.status_escalatedComposite,
    congrArg (Composite.joinReasons .degraded) nonHealthy_get_degraded,
    congrArg Composite.joinMessages nonHealthy_get_degraded, ?_⟩
  obtain ⟨t, ht⟩ := Instant.exists_latest (mt List.map_eq_nil_iff.1 hne)
  obtain ⟨hmem, hlatest⟩ := Instant.latest_eq_some_iff.1 ht
  refine ⟨t, ht, ?_, ?_⟩
  · obtain ⟨y, hy, rfl⟩ := List.mem_map.1 hmem
    obtain ⟨hyxs, hescalates⟩ := mem_escalating_degraded_iff.1 hy
    exact ⟨y, hyxs, hescalates, rfl⟩
  · rintro _ ⟨y, hyxs, hescalates, rfl⟩
    exact hlatest _ (List.mem_map_of_mem (mem_escalating_degraded_iff.2 ⟨hyxs, hescalates⟩))

/-- **The degraded composite**: there is one, it reports a failure exactly when some condition
escalates, and then it is an escalation of those that do. -/
theorem exists_degraded (policy : Policy) (now : Instant) (xs : List Condition) :
    ∃ c, Composite.lookup (aggregate policy now xs) .degraded = some c ∧
      (c.status = .yes ↔ ∃ x ∈ xs, x.Escalates policy now) ∧
      (c.status = .yes → c.IsEscalation xs (Condition.Escalates policy now)) := by
  by_cases h : ∃ x ∈ xs, x.Escalates policy now
  · obtain ⟨c, hc, hstatus, hescalation⟩ := exists_escalation h
    exact ⟨c, hc, iff_of_true hstatus h, fun _ ↦ hescalation⟩
  · obtain ⟨c, hc, hstatus⟩ := exists_degraded_of_not h
    exact ⟨c, hc, iff_of_false hstatus h, fun hyes ↦ absurd hyes hstatus⟩

/-! ### The threshold -/

/-- A condition is **due**: it is a degraded one, reports a failure, and either has no hold or was
stamped at least that many nanoseconds before now. -/
def Condition.Due (policy : Policy) (now : Instant) (x : Condition) : Prop :=
  classify x.type = some .degraded ∧ x.status = .yes ∧
    (policy.holdFor x.type = .zero ∨
      (policy.holdFor x.type).nanos ≤ now.epochNanos - x.since.epochNanos)

instance (policy : Policy) (now : Instant) (x : Condition) : Decidable (x.Due policy now) :=
  inferInstanceAs (Decidable (_ ∧ _ ∧ (_ ∨ _)))

theorem escalates_iff_due {x : Condition} (hnow : ¬now.IsLeap) (hx : ¬x.since.IsLeap) :
    x.Escalates policy now ↔ x.Due policy now := by
  rw [Condition.Escalates, Condition.Due, Policy.outlasted_iff,
    Instant.nanosBetween_of_not_isLeap hx hnow]

/-- An escalation of some conditions is one of any others that are the same among these. -/
theorem Composite.IsEscalation.congr {c : Composite} {P Q : Condition → Prop}
    (h : c.IsEscalation xs P) (hPQ : ∀ x ∈ xs, P x ↔ Q x) : c.IsEscalation xs Q where
  reason := h.reason
  message := h.message
  since := by
    obtain ⟨t, ht, hgreatest⟩ := h.since
    have hset : {t | ∃ x ∈ xs, P x ∧ x.since = t} = {t | ∃ x ∈ xs, Q x ∧ x.since = t} := by
      ext t
      exact exists_congr fun x ↦ and_congr_right fun hx ↦ and_congr_left fun _ ↦ hPQ x hx
    exact ⟨t, ht, hset ▸ hgreatest⟩

theorem Condition.Escalates.of_le {x : Condition} (h : now ≤ now')
    (hleap : now.epochNanos + nanosPerSecond ≤ now'.epochNanos ∨
      ¬now.IsLeap ∧ ¬now'.IsLeap ∧ ¬x.since.IsLeap)
    (hx : x.Escalates policy now) : x.Escalates policy now' :=
  ⟨hx.1, hx.2.1, Policy.outlasted_of_le h hleap hx.2.2⟩

/-- **An escalation persists.** From one instant to a later one, if neither of them nor the time of
a condition that escalates lies in a leap second, or if a whole second passes between them wherever
leap seconds lie: a degraded composite that reports a failure still does, with the same reason and
message and a time that is not earlier. -/
theorem degraded_persists (policy : Policy) (now now' : Instant) (xs : List Condition)
    (h : now ≤ now')
    (hleap : now.epochNanos + nanosPerSecond ≤ now'.epochNanos ∨
      ¬now.IsLeap ∧ ¬now'.IsLeap ∧ ∀ x ∈ xs, x.Escalates policy now → ¬x.since.IsLeap)
    (c : Composite) (hc : Composite.lookup (aggregate policy now xs) .degraded = some c)
    (hyes : c.status = .yes) :
    ∃ c', Composite.lookup (aggregate policy now' xs) .degraded = some c' ∧ c'.status = .yes ∧
      c'.reason = c.reason ∧ c'.message = c.message ∧
      ∃ t t', c.since = some t ∧ c'.since = some t' ∧ t ≤ t' := by
  obtain ⟨d, hd, hstatus, hescalation⟩ := exists_degraded policy now xs
  obtain rfl := Option.some.inj (hc.symm.trans hd)
  have hstay : ∀ x ∈ xs, x.Escalates policy now → x.Escalates policy now' := by
    intro x hx hescalates
    refine hescalates.of_le h ?_
    rcases hleap with hfar | ⟨hnow, hnow', hxs⟩
    · exact .inl hfar
    · exact .inr ⟨hnow, hnow', hxs x hx hescalates⟩
  obtain ⟨x, hx, hescalates⟩ := hstatus.1 hyes
  obtain ⟨c', hc', hyes', hescalation'⟩ := exists_escalation ⟨x, hx, hstay x hx hescalates⟩
  obtain ⟨hreason, hmessage, t, ht, ⟨y, hy, hydue, rfl⟩, -⟩ := hescalation hyes
  obtain ⟨hreason', hmessage', t', ht', -, hlatest'⟩ := hescalation'
  -- what dated the composite before still escalates, so it is not later than what dates it now
  exact ⟨c', hc', hyes', hreason'.trans hreason.symm, hmessage'.trans hmessage.symm, y.since, t', ht,
    ht', hlatest' ⟨y, hy, hstay y hy hydue, rfl⟩⟩

/-- Into a leap second and out of it again: a hold of a minute is reached half a second into the
leap second, and the failure is still reported one second further on the scale. -/
theorem degraded_persists_after_leap :
    let policy : Policy := ⟨.ofSeconds 60, []⟩
    let now : Instant := ⟨19783, 43259, 1500000000, by decide⟩
    let now' : Instant := ⟨19783, 43261, 500000000, by decide⟩
    let xs : List Condition := [⟨"DiskDegraded", .yes, ⟨19783, 43200, 500000000, by decide⟩, "", ""⟩]
    now.IsLeap ∧ ∃ c', Composite.lookup (aggregate policy now' xs) .degraded = some c' ∧
      c'.status = .yes ∧ c'.reason = "Disk" := by
  intro policy now now' xs
  obtain ⟨c', hc', hyes', hreason', -⟩ := degraded_persists policy now now' xs (by decide)
    (.inl (by decide)) ⟨.degraded, .yes, "Disk", "", some ⟨19783, 43200, 500000000, by decide⟩⟩
    (by decide) rfl
  exact ⟨by decide, c', hc', hyes', hreason'⟩

/-- **An escalation may lapse behind a leap second.** The same failure, looked at as soon as the
leap second is over: half a second less has elapsed than half a second into it, the hold of a minute
is no longer reached, and the composite is healthy again. -/
theorem degraded_lapses :
    let policy : Policy := ⟨.ofSeconds 60, []⟩
    let now : Instant := ⟨19783, 43259, 1500000000, by decide⟩
    let now' : Instant := ⟨19783, 43260, 0, by decide⟩
    let xs : List Condition := [⟨"DiskDegraded", .yes, ⟨19783, 43200, 500000000, by decide⟩, "", ""⟩]
    now ≤ now' ∧
      (Composite.lookup (aggregate policy now xs) .degraded).map (·.status) = some .yes ∧
      (Composite.lookup (aggregate policy now' xs) .degraded).map (·.status) = some .no := by
  decide

end StatusRollup
