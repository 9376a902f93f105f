import StatusRollup.Proofs.Unions

/-!
# Longer holds, and none

Policies set side by side over the same conditions. A hold decides one thing only, namely whether a
failing condition escalates yet; what an escalated composite lists does not depend on it. Hence the
two laws of this module.

* Under longer holds fewer conditions escalate (`escalating_subset`). So a failure is reported
  later, in the same words, and with a time that is not later, as fewer conditions date it
  (`composite?_of_holdFor_le`).
* Where nothing is held, a policy still differs from none in one point: without a policy doubts
  escalate too (`escalating_eq_none`, `mem_escalating_none_of_unknown`). So the two agree exactly on
  conditions without doubts (`composite?_of_holdFor_eq_zero`).

Policy and time reach a composite only through what escalates (`composite?_congr`), and with a
policy the composite is failing as soon as something does (`verdict_escalating_eq_failing_iff`).
-/

namespace StatusRollup

/-- The latest of fewer instants is not later. -/
theorem Instant.latest_le_of_subset {ts us : List Instant} {t u : Instant} (h : ts ⊆ us)
    (ht : latest ts = some t) (hu : latest us = some u) : t ≤ u :=
  (latest_eq_some_iff.1 hu).2 t (h (latest_eq_some_iff.1 ht).1)

namespace Policy

variable {p q : Policy} {now : Instant} {x : Condition}

/-- What outlasts a hold outlasts every hold that is not longer. -/
theorem outlasted_of_holdFor_le (h : p.holdFor x.type ≤ q.holdFor x.type)
    (hout : q.outlasted now x = true) : p.outlasted now x = true :=
  decide_eq_true (Nat.le_trans h (of_decide_eq_true hout))

theorem holdFor_none (type : String) : none.holdFor type = .zero := rfl

end Policy

namespace Category

variable {k : Category} {p q : Policy} {policy policy' : Option Policy} {now now' : Instant}
  {xs : List Condition} {s : Status}

/-! ### What escalates decides -/

/-- A definite status that is not healthy is failing. -/
theorem eq_failing_iff (h : s ≠ .unknown) : s = k.failing ↔ s ≠ k.healthy := by
  revert h
  cases k <;> cases s <;> decide

/-- Policy and time reach a composite only through what escalates. -/
theorem composite?_congr (h : k.escalating policy now xs = k.escalating policy' now' xs) :
    k.composite? policy now xs = k.composite? policy' now' xs := by
  simp only [composite?, h]

/-- With a policy a composite is failing as soon as something escalates. -/
theorem verdict_escalating_eq_failing_iff :
    k.verdict (k.escalating (some p) now xs) = k.failing ↔
      k.escalating (some p) now xs ≠ [] := by
  rw [eq_failing_iff verdict_escalating_ne_unknown, ne_eq, verdict_eq_healthy_iff]

/-! ### Which conditions escalate -/

/-- **Under longer holds fewer conditions escalate.** -/
theorem escalating_subset (h : ∀ x ∈ xs, p.holdFor x.type ≤ q.holdFor x.type) :
    k.escalating (some q) now xs ⊆ k.escalating (some p) now xs := by
  intro x hx
  obtain ⟨hmem, hfailing, hout⟩ := mem_escalating_iff.1 hx
  exact mem_escalating_iff.2 ⟨hmem, hfailing, Policy.outlasted_of_holdFor_le (h x hmem) hout⟩

/-- Where nothing is held, every failure escalates, at any time. -/
theorem escalating_ne_nil_iff (h : ∀ x ∈ xs, p.holdFor x.type = .zero) :
    k.escalating (some p) now xs ≠ [] ↔ ∃ x ∈ xs, x.status = k.failing := by
  constructor
  · intro hne
    obtain ⟨x, hx⟩ := List.exists_mem_of_ne_nil _ hne
    obtain ⟨hmem, hfailing, -⟩ := mem_escalating_iff.1 hx
    exact ⟨x, hmem, hfailing⟩
  · rintro ⟨x, hmem, hfailing⟩
    have hout : p.outlasted now x = true := Policy.outlasted_iff.2 (.inl (h x hmem))
    exact List.ne_nil_of_mem (mem_escalating_iff.2 ⟨hmem, hfailing, hout⟩)

/-- **Where nothing is held and nothing is in doubt, a policy makes no difference.** -/
theorem escalating_eq_none (h : ∀ x ∈ xs, p.holdFor x.type = .zero)
    (hdefinite : ∀ x ∈ xs, x.status ≠ .unknown) :
    k.escalating (some p) now xs = k.escalating none now xs := by
  refine List.filter_eq_self.2 fun x hx ↦ ?_
  obtain ⟨hmem, hne⟩ := List.mem_filter.1 hx
  have hfailing : x.status = k.failing :=
    (eq_failing_iff (hdefinite x hmem)).2 (of_decide_eq_true hne)
  have hout : p.outlasted now x = true := Policy.outlasted_iff.2 (.inl (h x hmem))
  rw [hout, Bool.and_true, decide_eq_true hfailing]

/-- Without a policy doubts escalate. -/
theorem mem_escalating_none_of_unknown {x : Condition} (hx : x ∈ xs)
    (hunknown : x.status = .unknown) : x ∈ k.escalating none now xs := by
  refine List.mem_filter.2 ⟨hx, decide_eq_true ?_⟩
  rw [hunknown]
  cases k <;> decide

end Category

namespace Composite

open Category

variable {k : Category} {p q : Policy} {now : Instant} {xs escalating more : List Condition}
  {a b c : Composite}

theorem SumsUp.status_eq_failing_iff (h : c.SumsUp k xs (k.escalating (some p) now xs)) :
    c.status = k.failing ↔ k.escalating (some p) now xs ≠ [] := by
  rw [h.status, verdict_escalating_eq_failing_iff]

/-- Which conditions escalate does not matter to the words, as long as some do. -/
theorem SumsUp.words_congr (ha : a.SumsUp k xs escalating) (hb : b.SumsUp k xs more)
    (hescalating : escalating ≠ []) (hmore : more ≠ []) :
    a.reason = b.reason ∧ a.message = b.message := by
  rw [ha.reason hescalating, hb.reason hmore, ha.message, hb.message, if_neg hescalating,
    if_neg hmore]
  exact ⟨rfl, rfl⟩

/-- A composite of a category **delays** another one: what it reports, the other one reports too. -/
structure Delays (k : Category) (a b : Composite) : Prop where
  /-- A failure that the first reports is one that the second reports too. -/
  failing : a.status = k.failing → b.status = k.failing
  /-- A failure that both report is the same in all but its time. -/
  alike : a.status = k.failing → b.status = k.failing → a = { b with since := a.since }
  /-- Its time is then not later in the first. -/
  since : a.status = k.failing → b.status = k.failing →
    ∃ t u, a.since = some t ∧ b.since = some u ∧ t ≤ u
  /-- As long as neither reports a failure, the two are the same. -/
  rests : a.status ≠ k.failing → b.status ≠ k.failing → a = b

/-- **The composite of which fewer conditions escalate delays the other one.** -/
theorem delays_of_subset (hxs : xs ≠ [])
    (hsub : k.escalating (some q) now xs ⊆ k.escalating (some p) now xs)
    (ha : k.composite? (some q) now xs = some a) (hb : k.composite? (some p) now xs = some b) :
    Delays k a b := by
  have hasum := sumsUp_of_composite? hxs ha
  have hbsum := sumsUp_of_composite? hxs hb
  refine ⟨?_, ?_, ?_, ?_⟩
  · rw [hasum.status_eq_failing_iff, hbsum.status_eq_failing_iff]
    exact fun hne hnil ↦ hne (List.subset_nil.1 (hnil ▸ hsub))
  · intro hfails hfails'
    obtain ⟨hreason, hmessage⟩ := hasum.words_congr hbsum (hasum.status_eq_failing_iff.1 hfails)
      (hbsum.status_eq_failing_iff.1 hfails')
    rw [← hreason, ← hmessage, hfails', ← hfails, hbsum.category, ← hasum.category]
  · intro hfails hfails'
    have hne := hasum.status_eq_failing_iff.1 hfails
    have hne' := hbsum.status_eq_failing_iff.1 hfails'
    obtain ⟨t, ht⟩ := exists_latest_since hne
    obtain ⟨u, hu⟩ := exists_latest_since hne'
    refine ⟨t, u, ?_, ?_, Instant.latest_le_of_subset (List.map_subset _ hsub) ht hu⟩
    · rw [hasum.since, if_neg hne, ht]
    · rw [hbsum.since, if_neg hne', hu]
  · rw [ne_eq, ne_eq, hasum.status_eq_failing_iff, hbsum.status_eq_failing_iff,
      Decidable.not_not, Decidable.not_not]
    intro hnil hnil'
    refine Option.some.inj (ha.symm.trans (.trans (composite?_congr ?_) hb))
    rw [hnil, hnil']

end Composite

open Composite in
/-- **Longer holds only delay.** Of two policies over the same conditions at the same time, one of
which holds no condition shorter than the other one does: a failure that is reported under the
longer holds is reported under the shorter ones too, the same in all but its time, and that is not
later under the longer holds; and as long as no failure is reported under either, the composites are
the same. So the words of a failure do not depend on the holds at all, nor on the time. -/
theorem Category.composite?_of_holdFor_le (k : Category) (now : Instant) (xs : List Condition)
    (hxs : xs ≠ []) :
    (∀ p q : Policy, (∀ x ∈ xs, p.holdFor x.type ≤ q.holdFor x.type) →
      ∃ a b, k.composite? (some q) now xs = some a ∧ k.composite? (some p) now xs = some b ∧
        Delays k a b) ∧
    ∀ (p q : Policy) (now' : Instant) (a b : Composite),
      k.composite? (some q) now' xs = some a → k.composite? (some p) now xs = some b →
        a.status = k.failing → b.status = k.failing →
          a.reason = b.reason ∧ a.message = b.message := by
  refine ⟨fun p q h ↦ ?_, fun p q now' a b ha hb hfails hfails' ↦ ?_⟩
  · obtain ⟨a, ha, -⟩ := exists_sumsUp k (some q) now hxs
    obtain ⟨b, hb, -⟩ := exists_sumsUp k (some p) now hxs
    exact ⟨a, b, ha, hb, delays_of_subset hxs (escalating_subset h) ha hb⟩
  · have hasum := sumsUp_of_composite? hxs ha
    have hbsum := sumsUp_of_composite? hxs hb
    exact hasum.words_congr hbsum (hasum.status_eq_failing_iff.1 hfails)
      (hbsum.status_eq_failing_iff.1 hfails')

/-- A network and a disk that fail, and a doubt about a tape. With two minutes for the disk and ten
for the network the disk alone is reported. With a minute for each the network dates the failure,
which is told in the same words. With an hour for each there is nothing to report, as with a day. -/
theorem Category.composite?_of_holdFor_le_network :
    let net : Condition := ⟨"NetDegraded", .yes, ⟨19783, 43080, 0, by decide⟩, "", "down"⟩
    let tape : Condition := ⟨"TapeDegraded", .unknown, ⟨19783, 43190, 0, by decide⟩, "", ""⟩
    let disk : Condition := ⟨"DiskDegraded", .yes, ⟨19783, 43000, 0, by decide⟩, "Full", ""⟩
    let now : Instant := ⟨19783, 43200, 0, by decide⟩
    let long : Policy :=
      ⟨.ofSeconds 120, [.exact "NetDegraded" (.ofSeconds 600), .exact "NetDegraded" .zero]⟩
    let comesTo := fun p : Policy ↦
      Category.degraded.composite? (some p) now [net, tape, disk]
    (∃ a b, comesTo long = some a ∧ comesTo ⟨.ofSeconds 60, []⟩ = some b ∧
      b.status = .yes ∧ b.reason = "Net::Tape::Disk_Full" ∧ a.since = some disk.since ∧
      ∃ u, b.since = some u ∧ disk.since ≤ u) ∧
    comesTo ⟨.ofSeconds 86400, []⟩ = comesTo ⟨.ofSeconds 3600, []⟩ := by
  intro net tape disk now long comesTo
  obtain ⟨hdelays, -⟩ :=
    Category.composite?_of_holdFor_le .degraded now [net, tape, disk] (by decide)
  constructor
  · obtain ⟨a, b, ha, hb, hab⟩ := hdelays ⟨.ofSeconds 60, []⟩ long (by decide)
    obtain rfl : a = ⟨.degraded, .yes, "Net::Tape::Disk_Full", "NetDegraded: down",
        some disk.since⟩ :=
      Option.some.inj (ha.symm.trans (by decide))
    have hyes : b.status = .yes := hab.failing rfl
    have hreason := congrArg Composite.reason (hab.alike rfl hyes)
    obtain ⟨t, u, ht, hu, htu⟩ := hab.since rfl hyes
    obtain rfl := Option.some.inj ht
    exact ⟨_, b, ha, hb, hyes, hreason.symm, rfl, u, hu, htu⟩
  · obtain ⟨a, b, ha, hb, hab⟩ := hdelays ⟨.ofSeconds 3600, []⟩ ⟨.ofSeconds 86400, []⟩ (by decide)
    have hquiet : (comesTo ⟨.ofSeconds 86400, []⟩).map Composite.status = some .no := by decide
    have hquiet' : (comesTo ⟨.ofSeconds 3600, []⟩).map Composite.status = some .no := by decide
    rw [show comesTo _ = some a from ha] at hquiet ⊢
    rw [show comesTo _ = some b from hb] at hquiet' ⊢
    refine congrArg some (hab.rests ?_ ?_)
    · rw [Option.some.inj hquiet]
      decide
    · rw [Option.some.inj hquiet']
      decide

/-- **No hold is no policy, doubts apart.** Where a policy holds none of the conditions, as the
policy without any hold does, it agrees with no policy exactly if no condition is in doubt, whenever
the conditions are stamped. In any case the composite is then failing if a condition is, and healthy
otherwise. -/
theorem Category.composite?_of_holdFor_eq_zero (k : Category) (now : Instant)
    (xs : List Condition) :
    (∀ x ∈ xs, Policy.none.holdFor x.type = .zero) ∧
    ∀ p : Policy, (∀ x ∈ xs, p.holdFor x.type = .zero) →
      (k.composite? (some p) now xs = k.composite? none now xs ↔
        ∀ x ∈ xs, x.status ≠ .unknown) ∧
      (xs ≠ [] → ∃ c, k.composite? (some p) now xs = some c ∧
        (c.status = k.failing ↔ ∃ x ∈ xs, x.status = k.failing) ∧
        (c.status = k.healthy ↔ ¬∃ x ∈ xs, x.status = k.failing)) := by
  refine ⟨fun x _ ↦ Policy.holdFor_none x.type, fun p h ↦ ⟨⟨fun heq x hx hunknown ↦ ?_,
    fun hdefinite ↦ composite?_congr (escalating_eq_none h hdefinite)⟩, fun hxs ↦ ?_⟩⟩
  · -- a doubt makes the composite unknown without a policy, and with one it never is
    have hxs : xs ≠ [] := List.ne_nil_of_mem hx
    obtain ⟨c, hc, hsum⟩ := Composite.exists_sumsUp k (some p) now hxs
    have hsum' := Composite.sumsUp_of_composite? hxs (heq ▸ hc)
    refine verdict_escalating_ne_unknown (hsum.status.symm.trans (hsum'.status.trans ?_))
    exact verdict_eq_unknown_iff.2 ⟨x, mem_escalating_none_of_unknown hx hunknown, hunknown⟩
  · obtain ⟨c, hc, hsum⟩ := Composite.exists_sumsUp k (some p) now hxs
    refine ⟨c, hc, ?_, ?_⟩
    · rw [hsum.status_eq_failing_iff, escalating_ne_nil_iff h]
    · rw [hsum.status, verdict_eq_healthy_iff, ← escalating_ne_nil_iff h, ne_eq, Decidable.not_not]

/-- A failure stamped in a leap second that is still to come. Under a rule that does not hold it the
composite is the one without a policy; with a doubt about a tape it is failing under the rule and
unknown without a policy. -/
theorem Category.composite?_of_holdFor_eq_zero_ahead :
    let disk : Condition := ⟨"DiskDegraded", .yes, ⟨19783, 43259, 1500000000, by decide⟩, "", ""⟩
    let tape : Condition := ⟨"TapeDegraded", .unknown, ⟨0, 0, 0, by decide⟩, "", ""⟩
    let now : Instant := ⟨19783, 43200, 0, by decide⟩
    let policy : Policy := ⟨.ofSeconds 60, [.exact "DiskDegraded" .zero]⟩
    Category.degraded.composite? (some policy) now [disk] =
        Category.degraded.composite? none now [disk] ∧
      (∃ c, Category.degraded.composite? (some .none) now [disk, tape] = some c ∧
        c.status = .yes) ∧
      Category.degraded.composite? (some .none) now [disk, tape] ≠
        Category.degraded.composite? none now [disk, tape] := by
  intro disk tape now policy
  obtain ⟨-, halone⟩ := Category.composite?_of_holdFor_eq_zero .degraded now [disk]
  obtain ⟨hnone, hboth⟩ := Category.composite?_of_holdFor_eq_zero .degraded now [disk, tape]
  obtain ⟨hiff, hstatus⟩ := hboth .none hnone
  obtain ⟨c, hc, hfails, -⟩ := hstatus (by decide)
  refine ⟨(halone policy (by decide)).1.2 (by decide), ⟨c, hc, ?_⟩, fun heq ↦ ?_⟩
  · exact hfails.2 ⟨disk, List.mem_cons_self, rfl⟩
  · exact hiff.1 heq tape (by decide) rfl

end StatusRollup
