import StatusRollup.Proofs.Fixpoint
import StatusRollup.Proofs.Replay
import StatusRollup.Proofs.Retry

/-!
# A pass writes what can be seen to differ

The program compares the planned record with the stored one as a whole, after merging composites,
dropping categories and reconciling related objects. No two of these steps undo each other: a plan
is the record it starts from exactly when that record says what each composite says, holds no other
category and holds the wanted related objects as a set (`plan_eq_self_iff`). Three things follow.

* A plan that changes nothing tells of nothing (`events_eq_nil_of_plan_eq_self`), unless the record
  was never stored.
* Records that look alike are written or left alone alike (`Record.LooksLike`): the order of stored
  conditions, their times and the order and repetitions of related objects do not show.
* A pass over the store touches it exactly when the plan differs (`state_pass_eq_iff`). A conflict
  in front of the write touches the store too, so the number of conflicts held back does not matter.
-/

namespace StatusRollup

/-- What a stored condition says, its time apart. -/
def StoredCondition.said (x : StoredCondition) : Status × String × String :=
  (x.status, x.reason, x.message)

namespace Record

variable {r r' : Record} {c : Composite} {cs : List Composite} {now : Instant}

/-- Two records **look alike** when the first condition of each category says the same in both, and
they hold the same related objects. -/
structure LooksLike (r r' : Record) : Prop where
  /-- The first condition of each category says the same. -/
  conditions : ∀ k, (r.find k).map StoredCondition.said = (r'.find k).map StoredCondition.said
  /-- The related objects are the same, in any order and with any repetitions. -/
  related : ∀ ref, ref ∈ r.related ↔ ref ∈ r'.related

theorem LooksLike.symm (h : r.LooksLike r') : r'.LooksLike r :=
  ⟨fun k ↦ (h.conditions k).symm, fun ref ↦ (h.related ref).symm⟩

/-- A record shows a composite when the first condition of its category says what it says. -/
theorem shows_iff :
    (∃ x, r.find c.category = some x ∧
      x.status = c.status ∧ x.reason = c.reason ∧ x.message = c.message) ↔
      (r.find c.category).map StoredCondition.said = some c.said := by
  simp [StoredCondition.said, Composite.said]

/-- A category is stored when a condition of it is found. -/
theorem mem_category_iff {k : Category} :
    (∃ x ∈ r.conditions, x.category = k) ↔ ((r.find k).map StoredCondition.said).isSome := by
  rw [Option.isSome_map, Option.isSome_iff_ne_none, ne_eq, find_eq_none_iff]
  push Not
  rfl

/-- Of two records that look alike, both mirror some composites or neither does. -/
theorem Mirrors.of_looksLike (h : r.Mirrors cs) (hlike : r.LooksLike r') : r'.Mirrors cs where
  shows c hc := by
    rw [shows_iff, ← hlike.conditions]
    exact shows_iff.1 (h.shows c hc)
  reported x hx := by
    have hstored : ((r.find x.category).map StoredCondition.said).isSome := by
      rw [hlike.conditions]
      exact mem_category_iff.1 ⟨x, hx, rfl⟩
    obtain ⟨y, hy, hcategory⟩ := mem_category_iff.2 hstored
    obtain ⟨c, hc, hcy⟩ := h.reported y hy
    exact ⟨c, hc, hcy.trans hcategory⟩

/-- Merging what a record shows makes no change of status. The induction is on the composites, each
of which leaves the record as it is. -/
theorem transitions_eq_nil (h : ∀ c ∈ cs, ∃ x, r.find c.category = some x ∧
    x.status = c.status ∧ x.reason = c.reason ∧ x.message = c.message) :
    (setAll now cs r).2 = [] := by
  induction cs with
  | nil => rfl
  | cons c cs ih =>
    obtain ⟨x, hx, hstatus, hreason, hmessage⟩ := h c List.mem_cons_self
    have hnone : r.transition c = none := by
      rw [transition, hx]
      exact if_pos hstatus
    rw [setAll_cons, hnone, set_eq_self hx hstatus hreason hmessage]
    exact ih fun d hd ↦ h d (List.mem_cons_of_mem c hd)

end Record

/-- The aggregate depends on the conditions category by category, so their order between categories
does not show. -/
theorem aggregate_congr {policy : Policy} {now : Instant} {xs xs' : List Condition}
    (h : ∀ k, (xs.filter fun x ↦ classify x.type = some k) =
      xs'.filter fun x ↦ classify x.type = some k) :
    aggregate policy now xs = aggregate policy now xs' := by
  rw [aggregate, aggregate]
  refine List.filterMap_congr fun c _ ↦ ?_
  rw [Grouped.get_ofList, Grouped.get_ofList, h c]

namespace Settings

variable {s : Settings} {answer answer' : Option (List ObjectRef)} {xs xs' : List Condition}
  {r r' : Record} {now now' : Instant} {store : Store}

/-- A record that was stored and is its own plan gives no event. -/
theorem events_eq_nil_of_plan_eq_self (h : (s.plan answer xs r now).record = r)
    (hr : 1 ≤ r.version) : (s.plan answer xs r now).events = [] := by
  obtain ⟨hmirrors, -⟩ := plan_eq_self_iff.1 h
  have htransitions : s.transitions xs r now = [] := Record.transitions_eq_nil hmirrors.shows
  have hdropped : s.droppedCategories xs r now = [] := by
    rw [droppedCategories, Record.dropped, List.map_eq_nil_iff, List.filter_eq_nil_iff]
    intro x hx
    rw [Composite.reports_iff.2 (hmirrors.reported x hx)]
    exact Bool.false_ne_true
  have hsame : ObjectRef.sameSet r.related r.related = true :=
    ObjectRef.sameSet_iff.2 fun _ ↦ Iff.rfl
  have hold : r.version ≠ 0 := by
    intro hnew
    rw [hnew] at hr
    exact absurd hr (by decide)
  rw [events_plan, h, htransitions, hdropped, if_neg hold, if_pos hsame]
  rfl

/-- The wanted references are the same set for the same set of stored ones and for the same set of
supplied ones. -/
theorem mem_wanted_congr (hrelated : ∀ ref, ref ∈ r.related ↔ ref ∈ r'.related)
    (hanswer : Option.Rel (fun a b ↦ ∀ ref, ref ∈ a ↔ ref ∈ b) answer answer')
    (ref : ObjectRef) : ref ∈ s.wanted answer r ↔ ref ∈ s.wanted answer' r' := by
  cases hreg : s.registered with
  | false => rw [wanted_unregistered hreg, wanted_unregistered hreg]
  | true =>
    cases hanswer with
    | none => rw [wanted_none hreg, wanted_none hreg, List.mem_append, List.mem_append, hrelated]
    | some hrefs => rw [wanted_some hreg, wanted_some hreg, List.mem_append, List.mem_append, hrefs]

/-- **Only what can be seen counts.** Aggregates that say the same, records that look alike and
answers that name the same objects lead to a write in both cases or in neither. -/
theorem plan_eq_self_of_alike (h : (s.plan answer xs r now).record = r)
    (hagree : Composite.Agree (aggregate s.policy now xs) (aggregate s.policy now' xs'))
    (hlike : r.LooksLike r')
    (hanswer : Option.Rel (fun a b ↦ ∀ ref, ref ∈ a ↔ ref ∈ b) answer answer') :
    (s.plan answer' xs' r' now').record = r' := by
  obtain ⟨hmirrors, hwanted⟩ := plan_eq_self_iff.1 h
  refine plan_eq_self_iff.2 ⟨(hmirrors.of_agree hagree pairwise_aggregate
    pairwise_aggregate).of_looksLike hlike, fun ref ↦ ?_⟩
  rw [← hlike.related, hwanted, mem_wanted_congr hlike.related hanswer]

/-- **A pass leaves the store alone** exactly when the stored record is its own plan. Otherwise it
writes, or it gives up after each of its attempts has met a conflict and raised the version. -/
theorem state_pass_eq_iff (hr : store.records s.name = some r) :
    (s.pass Store.sink ⟨.ok xs, answer⟩ now store).state = store ↔
      (s.plan answer xs r now).record = r := by
  constructor
  · intro hstate
    by_contra hplan
    have hkept := congrArg (fun after ↦ (after.records s.name).map (·.version)) hstate
    rcases Nat.lt_or_ge store.pending s.attempts with hpending | hpending
    -- the write itself raises the version, whatever conflicts came before it
    · obtain ⟨log, hpass⟩ := pass_written hr hplan hpending
      rw [hpass] at hkept
      have hversion : some (r.raise (store.pending + 1)).version = some r.version := by
        rw [hr, Store.records_write_self (name_plan.trans (store.kept hr))] at hkept
        rw [Record.raise_succ]
        exact hkept
      have hsize : store.pending + 1 < UInt64.size := calc
        store.pending + 1 ≤ s.attempts := hpending
        _ < UInt32.size := s.attempts_lt
        _ < UInt64.size := by decide
      exact Record.version_raise_ne (Nat.succ_pos _) hsize (Option.some.inj hversion)
    -- every attempt met a conflict, and at least one attempt is made
    · obtain ⟨log, hpass⟩ := pass_exhausted hr hplan hpending
      rw [hpass] at hkept
      have hversion : some (r.raise s.attempts).version = some r.version := by
        rw [hr, Store.records_overtakeTimes_self hr] at hkept
        exact hkept
      have hsize : s.attempts < UInt64.size := Nat.lt_trans s.attempts_lt (by decide)
      exact Record.version_raise_ne s.attempts_pos hsize (Option.some.inj hversion)
  · intro hplan
    obtain ⟨log, hpass⟩ := pass_unchanged hr hplan
    rw [hpass]

/-- **A pass writes exactly when there is a visible difference.** The plan for a record is the
record itself if and only if the record's first condition of each reported category says what the
composite says, no other category is stored and the related objects are the reconciled ones as a
set; then the plan of a stored record has no events, and it is then that a pass over the store
leaves it alone. Nothing else counts: neither the times of composites nor those of stored
conditions, neither the order of stored conditions nor the order and repetitions of related objects,
and the order of source conditions of different categories does not even reach the aggregate. -/
theorem writes_iff_visible (s : Settings) (answer : Option (List ObjectRef)) (xs : List Condition)
    (base : Record) (now : Instant) :
    let composites := aggregate s.policy now xs
    let plan := s.plan answer xs base now
    (plan.record = base ↔
      (∀ c ∈ composites, ∃ x, base.find c.category = some x ∧
        x.status = c.status ∧ x.reason = c.reason ∧ x.message = c.message) ∧
      (∀ x ∈ base.conditions, ∃ c ∈ composites, c.category = x.category) ∧
      (∀ ref, ref ∈ base.related ↔ ref ∈ (s.supply answer).reconcile s.fixed base.related)) ∧
    (plan.record = base → 1 ≤ base.version → plan.events = []) ∧
    (∀ store : Store, store.records s.name = some base →
      ((s.pass Store.sink ⟨.ok xs, answer⟩ now store).state = store ↔ plan.record = base)) ∧
    (∀ answer' xs' base' now', Composite.Agree composites (aggregate s.policy now' xs') →
      base.LooksLike base' →
      Option.Rel (fun refs refs' ↦ ∀ ref, ref ∈ refs ↔ ref ∈ refs') answer answer' →
      ((s.plan answer' xs' base' now').record = base' ↔ plan.record = base)) ∧
    (∀ xs', (∀ k, (xs.filter fun x ↦ classify x.type = some k) =
        xs'.filter fun x ↦ classify x.type = some k) →
      s.plan answer xs' base now = plan) := by
  intro composites plan
  refine ⟨?_, events_eq_nil_of_plan_eq_self, fun store ↦ state_pass_eq_iff, ?_, ?_⟩
  · rw [plan_eq_self_iff, ← and_assoc]
    exact and_congr_left fun _ ↦ ⟨fun h ↦ ⟨h.shows, h.reported⟩, fun h ↦ ⟨h.1, h.2⟩⟩
  · intro answer' xs' base' now' hagree hlike hanswer
    constructor
    · intro h
      -- being alike is symmetric
      refine plan_eq_self_of_alike h hagree.symm hlike.symm ?_
      cases hanswer with
      | none => exact .none
      | some hrefs => exact .some fun ref ↦ (hrefs ref).symm
    · exact fun h ↦ plan_eq_self_of_alike h hagree hlike hanswer
  · intro xs' hxs
    show s.plan answer xs' base now = s.plan answer xs base now
    rw [Settings.plan, Settings.plan, aggregate_congr hxs]

/-- Two references in another order and one of them twice, categories out of order with one of them
twice, and other times: the record is left alone as the one that a pass would write itself is. -/
theorem writes_iff_visible_rearranged :
    let s := { Settings.ofPolicy "operator" .none with registered := true }
    let now : Instant := ⟨1, 0, 0, by decide⟩
    let since : Instant := ⟨0, 0, 0, by decide⟩
    let xs : List Condition := [⟨"DiskDegraded", .yes, now, "Full", "no space"⟩,
      ⟨"NodesAvailable", .yes, now, "", ""⟩]
    let a : ObjectRef := ⟨"", "nodes", "", "a"⟩
    let b : ObjectRef := ⟨"", "nodes", "", "b"⟩
    let sorted : Record := ⟨"operator", 7,
      [⟨.degraded, .yes, "Disk_Full", "DiskDegraded: no space", now⟩,
        ⟨.available, .yes, "AsExpected", "", now⟩], [a, b]⟩
    let rearranged : Record := ⟨"operator", 9,
      [⟨.available, .yes, "AsExpected", "", since⟩,
        ⟨.degraded, .yes, "Disk_Full", "DiskDegraded: no space", since⟩,
        ⟨.degraded, .unknown, "NoData", "", since⟩], [b, a, b]⟩
    (s.plan (some [a, b]) xs sorted now).record = sorted ∧
      (s.plan (some [b, b, a]) xs.reverse rearranged now).record = rearranged ∧
      (s.plan (some [b, b, a]) xs.reverse rearranged now).events = [] := by
  intro s now since xs a b sorted rearranged
  have hsorted : (s.plan (some [a, b]) xs sorted now).record = sorted := by decide
  obtain ⟨-, -, -, halike, -⟩ := writes_iff_visible s (some [a, b]) xs sorted now
  have hrearranged : (s.plan (some [b, b, a]) xs.reverse rearranged now).record = rearranged := by
    refine (halike (some [b, b, a]) xs.reverse rearranged now ?_ ⟨?_, ?_⟩ (.some ?_)).2 hsorted
    · intro k
      cases k <;> decide
    · intro k
      cases k <;> decide
    · exact fun ref ↦ ObjectRef.sameSet_iff.1 (by decide) ref
    · exact fun ref ↦ ObjectRef.sameSet_iff.1 (by decide) ref
  exact ⟨hsorted, hrearranged,
    (writes_iff_visible s (some [b, b, a]) xs.reverse rearranged now).2.1 hrearranged (by decide)⟩

end Settings

end StatusRollup
