import StatusRollup.Proofs.Retry

/-!
# A pass that succeeds leaves a mirror of the aggregate

However a pass comes to its outcome (a record created, a record replaced after any number of
overtaken attempts, or nothing written at all), what is stored afterwards is the record of the
outcome, and that record is the one planned for what was stored before, at some version
(`stored_of_pass`). So everything known of planned records holds of stored ones. A record left alone
is no exception, because a pass leaves it alone only if the plan is that very record.
-/

namespace StatusRollup

namespace Settings

variable {s : Settings} {answer : Option (List ObjectRef)} {xs : List Condition} {now : Instant}
  {store : Store} {o : Outcome}

/-- **What a pass reports is stored and was planned.** -/
theorem stored_of_pass (h : (s.pass Store.sink ⟨.ok xs, answer⟩ now store).result = .ok o) :
    (s.pass Store.sink ⟨.ok xs, answer⟩ now store).state.records s.name = some o.record ∧
      ∃ version, o.record =
        { (s.plan answer xs ((store.records s.name).getD (.empty s.name)) now).record with
          version } := by
  rcases hr : store.records s.name with - | r
  · obtain ⟨log, hpass⟩ := pass_absent answer xs now hr
    rw [hpass] at h ⊢
    obtain rfl := Except.ok.inj h
    exact ⟨Store.records_write_self name_plan, 1, rfl⟩
  · by_cases hplan : (s.plan answer xs r now).record = r
    · obtain ⟨log, hpass⟩ := pass_unchanged hr hplan
      rw [hpass] at h ⊢
      obtain rfl := Except.ok.inj h
      refine ⟨hr, r.version, ?_⟩
      rw [Option.getD_some, hplan]
      rfl
    · rcases Nat.lt_or_ge store.pending s.attempts with hpending | hpending
      · obtain ⟨log, hpass⟩ := pass_written hr hplan hpending
        rw [hpass] at h ⊢
        obtain rfl := Except.ok.inj h
        exact ⟨Store.records_write_self (name_plan.trans (store.kept hr)), _, rfl⟩
      · -- a pass that gives up does not succeed
        obtain ⟨log, hpass⟩ := pass_exhausted hr hplan hpending
        rw [hpass] at h
        exact absurd h nofun

/-- **A pass that succeeds mirrors the aggregate.** Whatever was stored before, unsorted conditions
and repeated categories included, and whatever conflicts were held back: the record of the outcome
is the stored one, it shows each composite's status, reason and message and holds no other category,
and its related objects are the reconciled ones. -/
theorem pass_mirrors_aggregate (s : Settings) (answer : Option (List ObjectRef))
    (xs : List Condition) (now : Instant) (store : Store) (o : Outcome)
    (h : (s.pass Store.sink ⟨.ok xs, answer⟩ now store).result = .ok o) :
    let before := ((store.records s.name).map (·.related)).getD []
    (s.pass Store.sink ⟨.ok xs, answer⟩ now store).state.records s.name = some o.record ∧
      o.record.Mirrors (aggregate s.policy now xs) ∧
      ∀ ref, ref ∈ o.record.related ↔ ref ∈ (s.supply answer).reconcile s.fixed before := by
  intro before
  obtain ⟨hstored, version, hrecord⟩ := stored_of_pass h
  set base := (store.records s.name).getD (.empty s.name) with hbase
  have hmirrors : (s.plan answer xs base now).record.Mirrors (aggregate s.policy now xs) :=
    mirrors_plan
  have hbefore : base.related = before := by
    show ((store.records s.name).getD _).related = ((store.records s.name).map _).getD []
    cases store.records s.name <;> rfl
  refine ⟨hstored, ?_, fun ref ↦ ?_⟩
  · rw [hrecord]
    exact ⟨hmirrors.shows, hmirrors.reported⟩
  · rw [hrecord, ← hbefore]
    exact mem_related_plan

/-- A record with its categories out of order, one of them twice and one of them stale, and a
conflict in front of the write. The second degraded condition stays where it is, behind the
first. -/
theorem pass_mirrors_aggregate_unsorted :
    let s := { Settings.ofPolicy "operator" .none with registered := true }
    let now : Instant := ⟨1, 0, 0, by decide⟩
    let since : Instant := ⟨0, 0, 0, by decide⟩
    let xs : List Condition := [⟨"DiskDegraded", .yes, now, "Full", "no space"⟩]
    let ref : ObjectRef := ⟨"", "nodes", "", "a"⟩
    let seeded : Record := ⟨"operator", 7,
      [⟨.available, .yes, "AsExpected", "", since⟩, ⟨.degraded, .no, "AsExpected", "", since⟩,
        ⟨.degraded, .unknown, "NoData", "", since⟩], [ref]⟩
    let stored : Record := ⟨"operator", 9,
      [⟨.degraded, .yes, "Disk_Full", "DiskDegraded: no space", now⟩,
        ⟨.degraded, .unknown, "NoData", "", since⟩], [ref]⟩
    let reply := s.pass Store.sink ⟨.ok xs, none⟩ now ((Store.empty 1).seed seeded)
    reply.result = .ok (.updated stored [.changed ⟨.degraded, some .no, .yes, "Disk_Full"⟩,
        .removed .available]) ∧
      reply.state.records "operator" = some stored ∧
      stored.Mirrors (aggregate s.policy now xs) := by
  intro s now since xs ref seeded stored reply
  have hresult : reply.result = .ok (.updated stored
      [.changed ⟨.degraded, some .no, .yes, "Disk_Full"⟩, .removed .available]) := by decide
  obtain ⟨hstored, hmirrors, -⟩ := pass_mirrors_aggregate s none xs now _ _ hresult
  exact ⟨hresult, hstored, hmirrors⟩

end Settings

end StatusRollup
