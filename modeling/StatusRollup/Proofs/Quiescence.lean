import StatusRollup.Proofs.Fixpoint
import StatusRollup.Proofs.Mirror

/-!
# Passes come to rest

After a pass that succeeds, nothing is left to do until something changes. The record it leaves is
its own plan (`plan_of_pass`), and it stays so at any later instant at which the aggregate says the
same and for any answer that brings no new related objects. A pass over such a record does nothing,
so the next one meets the same store (`passes_unchanged`).

Nothing is asked of what was stored before the first pass. Its conditions may be unsorted and repeat
categories: the first of each category is the one that is merged, and the others are never read. Its
related objects may repeat too.
-/

namespace StatusRollup

/-- When a pass runs and what the supplier of related objects answers it. -/
structure Occasion where
  /-- The answer. -/
  answer : Option (List ObjectRef)
  /-- The instant. -/
  now : Instant

namespace Settings

variable {s : Settings} {answer : Option (List ObjectRef)} {xs : List Condition} {now : Instant}
  {store : Store} {o : Outcome} {r : Record} {later : List Occasion}

/-- Passes over the same conditions, one on each occasion and each on what the one before it
left. -/
def passes (s : Settings) (xs : List Condition) : List Occasion → Store → List (PassReply Store)
  | [], _ => []
  | occasion :: later, store =>
    let reply := s.pass Store.sink ⟨.ok xs, occasion.answer⟩ occasion.now store
    reply :: s.passes xs later reply.state

/-- An occasion **brings nothing new** after a pass: the aggregate says the same as it did then, and
the supplier repeats its answer or falls silent, if there is one. -/
structure BringsNothingNew (s : Settings) (xs : List Condition) (first later : Occasion) : Prop where
  /-- Each category has the same status, reason and message. -/
  agree : Composite.Agree (aggregate s.policy first.now xs) (aggregate s.policy later.now xs)
  /-- No new related objects are supplied. -/
  answer : s.registered = false ∨ later.answer = first.answer ∨ later.answer = none

@[simp] theorem length_passes : (s.passes xs later store).length = later.length := by
  induction later generalizing store with
  | nil => rfl
  | cons occasion later ih =>
    rw [passes, List.length_cons, ih, List.length_cons]

/-- **The record that a pass leaves is its own plan** on any occasion that brings nothing new. -/
theorem plan_of_pass {occasion : Occasion}
    (h : (s.pass Store.sink ⟨.ok xs, answer⟩ now store).result = .ok o)
    (hnew : s.BringsNothingNew xs ⟨answer, now⟩ occasion) :
    (s.plan occasion.answer xs o.record occasion.now).record = o.record := by
  obtain ⟨-, version, hrecord⟩ := stored_of_pass h
  set base := (store.records s.name).getD (.empty s.name)
  -- only the version distinguishes the record from the plan that was written
  have hmirrors : o.record.Mirrors (aggregate s.policy now xs) := by
    have hplan : (s.plan answer xs base now).record.Mirrors _ := mirrors_plan
    rw [hrecord]
    exact ⟨hplan.shows, hplan.reported⟩
  have hrelated : ∀ ref, ref ∈ o.record.related ↔ ref ∈ s.wanted answer base := by
    rw [hrecord]
    exact fun ref ↦ mem_related_plan
  rw [plan_eq_self_iff]
  exact ⟨hmirrors.of_agree hnew.agree pairwise_aggregate pairwise_aggregate,
    fun ref ↦ mem_wanted_of_settled hnew.answer hrelated⟩

/-- Passes over a record that is its own plan on every occasion do nothing. The induction is on the
occasions; each pass hands on the store it met. -/
theorem passes_unchanged (hr : store.records s.name = some r)
    (hplan : ∀ occasion ∈ later, (s.plan occasion.answer xs r occasion.now).record = r) :
    ∀ reply ∈ s.passes xs later store,
      reply.result = .ok (.unchanged r) ∧ reply.state = store ∧ reply.sent = [] := by
  induction later with
  | nil => exact fun reply hreply ↦ absurd hreply List.not_mem_nil
  | cons occasion later ih =>
    obtain ⟨log, hpass⟩ := pass_unchanged hr (hplan occasion List.mem_cons_self)
    intro reply hreply
    rw [passes, hpass] at hreply
    rcases List.mem_cons.1 hreply with rfl | hrest
    · exact ⟨rfl, rfl, rfl⟩
    · exact ih (fun next hnext ↦ hplan next (List.mem_cons_of_mem occasion hnext)) reply hrest

/-- **A pass that succeeds is the last one to do anything.** Whatever was stored before it, every
later pass, as long as no occasion brings anything new, finds the record of its outcome and leaves
all as it is: nothing is written, no version is raised, no conflict is used up, no event is sent. -/
theorem pass_quiesces (s : Settings) (answer : Option (List ObjectRef)) (xs : List Condition)
    (now : Instant) (store : Store) (o : Outcome)
    (h : (s.pass Store.sink ⟨.ok xs, answer⟩ now store).result = .ok o) (later : List Occasion)
    (hlater : ∀ occasion ∈ later, s.BringsNothingNew xs ⟨answer, now⟩ occasion) :
    let left := (s.pass Store.sink ⟨.ok xs, answer⟩ now store).state
    (s.passes xs later left).length = later.length ∧
      ∀ reply ∈ s.passes xs later left,
        reply.result = .ok (.unchanged o.record) ∧ reply.state = left ∧ reply.sent = [] :=
  ⟨length_passes, passes_unchanged (stored_of_pass h).1 fun occasion hoccasion ↦
    plan_of_pass h (hlater occasion hoccasion)⟩

/-- A record with its categories out of order, one of them twice and one of them stale, and a
reference stored twice, with a conflict in front of the write. The supplier, which answered with one
more reference, falls silent and then repeats itself, days later: both passes find the same
record. -/
theorem pass_quiesces_unsorted :
    let s := { Settings.ofPolicy "operator" .none with
      registered := true, fixed := [⟨"", "nodes", "", "a"⟩] }
    let now : Instant := ⟨1, 0, 0, by decide⟩
    let since : Instant := ⟨0, 0, 0, by decide⟩
    let xs : List Condition := [⟨"DiskDegraded", .yes, now, "Full", "no space"⟩]
    let a : ObjectRef := ⟨"", "nodes", "", "a"⟩
    let b : ObjectRef := ⟨"", "nodes", "", "b"⟩
    let seeded : Record := ⟨"operator", 7,
      [⟨.available, .yes, "AsExpected", "", since⟩, ⟨.degraded, .no, "AsExpected", "", since⟩,
        ⟨.degraded, .unknown, "NoData", "", since⟩], [a, a]⟩
    let stored : Record := ⟨"operator", 9,
      [⟨.degraded, .yes, "Disk_Full", "DiskDegraded: no space", now⟩,
        ⟨.degraded, .unknown, "NoData", "", since⟩], [b, b, a]⟩
    let first := s.pass Store.sink ⟨.ok xs, some [b, b]⟩ now ((Store.empty 1).seed seeded)
    let later : List Occasion := [⟨none, ⟨5, 0, 0, by decide⟩⟩, ⟨some [b, b], ⟨9, 0, 0, by decide⟩⟩]
    (∃ events, first.result = .ok (.updated stored events)) ∧
      ∀ reply ∈ s.passes xs later first.state,
        reply.result = .ok (.unchanged stored) ∧ reply.state.writes = 1 := by
  intro s now since xs a b seeded stored first later
  have hresult : first.result = .ok (.updated stored
      [.changed ⟨.degraded, some .no, .yes, "Disk_Full"⟩, .removed .available,
        .relatedChanged 3]) := by decide
  have hwrites : first.state.writes = 1 := by decide
  have hnew : ∀ occasion ∈ later, s.BringsNothingNew xs ⟨some [b, b], now⟩ occasion := by
    intro occasion hoccasion
    simp only [later, List.mem_cons, List.not_mem_nil, or_false] at hoccasion
    rcases hoccasion with rfl | rfl
    · exact ⟨fun k ↦ by cases k <;> decide, .inr (.inr rfl)⟩
    · exact ⟨fun k ↦ by cases k <;> decide, .inr (.inl rfl)⟩
  obtain ⟨-, hlater⟩ := pass_quiesces s (some [b, b]) xs now _ _ hresult later hnew
  refine ⟨⟨_, hresult⟩, fun reply hreply ↦ ?_⟩
  obtain ⟨hunchanged, hstate, -⟩ := hlater reply hreply
  exact ⟨hunchanged, by rw [hstate, hwrites]⟩

end Settings

end StatusRollup
