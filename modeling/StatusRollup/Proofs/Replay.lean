import Mathlib.Data.List.Nodup
import Mathlib.Logic.Function.Basic
import StatusRollup.Proofs.Plan

/-!
# The events of a plan, replayed

The events of a plan are a diff of its record against the record it starts from. A reader who knows
only the statuses stored before, and applies the events in order, ends with the statuses stored
after, and each change of status starts from the status the reader has at that point.

* `Event.replay` applies one event and refuses a change that starts from another status.
* `replay_transitions` is the induction: merging a composite and replaying the transition it makes,
  if it makes one, do the same to the statuses. Nothing is assumed of the stored list.
* `replay_removed` and `statuses_retain` do the same for the categories that are dropped.
* `Plan.IsDiff` collects what else makes the events exact: none is idle, none is missing, and they
  come in a fixed order.
-/

namespace StatusRollup

/-- The status stored for each category, as far as one is found. -/
def Record.statuses (r : Record) (k : Category) : Option Status := (r.find k).map (·.status)

namespace Event

/-- Applies an event to statuses by category. A change has to start from the status at hand; an
event that is not about a status changes none. -/
def replay (statuses : Category → Option Status) : Event → Option (Category → Option Status)
  | changed t =>
    if statuses t.category = t.previous then
      some (Function.update statuses t.category (some t.current))
    else
      none
  | removed k => some (Function.update statuses k none)
  | created _ => some statuses
  | relatedChanged _ => some statuses

/-- The change of status that an event is about. -/
def transition? : Event → Option Transition
  | changed t => some t
  | _ => none

/-- The category that an event says is dropped. -/
def removed? : Event → Option Category
  | removed k => some k
  | _ => none

theorem mem_filterMap_transition?_iff {es : List Event} {t : Transition} :
    t ∈ es.filterMap transition? ↔ changed t ∈ es := by
  rw [List.mem_filterMap]
  constructor
  · rintro ⟨e, he, ht⟩
    obtain rfl : e = changed t := by cases e <;> simp_all [transition?]
    exact he
  · exact fun h ↦ ⟨_, h, rfl⟩

theorem mem_filterMap_removed?_iff {es : List Event} {k : Category} :
    k ∈ es.filterMap removed? ↔ removed k ∈ es := by
  rw [List.mem_filterMap]
  constructor
  · rintro ⟨e, he, hk⟩
    obtain rfl : e = removed k := by cases e <;> simp_all [removed?]
    exact he
  · exact fun h ↦ ⟨_, h, rfl⟩

/-- Events that are about a category: a change of its status or its end. -/
def IsAboutCategory (e : Event) : Prop := (∃ t, e = changed t) ∨ ∃ k, e = removed k

end Event

/-- The events of a plan are **exactly the difference** between its record and the record it was
made for, given the composites that were merged. -/
structure Plan.IsDiff (plan : Plan) (base : Record) (cs : List Composite) : Prop where
  /-- Replayed on the old statuses, the events give the new ones. -/
  replays : plan.events.foldlM Event.replay base.statuses = some plan.record.statuses
  /-- A change of status is one, and it carries the reason that is stored now. -/
  changes : ∀ t, Event.changed t ∈ plan.events → t.previous ≠ some t.current ∧
    ∃ x, plan.record.find t.category = some x ∧ x.reason = t.reason
  /-- At most one change of status for each category, in the order of the categories. -/
  ordered : (plan.events.filterMap Event.transition?).Pairwise fun a b ↦ a.category < b.category
  /-- The categories removed are those stored before that no composite is of. -/
  removes : ∀ k, Event.removed k ∈ plan.events ↔
    (∃ x ∈ base.conditions, x.category = k) ∧ ∀ c ∈ cs, c.category ≠ k
  /-- A category that was stored once is removed once. -/
  removesOnce : (base.conditions.map (·.category)).Nodup →
    (plan.events.filterMap Event.removed?).Nodup
  /-- The creation comes first, exactly for a record that was never stored. The change of the
  related objects comes last, exactly when they differ as sets. All other events are about a
  category. -/
  framed : ∃ middle, (∀ e ∈ middle, e.IsAboutCategory) ∧
    plan.events = (if base.version = 0 then [.created base.name] else []) ++ middle ++
      if ObjectRef.sameSet plan.record.related base.related then []
      else [.relatedChanged plan.record.related.length]

namespace Record

variable {r : Record} {c : Composite} {cs : List Composite} {now : Instant} {k : Category}

/-! ### Statuses and transitions under a merge -/

theorem statuses_set : (r.set c now).statuses =
    Function.update r.statuses c.category (some c.status) := by
  funext k
  by_cases hk : k = c.category
  · subst hk
    simp [statuses, find_set]
  · rw [Function.update_of_ne hk, statuses, find_set, if_neg hk]
    rfl

/-- **The transition of a merge**: there is none if the status is stored already, and otherwise it
leads from the status that is stored to that of the composite. -/
theorem transition_eq : r.transition c =
    if r.statuses c.category = some c.status then none
    else some ⟨c.category, r.statuses c.category, c.status, c.reason⟩ := by
  rw [transition, statuses]
  rcases r.find c.category with - | x
  · rfl
  · simp only [Option.map_some, Option.some.injEq]

theorem transition_eq_some_iff {t : Transition} : r.transition c = some t ↔
    r.statuses c.category ≠ some c.status ∧
      t = ⟨c.category, r.statuses c.category, c.status, c.reason⟩ := by
  rw [transition_eq]
  split
  · next h => exact iff_of_false nofun fun hne ↦ hne.1 h
  · next h => rw [Option.some.injEq, and_iff_right h, eq_comm]

/-- One merge: its transition leads from the statuses before to the statuses after. -/
theorem replay_transition (now : Instant) :
    ((r.transition c).toList.map Event.changed).foldlM Event.replay r.statuses =
      some (r.set c now).statuses := by
  rw [statuses_set, transition_eq]
  split
  · next hstatus =>
    rw [← hstatus, Function.update_eq_self]
    rfl
  · simp [Event.replay]

/-- **All merges**: by induction, each replay starting where the one before it ended. -/
theorem replay_transitions :
    ((setAll now cs r).2.map Event.changed).foldlM Event.replay r.statuses =
      some (setAll now cs r).1.statuses := by
  induction cs generalizing r with
  | nil => rfl
  | cons c cs ih =>
    rw [setAll_cons, List.map_append, List.foldlM_append, replay_transition now]
    exact ih

/-- A transition comes from one of the composites and changes a status. -/
theorem transition_of_mem_setAll {t : Transition} (ht : t ∈ (setAll now cs r).2) :
    t.previous ≠ some t.current ∧
      ∃ c ∈ cs, t.category = c.category ∧ t.reason = c.reason := by
  induction cs generalizing r with
  | nil => exact absurd ht List.not_mem_nil
  | cons c cs ih =>
    rw [setAll_cons, List.mem_append, Option.mem_toList] at ht
    rcases ht with ht | ht
    · obtain ⟨hne, rfl⟩ := transition_eq_some_iff.1 ht
      exact ⟨hne, c, List.mem_cons_self, rfl, rfl⟩
    · obtain ⟨hne, d, hd, heq⟩ := ih ht
      exact ⟨hne, d, List.mem_cons_of_mem c hd, heq⟩

theorem category_of_transition {t : Transition} (ht : r.transition c = some t) :
    t.category = c.category := by
  obtain ⟨-, rfl⟩ := transition_eq_some_iff.1 ht
  rfl

/-- A transition starts from the status that is stored. -/
theorem previous_of_transition {t : Transition} (ht : r.transition c = some t) :
    t.previous = r.statuses c.category := by
  obtain ⟨-, rfl⟩ := transition_eq_some_iff.1 ht
  rfl

/-- A transition looks at its own category alone. -/
theorem transition_set_of_ne {d : Composite} (hd : d.category ≠ c.category) :
    (r.set c now).transition d = r.transition d := by
  rw [transition, transition, find_set, if_neg hd]

/-- **The transition of a category** is the one that its composite makes, taken from the record
before all merges. The others are of other categories, and they do not touch what it looks at. -/
theorem find?_setAll (hcs : cs.Pairwise fun a b ↦ a.category < b.category) :
    (setAll now cs r).2.find? (fun t ↦ t.category = k) =
      (Composite.lookup cs k).bind r.transition := by
  induction cs generalizing r with
  | nil => rfl
  | cons c cs ih =>
    obtain ⟨hlt, hcs⟩ := List.pairwise_cons.1 hcs
    rw [setAll_cons, List.find?_append, ih hcs, Composite.lookup_cons]
    by_cases hk : c.category = k
    · have hlater : Composite.lookup cs k = none :=
        Composite.lookup_eq_none fun d hd ↦ hk ▸ (Category.ne_of_lt (hlt d hd)).symm
      rw [hlater, if_pos hk]
      rcases ht : r.transition c with - | t
      · simp [ht]
      · simp [ht, category_of_transition ht, hk]
    · have hnone : (r.transition c).toList.find? (fun t ↦ t.category = k) = none := by
        refine List.find?_eq_none.2 fun t ht ↦ ?_
        rw [category_of_transition (Option.mem_toList.1 ht)]
        simpa using hk
      rw [hnone, Option.none_or, if_neg hk]
      refine Option.bind_congr fun d hd ↦ transition_set_of_ne fun h ↦ hk ?_
      rw [← h]
      exact (Composite.mem_of_lookup hd).2

/-- The transitions are of some of the composites' categories, in the composites' order. -/
theorem map_category_setAll_sublist :
    ((setAll now cs r).2.map (·.category)).Sublist (cs.map (·.category)) := by
  induction cs generalizing r with
  | nil => exact List.Sublist.slnil
  | cons c cs ih =>
    have hone : ((r.transition c).toList.map (·.category)).Sublist [c.category] := by
      rw [transition_eq]
      split <;> simp
    rw [setAll_cons, List.map_append]
    exact hone.append ih

theorem pairwise_setAll (hcs : cs.Pairwise fun a b ↦ a.category < b.category) :
    (setAll now cs r).2.Pairwise fun a b ↦ a.category < b.category := by
  have hmap : (cs.map (·.category)).Pairwise (· < ·) := List.pairwise_map.2 hcs
  exact List.pairwise_map.1 (hmap.sublist map_category_setAll_sublist)

/-! ### Statuses and dropped categories -/

/-- Replaying removals forgets the categories named. -/
theorem replay_removed (ks : List Category) (m : Category → Option Status) :
    (ks.map Event.removed).foldlM Event.replay m = some fun k ↦ if k ∈ ks then none else m k := by
  induction ks generalizing m with
  | nil => simp
  | cons k ks ih =>
    rw [List.map_cons, List.foldlM_cons]
    show (ks.map Event.removed).foldlM Event.replay (Function.update m k none) = _
    rw [ih]
    refine congrArg some (funext fun j ↦ ?_)
    by_cases hj : j = k
    · simp [hj]
    · simp [hj]

/-- Dropping categories forgets the categories dropped. -/
theorem statuses_retain {keep : Category → Bool} :
    (r.retain keep).statuses = fun k ↦ if k ∈ r.dropped keep then none else r.statuses k := by
  funext k
  rw [statuses, find_retain]
  cases hkeep : keep k with
  | true => rw [if_pos rfl, if_neg fun h ↦ by simp [mem_dropped_iff, hkeep] at h, statuses]
  | false =>
    by_cases hk : k ∈ r.dropped keep
    · simp [hk]
    · have hfind : r.find k = none := by
        rw [find_eq_none_iff]
        exact fun x hx heq ↦ hk (mem_dropped_iff.2 ⟨⟨x, hx, heq⟩, hkeep⟩)
      simp [statuses, hfind]

end Record

namespace Settings

variable {s : Settings} {answer : Option (List ObjectRef)} {xs : List Condition} {base : Record}
  {now : Instant}

/-- The changes of status that a plan makes. -/
def transitions (s : Settings) (xs : List Condition) (base : Record) (now : Instant) :
    List Transition :=
  (Record.setAll now (aggregate s.policy now xs) base).2

/-- The categories that a plan drops, each as often as it was stored. -/
def droppedCategories (s : Settings) (xs : List Condition) (base : Record) (now : Instant) :
    List Category :=
  base.dropped (Composite.reports (aggregate s.policy now xs))

/-- The events of a plan, part by part. -/
theorem events_plan : (s.plan answer xs base now).events =
    (if base.version = 0 then [.created base.name] else []) ++
      ((s.transitions xs base now).map .changed ++ (s.droppedCategories xs base now).map .removed) ++
      if ObjectRef.sameSet (s.plan answer xs base now).record.related base.related then []
      else [.relatedChanged (s.plan answer xs base now).record.related.length] := by
  have hdropped : (Record.setAll now (aggregate s.policy now xs) base).1.dropped
      (Composite.reports (aggregate s.policy now xs)) = s.droppedCategories xs base now :=
    Record.dropped_setAll fun c hc ↦ Composite.reports_of_mem hc
  have hnew : base.isNew = true ↔ base.version = 0 := by simp [Record.isNew]
  have hrelated : (ObjectRef.sameSet (s.plan answer xs base now).record.related base.related) =
      ObjectRef.sameSet (s.wanted answer base) base.related := by
    rw [Bool.eq_iff_iff, ObjectRef.sameSet_iff, ObjectRef.sameSet_iff]
    simp only [mem_related_plan]
  have hlast : (if ObjectRef.sameSet (s.wanted answer base) base.related then []
      else [Event.relatedChanged (s.wanted answer base).length]) =
      if ObjectRef.sameSet (s.plan answer xs base now).record.related base.related then []
      else [.relatedChanged (s.plan answer xs base now).record.related.length] := by
    rw [hrelated, related_plan]
    split <;> rfl
  show (if base.isNew then [Event.created base.name] else []) ++
      (s.transitions xs base now).map Event.changed ++
      ((Record.setAll now (aggregate s.policy now xs) base).1.dropped
        (Composite.reports (aggregate s.policy now xs))).map Event.removed ++ _ = _
  rw [hdropped, ← hlast, List.append_assoc _ ((s.transitions xs base now).map Event.changed)]
  simp only [hnew]
  rfl

/-- The changes of status are all the events of that kind. -/
theorem filterMap_transition?_plan :
    (s.plan answer xs base now).events.filterMap Event.transition? = s.transitions xs base now := by
  rw [events_plan]
  split <;> split <;>
    simp [Event.transition?, Function.comp_def, List.filterMap_cons, List.filterMap_map]

/-- The removals are all the events of that kind. -/
theorem filterMap_removed?_plan :
    (s.plan answer xs base now).events.filterMap Event.removed? =
      s.droppedCategories xs base now := by
  rw [events_plan]
  split <;> split <;>
    simp [Event.removed?, Function.comp_def, List.filterMap_cons, List.filterMap_map]

/-- A plan tells of a creation exactly if it starts from a record that was never written. -/
theorem count_created_plan {name : String} :
    (s.plan answer xs base now).events.count (.created name) =
      if base.version = 0 ∧ base.name = name then 1 else 0 := by
  have hchanged : ∀ ts : List Transition, (ts.map Event.changed).count (.created name) = 0 :=
    fun ts ↦ List.count_eq_zero.2 (by simp)
  have hremoved : ∀ ks : List Category, (ks.map Event.removed).count (.created name) = 0 :=
    fun ks ↦ List.count_eq_zero.2 (by simp)
  rw [events_plan, List.count_append, List.count_append, List.count_append, hchanged, hremoved]
  split <;> split <;> simp_all [List.count_cons]

/-- **Replayed in order, the events lead from the statuses before to the statuses after.** -/
theorem replay_plan : (s.plan answer xs base now).events.foldlM Event.replay base.statuses =
    some (s.plan answer xs base now).record.statuses := by
  have hchanged : ((s.transitions xs base now).map Event.changed).foldlM Event.replay base.statuses =
      some (Record.setAll now (aggregate s.policy now xs) base).1.statuses :=
    Record.replay_transitions
  have hretained : (s.plan answer xs base now).record.statuses =
      ((Record.setAll now (aggregate s.policy now xs) base).1.retain
        (Composite.reports (aggregate s.policy now xs))).statuses := rfl
  have hmiddle : ((s.transitions xs base now).map Event.changed ++
      (s.droppedCategories xs base now).map Event.removed).foldlM Event.replay base.statuses =
      some (s.plan answer xs base now).record.statuses := by
    rw [List.foldlM_append, hchanged, hretained, Record.statuses_retain,
      Record.dropped_setAll fun _ ↦ Composite.reports_of_mem]
    exact Record.replay_removed _ _
  -- the events at both ends are not about statuses
  have hfirst : (if base.version = 0 then [Event.created base.name] else []).foldlM Event.replay
      base.statuses = some base.statuses := by
    split <;> rfl
  rw [events_plan, List.foldlM_append, List.foldlM_append, hfirst]
  show (List.foldlM Event.replay base.statuses (_ ++ _)).bind _ = _
  rw [hmiddle, Option.bind_some]
  split <;> rfl

/-- **The events of a plan are exactly its diff**, for every stored record, sorted or not and with
categories repeated or not, and the related objects that the diff is taken of are the reconciled
ones. -/
theorem isDiff_plan (s : Settings) (answer : Option (List ObjectRef)) (xs : List Condition)
    (base : Record) (now : Instant) :
    let plan := s.plan answer xs base now
    plan.IsDiff base (aggregate s.policy now xs) ∧
      ∀ ref, ref ∈ plan.record.related ↔ ref ∈ (s.supply answer).reconcile s.fixed base.related := by
  intro plan
  refine ⟨⟨replay_plan, fun t ht ↦ ?_, ?_, fun k ↦ ?_, fun hnodup ↦ ?_, ?_⟩,
    fun ref ↦ mem_related_plan⟩
  -- Every transition comes from a composite, and the planned record shows every composite.
  · rw [← Event.mem_filterMap_transition?_iff, filterMap_transition?_plan] at ht
    obtain ⟨hne, c, hc, hcategory, hreason⟩ := Record.transition_of_mem_setAll ht
    exact ⟨hne, _, hcategory ▸ find_plan_of_mem hc, by rw [StoredCondition.reason_merge, hreason]⟩
  · rw [filterMap_transition?_plan]
    exact Record.pairwise_setAll pairwise_aggregate
  · rw [← Event.mem_filterMap_removed?_iff, filterMap_removed?_plan, droppedCategories,
      Record.mem_dropped_iff, Bool.eq_false_iff, ne_eq, Composite.reports_iff]
    simp only [not_exists, not_and, ne_eq]
  · rw [filterMap_removed?_plan, droppedCategories, Record.dropped_eq_filter_map]
    exact hnodup.filter _
  · refine ⟨_, fun e he ↦ ?_, events_plan⟩
    rcases List.mem_append.1 he with he | he
    · obtain ⟨t, -, rfl⟩ := List.mem_map.1 he
      exact .inl ⟨t, rfl⟩
    · obtain ⟨k, -, rfl⟩ := List.mem_map.1 he
      exact .inr ⟨k, rfl⟩

end Settings

end StatusRollup
