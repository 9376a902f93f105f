import StatusRollup.Proofs.Replay

/-!
# Related objects as sets

Three lists of references go into a plan: the configured one, the answer of the supplier and the one
that is stored. A plan keeps repetitions and takes the lists in a fixed order, so its own list shows
how they were written down. What it decides does not: whether the related objects have changed, and
with that whether there is anything to write, depends on each of the three lists as a set.

* `ObjectRef.sameSet_equivalence`, `ObjectRef.sameSet_append` — being the same set is an equivalence
  that lists put together respect, and `ObjectRef.sameSet_congr` says that it may be asked of either
  of two lists that are the same set.
* `Supply.sameSet_reconcile` — so what is wanted is the same set, for each way in which a supplier
  can answer (`Supply.Alike`).
* `plan_of_sameSet` — nothing else in a plan looks at any of the three lists.
-/

namespace StatusRollup

namespace ObjectRef

variable {as bs cs ds : List ObjectRef}

theorem sameSet_refl : sameSet as as = true := sameSet_iff.2 fun _ ↦ Iff.rfl

/-- Being the same set is an equivalence. -/
theorem sameSet_equivalence : Equivalence fun as bs : List ObjectRef ↦ sameSet as bs = true where
  refl _ := sameSet_refl
  symm h := sameSet_iff.2 fun ref ↦ (sameSet_iff.1 h ref).symm
  trans h h' := sameSet_iff.2 fun ref ↦ (sameSet_iff.1 h ref).trans (sameSet_iff.1 h' ref)

/-- Lists put together are the same set if their parts are. -/
theorem sameSet_append (h : sameSet as bs = true) (h' : sameSet cs ds = true) :
    sameSet (as ++ cs) (bs ++ ds) = true := by
  refine sameSet_iff.2 fun ref ↦ ?_
  rw [List.mem_append, List.mem_append, sameSet_iff.1 h, sameSet_iff.1 h']

/-- Whether two lists are the same set may be asked of any two lists that are the same sets. -/
theorem sameSet_congr (h : sameSet as bs = true) (h' : sameSet cs ds = true) :
    sameSet as cs = sameSet bs ds := by
  rw [Bool.eq_iff_iff, sameSet_iff, sameSet_iff]
  simp only [sameSet_iff.1 h, sameSet_iff.1 h']

end ObjectRef

open ObjectRef

namespace Supply

/-- Two suppliers say **alike**: neither exists, neither could answer, or both answered with the
same set of references. -/
inductive Alike : Supply → Supply → Prop where
  /-- Neither exists. -/
  | unregistered : Alike unregistered unregistered
  /-- Neither could answer. -/
  | unavailable : Alike unavailable unavailable
  /-- Both answered with the same set. -/
  | resolved {refs refs' : List ObjectRef} :
    sameSet refs refs' = true → Alike (resolved refs) (resolved refs')

variable {supply supply' : Supply} {fixed fixed' existing existing' : List ObjectRef}

/-- **What is to be reported is the same set** for the same three sets, one case for each way to
answer. -/
theorem sameSet_reconcile (h : supply.Alike supply') (hfixed : sameSet fixed fixed' = true)
    (hexisting : sameSet existing existing' = true) :
    sameSet (supply.reconcile fixed existing) (supply'.reconcile fixed' existing') = true := by
  cases h with
  | unregistered => exact hfixed
  | unavailable => exact sameSet_append hfixed hexisting
  | resolved hrefs => exact sameSet_append hrefs hfixed

end Supply

/-- The event is that the related objects have changed. -/
def Event.isRelatedChange : Event → Bool
  | relatedChanged _ => true
  | _ => false

namespace Settings

variable {s s' : Settings} {answer answer' : Option (List ObjectRef)} {xs : List Condition}
  {r r' : Record} {now : Instant}

/-- The planned related objects are the same set as the wanted ones. -/
theorem sameSet_related_plan :
    sameSet (s.plan answer xs r now).record.related (s.wanted answer r) = true :=
  sameSet_iff.2 fun _ ↦ mem_related_plan

/-- The stored list is kept exactly if it is the wanted set. -/
theorem related_plan_eq_self_iff :
    (s.plan answer xs r now).record.related = r.related ↔
      sameSet (s.wanted answer r) r.related = true := by
  rw [related_plan]
  split
  · next h => exact iff_of_true rfl h
  · next h =>
    refine iff_of_false (fun heq ↦ h ?_) h
    rw [heq]
    exact sameSet_refl

/-- The conditions of a plan depend on the stored conditions, and on no related object. -/
theorem conditions_plan_congr (hpolicy : s.policy = s'.policy)
    (h : r.conditions = r'.conditions) :
    (s.plan answer xs r now).record.conditions = (s'.plan answer' xs r' now).record.conditions := by
  obtain ⟨hconditions, -⟩ : (Record.setAll now (aggregate s.policy now xs) r).1.conditions =
      (Record.setAll now (aggregate s.policy now xs) r').1.conditions ∧ _ := Record.setAll_congr h
  show (Record.retain _ (Record.setAll now (aggregate s.policy now xs) r).1).conditions =
    (Record.retain _ (Record.setAll now (aggregate s'.policy now xs) r').1).conditions
  rw [Record.retain, Record.retain, hconditions, hpolicy]

/-- A plan tells of a change of the related objects exactly if the wanted ones are not the stored
set. -/
theorem exists_relatedChanged_iff :
    (∃ n, .relatedChanged n ∈ (s.plan answer xs r now).events) ↔
      sameSet (s.wanted answer r) r.related = false := by
  rw [events_plan, sameSet_congr sameSet_related_plan sameSet_refl]
  cases sameSet (s.wanted answer r) r.related with
  | true => by_cases hversion : r.version = 0 <;> simp [hversion]
  | false => simp

/-- The other events of a plan come from the merge. -/
theorem filter_events_plan :
    ((s.plan answer xs r now).events.filter fun e ↦ !e.isRelatedChange) =
      (if r.version = 0 then [.created r.name] else []) ++
        ((s.transitions xs r now).map .changed ++ (s.droppedCategories xs r now).map .removed) := by
  have hkept : ∀ e ∈ (if r.version = 0 then [Event.created r.name] else []) ++
      ((s.transitions xs r now).map .changed ++ (s.droppedCategories xs r now).map .removed),
      (!e.isRelatedChange) = true := by
    intro e he
    rcases List.mem_append.1 he with hcreated | hmerged
    · split at hcreated
      · obtain rfl := List.mem_singleton.1 hcreated
        rfl
      · exact absurd hcreated List.not_mem_nil
    · rcases List.mem_append.1 hmerged with hchanged | hremoved
      · obtain ⟨t, -, rfl⟩ := List.mem_map.1 hchanged
        rfl
      · obtain ⟨k, -, rfl⟩ := List.mem_map.1 hremoved
        rfl
  have hlast (b : Bool) (n : Nat) :
      ((if b then [] else [Event.relatedChanged n]).filter fun e ↦ !e.isRelatedChange) = [] := by
    cases b <;> rfl
  rw [events_plan, List.filter_append, List.filter_eq_self.2 hkept, hlast, List.append_nil]

/-- The other events of a plan look at no related object either. -/
theorem filter_events_plan_congr (hpolicy : s.policy = s'.policy) (hname : r.name = r'.name)
    (hversion : r.version = r'.version) (h : r.conditions = r'.conditions) :
    ((s.plan answer xs r now).events.filter fun e ↦ !e.isRelatedChange) =
      (s'.plan answer' xs r' now).events.filter fun e ↦ !e.isRelatedChange := by
  have htransitions : s.transitions xs r now = s'.transitions xs r' now := by
    rw [transitions, transitions, ← hpolicy]
    exact (Record.setAll_congr h).2
  have hdropped : s.droppedCategories xs r now = s'.droppedCategories xs r' now := by
    rw [droppedCategories, droppedCategories, Record.dropped, Record.dropped, hpolicy, h]
  rw [filter_events_plan, filter_events_plan, htransitions, hdropped, hname, hversion]

/-- A plan is the record that it is made for exactly if it keeps the conditions and the wanted
related objects are the stored set. -/
theorem plan_eq_self_iff_sameSet :
    (s.plan answer xs r now).record = r ↔
      (s.plan answer xs r now).record.conditions = r.conditions ∧
        sameSet (s.wanted answer r) r.related = true := by
  have hrelated : (s.plan answer xs r now).record.related = r.related ↔ _ :=
    related_plan_eq_self_iff
  constructor
  · intro h
    exact ⟨congrArg Record.conditions h, hrelated.1 (congrArg Record.related h)⟩
  · rintro ⟨hconditions, hsame⟩
    exact Record.ext name_plan version_plan hconditions (hrelated.2 hsame)

/-- **A plan sees related objects as sets.** Let the configured list, the answer of the supplier and
the stored list each be replaced by one that holds the same references, in any order and any number
of times. Then both plans tell of a change of the related objects or neither does, their related
objects are the same set, and all else is equal: the conditions, the other events, and whether there
is anything to write. Being the same set is an equivalence, and it is to have the same members. -/
theorem plan_of_sameSet (s : Settings) (answer answer' : Option (List ObjectRef))
    (xs : List Condition) (r : Record) (now : Instant) (fixed' existing' : List ObjectRef)
    (hfixed : sameSet s.fixed fixed' = true)
    (hanswer : (s.supply answer).Alike (s.supply answer'))
    (hexisting : sameSet r.related existing' = true) :
    let s' : Settings := { s with fixed := fixed' }
    let r' : Record := { r with related := existing' }
    let plan := s.plan answer xs r now
    let plan' := s'.plan answer' xs r' now
    (((∃ n, .relatedChanged n ∈ plan.events) ↔ ∃ n, .relatedChanged n ∈ plan'.events) ∧
      sameSet plan.record.related plan'.record.related = true ∧
      plan.record.conditions = plan'.record.conditions ∧
      (plan.events.filter fun e ↦ !e.isRelatedChange) =
        plan'.events.filter (fun e ↦ !e.isRelatedChange) ∧
      (plan.record = r ↔ plan'.record = r')) ∧
    (Equivalence fun as bs : List ObjectRef ↦ sameSet as bs = true) ∧
    ∀ as bs : List ObjectRef, sameSet as bs = true ↔ ∀ ref, ref ∈ as ↔ ref ∈ bs := by
  intro s' r' plan plan'
  have hwanted : sameSet (s.wanted answer r) (s'.wanted answer' r') = true :=
    Supply.sameSet_reconcile hanswer hfixed hexisting
  have hchange := sameSet_congr hwanted hexisting
  have hconditions : plan.record.conditions = plan'.record.conditions :=
    conditions_plan_congr rfl rfl
  refine ⟨⟨?_, ?_, hconditions, filter_events_plan_congr rfl rfl rfl rfl, ?_⟩,
    sameSet_equivalence, fun as bs ↦ sameSet_iff⟩
  · rw [exists_relatedChanged_iff, exists_relatedChanged_iff, hchange]
  · rw [sameSet_congr sameSet_related_plan sameSet_related_plan]
    exact hwanted
  · rw [plan_eq_self_iff_sameSet, plan_eq_self_iff_sameSet, hchange]
    exact and_congr_left fun _ ↦ by rw [hconditions]

/-- Two references configured in one order and in the other with one of them twice, a third one
supplied once and twice, and the first of them stored once and twice. Both plans tell of a change,
each with the length of its own list. -/
theorem plan_of_sameSet_repeated :
    let a : ObjectRef := ⟨"", "nodes", "", "a"⟩
    let b : ObjectRef := ⟨"", "nodes", "", "b"⟩
    let c : ObjectRef := ⟨"", "nodes", "", "c"⟩
    let now : Instant := ⟨1, 0, 0, by decide⟩
    let s := { Settings.ofPolicy "operator" .none with registered := true, fixed := [a, b] }
    let s' := { s with fixed := [b, a, b] }
    let r : Record := ⟨"operator", 4, [], [a]⟩
    let plan := s.plan (some [c]) [] r now
    let plan' := s'.plan (some [c, c]) [] { r with related := [a, a] } now
    .relatedChanged 3 ∈ plan.events ∧ (∃ n, .relatedChanged n ∈ plan'.events) ∧
      plan.record.related = [c, a, b] ∧ sameSet [c, a, b] plan'.record.related = true ∧
      plan.record.conditions = plan'.record.conditions := by
  intro a b c now s s' r plan plan'
  have hanswer : (s.supply (some [c])).Alike (s.supply (some [c, c])) := .resolved (by decide)
  obtain ⟨⟨htells, hrelated, hconditions, -, -⟩, -, -⟩ :=
    plan_of_sameSet s (some [c]) (some [c, c]) [] r now [b, a, b] [a, a] (by decide) hanswer
      (by decide)
  have hchanged : .relatedChanged 3 ∈ plan.events := by decide
  have hlist : plan.record.related = [c, a, b] := by decide
  refine ⟨hchanged, htells.1 ⟨3, hchanged⟩, hlist, ?_, hconditions⟩
  rw [← hlist]
  exact hrelated

end Settings

end StatusRollup
