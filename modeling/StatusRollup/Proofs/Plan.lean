import StatusRollup.Proofs.Merge
import StatusRollup.Settings

/-!
# What a plan stores

The record of a plan, read off the aggregate and the record it starts from.

* `mirrors_plan` — the planned record shows every composite and holds no other category, whatever
  was stored before.
* `mem_related_plan` — its related objects are the reconciled ones, as a set. The stored list is
  kept as it is when it already is that set, so nothing more can be said of the list itself.
* `record_plan_version`, `plan_eq_iff_version` — the stored version only passes through. A plan for
  a record whose version was raised in the meantime stores the same at the raised version; this is
  what makes a repeated attempt harmless. It tells the same too, unless raising the version has made
  the record look new (`events_plan_raise`).
-/

namespace StatusRollup

/-- A record **mirrors** some composites when it shows what each of them says and stores no category
besides theirs. Times are left out: a stored time is about the stored status. -/
structure Record.Mirrors (r : Record) (cs : List Composite) : Prop where
  /-- The first condition of a composite's category says what the composite says. -/
  shows : ∀ c ∈ cs, ∃ x, r.find c.category = some x ∧
    x.status = c.status ∧ x.reason = c.reason ∧ x.message = c.message
  /-- Every stored condition is of some composite's category. -/
  reported : ∀ x ∈ r.conditions, ∃ c ∈ cs, c.category = x.category

namespace Record

variable {r : Record} {cs : List Composite} {now : Instant} {v : UInt64} {n : Nat}

/-- Merging looks at the stored conditions alone. -/
theorem setAll_congr {r' : Record} (h : r.conditions = r'.conditions) :
    (setAll now cs r).1.conditions = (setAll now cs r').1.conditions ∧
      (setAll now cs r).2 = (setAll now cs r').2 := by
  induction cs generalizing r r' with
  | nil => exact ⟨h, rfl⟩
  | cons c cs ih =>
    have hfind : r.find c.category = r'.find c.category := by rw [find, find, h]
    have hset : (r.set c now).conditions = (r'.set c now).conditions := by
      rw [set, set, hfind]
      split
      · exact congrArg (StoredCondition.refreshFirst c now) h
      · exact congrArg (StoredCondition.insert (.ofComposite c now)) h
    have htransition : r.transition c = r'.transition c := by
      rw [transition, transition, hfind]
    obtain ⟨hconditions, htransitions⟩ := ih hset
    rw [setAll_cons, setAll_cons, htransition, htransitions]
    exact ⟨hconditions, rfl⟩

/-- So it does not look at the version. -/
theorem setAll_version :
    setAll now cs { r with version := v } =
      ({ (setAll now cs r).1 with version := v }, (setAll now cs r).2) := by
  obtain ⟨hconditions, htransitions⟩ :
      (setAll now cs { r with version := v }).1.conditions = (setAll now cs r).1.conditions ∧
        (setAll now cs { r with version := v }).2 = (setAll now cs r).2 := setAll_congr rfl
  refine Prod.ext (Record.ext ?_ version_setAll hconditions ?_) htransitions
  · exact name_setAll.trans (name_setAll (r := r)).symm
  · exact related_setAll.trans (related_setAll (r := r)).symm

/-- The record so many versions on. -/
def raise (r : Record) (n : Nat) : Record := { r with version := r.version + .ofNat n }

@[simp] theorem name_raise : (r.raise n).name = r.name := rfl

@[simp] theorem raise_zero : r.raise 0 = r := by
  rw [raise, show UInt64.ofNat 0 = 0 from rfl, UInt64.add_zero]

theorem raise_succ : r.raise (n + 1) = { r.raise n with version := (r.raise n).version + 1 } := by
  rw [raise, UInt64.ofNat_add, ← UInt64.add_assoc]
  rfl

theorem toNat_version_raise :
    (r.raise n).version.toNat = (r.version.toNat + n) % UInt64.size := by
  rw [raise, UInt64.toNat_add, UInt64.toNat_ofNat', Nat.add_mod_mod]

/-- Only after all versions there are does the same one come again. -/
theorem eq_of_version_raise {m : Nat} (hm : m < UInt64.size) (hn : n < UInt64.size)
    (h : (r.raise m).version = (r.raise n).version) : m = n := by
  rw [raise, raise, UInt64.add_right_inj, ← UInt64.toNat_inj, UInt64.toNat_ofNat_of_lt' hm,
    UInt64.toNat_ofNat_of_lt' hn] at h
  exact h

theorem version_raise_ne (hn : 0 < n) (hsize : n < UInt64.size) :
    (r.raise n).version ≠ r.version := by
  intro h
  exact Nat.ne_of_gt hn (eq_of_version_raise hsize (by decide)
    (h.trans (congrArg version raise_zero.symm)))

/-- With room for so many versions, a record that has been written does not come to look new. -/
theorem version_raise_ne_zero (hr : r.version ≠ 0) (hroom : r.version.toNat + n < UInt64.size) :
    (r.raise n).version ≠ 0 := by
  rw [ne_eq, ← UInt64.toNat_inj, UInt64.toNat_zero] at hr ⊢
  rw [toNat_version_raise, Nat.mod_eq_of_lt hroom]
  omega

end Record

namespace Settings

variable {s : Settings} {answer : Option (List ObjectRef)} {xs : List Condition} {r : Record}
  {now : Instant}

/-- The related objects that a pass over a record wants to be stored. -/
def wanted (s : Settings) (answer : Option (List ObjectRef)) (r : Record) : List ObjectRef :=
  (s.supply answer).reconcile s.fixed r.related

@[simp] theorem name_plan : (s.plan answer xs r now).record.name = r.name :=
  Record.name_setAll

@[simp] theorem version_plan : (s.plan answer xs r now).record.version = r.version :=
  Record.version_setAll

/-- What is found in a planned record: the category's composite merged, or nothing. -/
theorem find_plan_of_mem {c : Composite} (hc : c ∈ aggregate s.policy now xs) :
    (s.plan answer xs r now).record.find c.category =
      some (StoredCondition.merge (r.find c.category) c now) := by
  show (Record.retain (Composite.reports (aggregate s.policy now xs)) _).find c.category = _
  rw [Record.find_retain, if_pos (Composite.reports_of_mem hc),
    Record.find_setAll_of_mem pairwise_aggregate hc]

/-- **A planned record mirrors the aggregate.** -/
theorem mirrors_plan : (s.plan answer xs r now).record.Mirrors (aggregate s.policy now xs) where
  shows _ hc := ⟨_, find_plan_of_mem hc, StoredCondition.status_merge _ _ _,
    StoredCondition.reason_merge _ _ _, StoredCondition.message_merge _ _ _⟩
  reported _ hx := Composite.reports_iff.1 (List.mem_filter.1 hx).2

/-- A plan stores each category at most once, if the record it starts from does. -/
theorem nodup_plan (hr : (r.conditions.map (·.category)).Nodup) :
    ((s.plan answer xs r now).record.conditions.map (·.category)).Nodup :=
  (Record.nodup_setAll hr).sublist (List.filter_sublist.map _)

/-- The planned related objects are the wanted ones, unless those are stored already. -/
theorem related_plan :
    (s.plan answer xs r now).record.related =
      if ObjectRef.sameSet (s.wanted answer r) r.related then r.related
      else s.wanted answer r := by
  show (if _ then (Record.setAll now (aggregate s.policy now xs) r).1.related else _) = _
  rw [Record.related_setAll]
  rfl

/-- **The planned related objects are the wanted ones**, as a set. -/
theorem mem_related_plan {ref : ObjectRef} :
    ref ∈ (s.plan answer xs r now).record.related ↔ ref ∈ s.wanted answer r := by
  rw [related_plan]
  split
  · next hsame => exact (ObjectRef.sameSet_iff.1 hsame ref).symm
  · exact Iff.rfl

/-! ### The version passes through -/

/-- The record planned for a record at another version is the planned record at that version. -/
theorem record_plan_version {v : UInt64} :
    (s.plan answer xs { r with version := v } now).record =
      { (s.plan answer xs r now).record with version := v } := by
  simp only [plan, Record.setAll_version]
  rfl

/-- The plan for a raised record has the events of the plan for the record, as long as there is room
for the versions in between. -/
theorem events_plan_raise {n : Nat} (hr : r.version ≠ 0)
    (hroom : r.version.toNat + n < UInt64.size) :
    (s.plan answer xs (r.raise n) now).events = (s.plan answer xs r now).events := by
  have hnew : r.isNew = false := decide_eq_false hr
  have hraised : (r.raise n).isNew = false :=
    decide_eq_false (Record.version_raise_ne_zero hr hroom)
  rw [Record.raise] at hraised ⊢
  simp only [plan, Record.setAll_version, hnew, hraised]
  rfl

/-- Whether there is anything to write does not depend on the version. -/
theorem plan_eq_iff_version {v : UInt64} :
    (s.plan answer xs { r with version := v } now).record = { r with version := v } ↔
      (s.plan answer xs r now).record = r := by
  rw [record_plan_version]
  constructor
  · intro h
    obtain ⟨hname, -, hconditions, hrelated⟩ := Record.mk.inj h
    exact Record.ext hname version_plan hconditions hrelated
  · intro h
    rw [h]

end Settings

end StatusRollup
