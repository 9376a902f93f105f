import StatusRollup.Proofs.Plan

/-!
# Records that are their own plan

When a plan leaves a record as it is. Merging a composite that a record already shows changes
nothing, since a stored time moves only with the status; dropping categories that are not stored
changes nothing; and the stored related objects are kept when they are the wanted ones as a set.
Together:

* `plan_eq_self_iff` — a record is its own plan exactly when it mirrors the aggregate and holds the
  wanted related objects.

Both sides of this survive a pass. Mirroring speaks of what composites say and not of their times,
so it carries over to any aggregate that says the same (`Composite.Agree`,
`Record.Mirrors.of_agree`). And the wanted related objects settle after one pass: a supplier that
falls silent adds the stored list to the configured one, which is part of it already
(`mem_wanted_of_settled`).
-/

namespace StatusRollup

namespace StoredCondition

variable {x : StoredCondition} {c : Composite} {now : Instant} {xs : List StoredCondition}

/-- A condition that says what the composite says is fresh already. -/
theorem refresh_eq_self (hstatus : x.status = c.status) (hreason : x.reason = c.reason)
    (hmessage : x.message = c.message) : x.refresh c now = x := by
  rw [refresh, if_pos hstatus, ← hstatus, ← hreason, ← hmessage]

theorem refreshFirst_eq_self (h : xs.find? (fun y ↦ y.category = c.category) = some x)
    (hx : x.refresh c now = x) : refreshFirst c now xs = xs := by
  induction xs with
  | nil => rfl
  | cons y ys ih =>
    by_cases hy : y.category = c.category
    · simp only [List.find?_cons, hy, decide_true, Option.some.injEq] at h
      subst h
      rw [refreshFirst_cons_of_eq hy, hx]
    · simp only [List.find?_cons, hy, decide_false] at h
      rw [refreshFirst_cons_of_ne hy, ih h]

end StoredCondition

namespace Composite

variable {cs ds : List Composite} {c : Composite}

/-- What a composite says, its time apart. -/
def said (c : Composite) : Status × String × String := (c.status, c.reason, c.message)

/-- Two lists of composites **agree** when they report the same categories and say the same of each.
Their times may differ. -/
def Agree (cs ds : List Composite) : Prop :=
  ∀ k, (lookup cs k).map said = (lookup ds k).map said

theorem Agree.symm (h : Agree cs ds) : Agree ds cs := fun k ↦ (h k).symm

/-- Lists that agree have a composite for each one of the other. -/
theorem Agree.exists_mem (h : Agree cs ds) (hcs : cs.Pairwise fun a b ↦ a.category < b.category)
    (hc : c ∈ cs) : ∃ d ∈ ds, d.category = c.category ∧ d.said = c.said := by
  have hlookup := (lookup_eq_some_iff hcs).2 ⟨hc, rfl⟩
  have hsaid := h c.category
  rw [hlookup, Option.map_some] at hsaid
  obtain ⟨d, hd, hdsaid⟩ := Option.map_eq_some_iff.1 hsaid.symm
  obtain ⟨hmem, hcategory⟩ := mem_of_lookup hd
  exact ⟨d, hmem, hcategory, hdsaid⟩

end Composite

namespace Record

variable {r : Record} {c : Composite} {cs ds : List Composite} {now : Instant}
  {keep : Category → Bool}

/-- Merging a composite that the record shows changes nothing. -/
theorem set_eq_self {x : StoredCondition} (hx : r.find c.category = some x)
    (hstatus : x.status = c.status) (hreason : x.reason = c.reason)
    (hmessage : x.message = c.message) : r.set c now = r := by
  have hfresh : x.refresh c now = x :=
    StoredCondition.refresh_eq_self hstatus hreason hmessage
  rw [set_of_find_eq_some hx, StoredCondition.refreshFirst_eq_self hx hfresh]

/-- **Merging what a record mirrors changes nothing.** The induction is on the composites: each
merge leaves the record as it is, so the next one meets the same record. -/
theorem setAll_eq_self (h : ∀ c ∈ cs, ∃ x, r.find c.category = some x ∧
    x.status = c.status ∧ x.reason = c.reason ∧ x.message = c.message) :
    (setAll now cs r).1 = r := by
  induction cs with
  | nil => rfl
  | cons c cs ih =>
    obtain ⟨x, hx, hstatus, hreason, hmessage⟩ := h c List.mem_cons_self
    rw [setAll_cons, set_eq_self hx hstatus hreason hmessage]
    exact ih fun d hd ↦ h d (List.mem_cons_of_mem c hd)

theorem retain_eq_self (h : ∀ x ∈ r.conditions, keep x.category = true) : r.retain keep = r := by
  rw [retain, List.filter_eq_self.2 h]

/-- What mirrors some composites mirrors any that agree with them. -/
theorem Mirrors.of_agree (h : r.Mirrors cs) (hagree : Composite.Agree cs ds)
    (hcs : cs.Pairwise fun a b ↦ a.category < b.category)
    (hds : ds.Pairwise fun a b ↦ a.category < b.category) : r.Mirrors ds where
  shows d hd := by
    obtain ⟨c, hc, hcategory, hsaid⟩ := hagree.symm.exists_mem hds hd
    obtain ⟨x, hx, hstatus, hreason, hmessage⟩ := h.shows c hc
    simp only [Composite.said, Prod.mk.injEq] at hsaid
    exact ⟨x, hcategory ▸ hx, hstatus.trans hsaid.1, hreason.trans hsaid.2.1,
      hmessage.trans hsaid.2.2⟩
  reported x hx := by
    obtain ⟨c, hc, hcategory⟩ := h.reported x hx
    obtain ⟨d, hd, hcategory', -⟩ := hagree.exists_mem hcs hc
    exact ⟨d, hd, hcategory'.trans hcategory⟩

end Record

namespace Settings

variable {s : Settings} {answer answer' : Option (List ObjectRef)} {xs : List Condition}
  {r r' : Record} {now : Instant} {ref : ObjectRef}

/-- **A record is its own plan** exactly when it mirrors the aggregate and holds the wanted related
objects, in any order and with any repetitions. -/
theorem plan_eq_self_iff :
    (s.plan answer xs r now).record = r ↔
      r.Mirrors (aggregate s.policy now xs) ∧ ∀ ref, ref ∈ r.related ↔ ref ∈ s.wanted answer r := by
  constructor
  · intro h
    have hmirrors : (s.plan answer xs r now).record.Mirrors (aggregate s.policy now xs) :=
      mirrors_plan
    have hrelated : ∀ ref, ref ∈ (s.plan answer xs r now).record.related ↔
        ref ∈ s.wanted answer r := fun ref ↦ mem_related_plan
    rw [h] at hmirrors hrelated
    exact ⟨hmirrors, hrelated⟩
  · rintro ⟨hmirrors, hrelated⟩
    have hconditions : (s.plan answer xs r now).record.conditions = r.conditions := by
      show (Record.retain _ (Record.setAll now (aggregate s.policy now xs) r).1).conditions = _
      rw [Record.setAll_eq_self hmirrors.shows, Record.retain_eq_self fun x hx ↦
        Composite.reports_iff.2 (hmirrors.reported x hx)]
    have hsame : ObjectRef.sameSet (s.wanted answer r) r.related = true :=
      ObjectRef.sameSet_iff.2 fun ref ↦ (hrelated ref).symm
    refine Record.ext name_plan version_plan hconditions ?_
    rw [related_plan, if_pos hsame]

/-! ### The wanted related objects settle -/

theorem wanted_unregistered (h : s.registered = false) : s.wanted answer r = s.fixed := by
  rw [wanted, supply, h]
  rfl

theorem wanted_none (h : s.registered = true) : s.wanted none r = s.fixed ++ r.related := by
  rw [wanted, supply, h]
  rfl

theorem wanted_some {refs : List ObjectRef} (h : s.registered = true) :
    s.wanted (some refs) r = refs ++ s.fixed := by
  rw [wanted, supply, h]
  rfl

/-- The configured references are always wanted. -/
theorem mem_wanted_of_mem_fixed (h : ref ∈ s.fixed) : ref ∈ s.wanted answer r := by
  cases hreg : s.registered with
  | false =>
    rw [wanted_unregistered hreg]
    exact h
  | true =>
    cases answer with
    | none =>
      rw [wanted_none hreg]
      exact List.mem_append_left _ h
    | some refs =>
      rw [wanted_some hreg]
      exact List.mem_append_right _ h

/-- **Wanted references settle.** Once a record holds what was wanted, it holds what is wanted next,
if the supplier says the same again, falls silent, or does not exist. -/
theorem mem_wanted_of_settled (hanswer : s.registered = false ∨ answer' = answer ∨ answer' = none)
    (h : ∀ ref, ref ∈ r'.related ↔ ref ∈ s.wanted answer r) :
    ref ∈ r'.related ↔ ref ∈ s.wanted answer' r' := by
  -- a silent supplier wants the stored list and the configured one, which is stored already
  have hsilent : s.registered = true → (ref ∈ r'.related ↔ ref ∈ s.wanted none r') := by
    intro hreg
    rw [wanted_none hreg, List.mem_append]
    exact ⟨.inr, fun hmem ↦ hmem.elim (fun hfixed ↦ (h ref).2 (mem_wanted_of_mem_fixed hfixed)) id⟩
  cases hreg : s.registered with
  | false =>
    rw [wanted_unregistered hreg, h, wanted_unregistered hreg]
  | true =>
    rcases hanswer with hno | rfl | rfl
    · exact absurd (hreg.symm.trans hno) nofun
    · cases answer' with
      | none => exact hsilent hreg
      | some refs => rw [h, wanted_some hreg, wanted_some hreg]
    · exact hsilent hreg

end Settings

end StatusRollup
