import Mathlib.Data.List.Chain
import StatusRollup.Proofs.Replay

/-!
# Merges in any order

Composites merged into a record one by one, each at an instant of its own (`Record.mergeAll`), with
the change of status that each merge makes (`Record.told`). Merges of one category have to keep
their order. Those of different categories may change places: neither the record nor what is told
shows in which order they came (`merges_interleaved`).

* `set_comm` — two merges. A stored condition is refreshed where it is, and a new one is put in
  front of the first one of a later category, which is found by categories alone. Only two new
  conditions can meet, and then they come to lie in the order of their categories. The stored list
  may be unsorted and may repeat categories.
* `mergeAll_congr` — from two merges to any number of them. The induction is on one of the runs; its
  first merge is found in the other run, and no merge in front of it is of its category.
* `filter_told` — a category is told of as if there were no other. The changes of its status lead
  from one to the next (`chain_told`).
-/

namespace StatusRollup

/-- A composite, and the instant at which it is merged. -/
structure Merge where
  /-- The composite. -/
  composite : Composite
  /-- The instant. -/
  now : Instant
  deriving DecidableEq

/-- The category that a merge is about. -/
def Merge.category (m : Merge) : Category := m.composite.category

namespace StoredCondition

variable {x y : StoredCondition} {c d : Composite} {now now' : Instant} {xs : List StoredCondition}

/-! ### Two changes to the stored list -/

theorem refreshFirst_comm (h : c.category ≠ d.category) :
    refreshFirst d now' (refreshFirst c now xs) = refreshFirst c now (refreshFirst d now' xs) := by
  induction xs with
  | nil => rfl
  | cons y ys ih =>
    by_cases hc : y.category = c.category
    · have hd : y.category ≠ d.category := hc ▸ h
      have hd' : (y.refresh c now).category ≠ d.category := hd
      rw [refreshFirst_cons_of_eq hc, refreshFirst_cons_of_ne hd, refreshFirst_cons_of_ne hd',
        refreshFirst_cons_of_eq hc]
    by_cases hd : y.category = d.category
    · have hc' : (y.refresh d now').category ≠ c.category := hc
      rw [refreshFirst_cons_of_eq hd, refreshFirst_cons_of_ne hc, refreshFirst_cons_of_ne hc',
        refreshFirst_cons_of_eq hd]
    · rw [refreshFirst_cons_of_ne hc, refreshFirst_cons_of_ne hd, refreshFirst_cons_of_ne hd,
        refreshFirst_cons_of_ne hc, ih]

/-- Where a new condition is put does not depend on what the others say. -/
theorem refreshFirst_insert (h : x.category ≠ c.category) :
    refreshFirst c now (insert x xs) = insert x (refreshFirst c now xs) := by
  induction xs with
  | nil => exact refreshFirst_cons_of_ne h
  | cons y ys ih =>
    by_cases hc : y.category = c.category
    · rw [refreshFirst_cons_of_eq hc]
      by_cases hlt : x.category < y.category
      · have hlt' : x.category < (y.refresh c now).category := hlt
        rw [insert_cons_of_lt hlt, insert_cons_of_lt hlt', refreshFirst_cons_of_ne h,
          refreshFirst_cons_of_eq hc]
      · have hlt' : ¬x.category < (y.refresh c now).category := hlt
        rw [insert_cons_of_not_lt hlt, insert_cons_of_not_lt hlt', refreshFirst_cons_of_eq hc]
    · rw [refreshFirst_cons_of_ne hc]
      by_cases hlt : x.category < y.category
      · rw [insert_cons_of_lt hlt, insert_cons_of_lt hlt, refreshFirst_cons_of_ne h,
          refreshFirst_cons_of_ne hc]
      · rw [insert_cons_of_not_lt hlt, insert_cons_of_not_lt hlt, refreshFirst_cons_of_ne hc, ih]

theorem insert_comm_of_lt (h : x.category < y.category) :
    insert y (insert x xs) = insert x (insert y xs) := by
  have hyx : ¬y.category < x.category := Category.lt_asymm h
  induction xs with
  | nil => exact (insert_cons_of_not_lt hyx).trans (insert_cons_of_lt h).symm
  | cons z zs ih =>
    by_cases hxz : x.category < z.category
    · rw [insert_cons_of_lt hxz, insert_cons_of_not_lt hyx]
      by_cases hyz : y.category < z.category
      · rw [insert_cons_of_lt hyz, insert_cons_of_lt h]
      · rw [insert_cons_of_not_lt hyz, insert_cons_of_lt hxz]
    · -- what the first one comes after, the second one does too
      have hyz : ¬y.category < z.category := fun hyz ↦ hxz (Category.lt_trans h hyz)
      rw [insert_cons_of_not_lt hxz, insert_cons_of_not_lt hyz, insert_cons_of_not_lt hyz,
        insert_cons_of_not_lt hxz, ih]

/-- Two new conditions come to lie in the order of their categories. -/
theorem insert_comm (h : x.category ≠ y.category) :
    insert y (insert x xs) = insert x (insert y xs) := by
  by_cases hxy : x.category < y.category
  · exact insert_comm_of_lt hxy
  · exact (insert_comm_of_lt (Category.lt_of_not_lt hxy h)).symm

end StoredCondition

namespace Record

variable {r r' : Record} {c d : Composite} {now now' : Instant} {k : Category}

/-! ### Two merges -/

/-- **Merges of different categories commute.** -/
theorem set_comm (h : c.category ≠ d.category) :
    (r.set c now).set d now' = (r.set d now').set c now := by
  have hd : (r.set c now).find d.category = r.find d.category := by
    rw [find_set, if_neg h.symm]
  have hc : (r.set d now').find c.category = r.find c.category := by
    rw [find_set, if_neg h]
  have hx : (StoredCondition.ofComposite c now).category ≠ d.category := h
  have hy : (StoredCondition.ofComposite d now').category ≠ c.category := h.symm
  rcases hcfind : r.find c.category with - | x <;> rcases hdfind : r.find d.category with - | y
  case none.none =>
    rw [set_of_find_eq_none (hd.trans hdfind), set_of_find_eq_none (hc.trans hcfind),
      set_of_find_eq_none hcfind, set_of_find_eq_none hdfind, StoredCondition.insert_comm h]
  case none.some =>
    rw [set_of_find_eq_some (hd.trans hdfind), set_of_find_eq_none (hc.trans hcfind),
      set_of_find_eq_none hcfind, set_of_find_eq_some hdfind, StoredCondition.refreshFirst_insert hx]
  case some.none =>
    rw [set_of_find_eq_none (hd.trans hdfind), set_of_find_eq_some (hc.trans hcfind),
      set_of_find_eq_some hcfind, set_of_find_eq_none hdfind, StoredCondition.refreshFirst_insert hy]
  case some.some =>
    rw [set_of_find_eq_some (hd.trans hdfind), set_of_find_eq_some (hc.trans hcfind),
      set_of_find_eq_some hcfind, set_of_find_eq_some hdfind, StoredCondition.refreshFirst_comm h]

/-! ### Runs of merges -/

/-- Merges composites one after the other, each at its own instant. -/
def mergeAll (r : Record) : List Merge → Record
  | [] => r
  | m :: ms => (r.set m.composite m.now).mergeAll ms

/-- What is told of each merge of a run: the change of status that it makes, if any. -/
def told (r : Record) : List Merge → List (Merge × Option Transition)
  | [] => []
  | m :: ms => (m, r.transition m.composite) :: (r.set m.composite m.now).told ms

variable {ms ns : List Merge}

/-- What a pass does with its composites is a run of merges at one instant. -/
theorem setAll_eq_mergeAll {cs : List Composite} :
    setAll now cs r = (r.mergeAll (cs.map (⟨·, now⟩)),
      (r.told (cs.map (⟨·, now⟩))).filterMap (·.2)) := by
  induction cs generalizing r with
  | nil => rfl
  | cons c cs ih =>
    rw [setAll_cons, ih, List.map_cons, mergeAll, told, List.filterMap_cons]
    rcases r.transition c with - | t <;> rfl

theorem mergeAll_append : r.mergeAll (ms ++ ns) = (r.mergeAll ms).mergeAll ns := by
  induction ms generalizing r with
  | nil => rfl
  | cons m ms ih => exact ih

/-- A merge may be put off behind merges of other categories. -/
theorem mergeAll_set (h : ∀ n ∈ ms, n.category ≠ c.category) :
    (r.set c now).mergeAll ms = (r.mergeAll ms).set c now := by
  induction ms generalizing r with
  | nil => rfl
  | cons m ms ih =>
    obtain ⟨hm, hms⟩ := List.forall_mem_cons.1 h
    rw [mergeAll, set_comm hm.symm, ih hms, mergeAll]

/-- **Runs that agree on each category end in the same record.** -/
theorem mergeAll_congr
    (h : ∀ k, ms.filter (·.category = k) = ns.filter (·.category = k)) :
    r.mergeAll ms = r.mergeAll ns := by
  induction ms generalizing r ns with
  | nil =>
    have hns : ns = [] := by
      refine List.eq_nil_iff_forall_not_mem.2 fun n hn ↦ ?_
      have hmem : n ∈ ns.filter (·.category = n.category) :=
        List.mem_filter.2 ⟨hn, decide_eq_true rfl⟩
      rw [← h n.category] at hmem
      exact List.not_mem_nil hmem
    rw [hns]
  | cons m ms ih =>
    -- the first merge of its category in the other run is the same one
    have hm : ns.filter (·.category = m.category) =
        m :: ms.filter (·.category = m.category) := by
      rw [← h m.category, List.filter_cons_of_pos (by simp)]
    obtain ⟨before, after, rfl, hbefore, -, hafter⟩ := List.filter_eq_cons_iff.1 hm
    replace hbefore : ∀ n ∈ before, n.category ≠ m.category := by simpa using hbefore
    rw [mergeAll, mergeAll_append, mergeAll, ← mergeAll_set hbefore, ← mergeAll_append]
    refine ih fun k ↦ ?_
    by_cases hk : m.category = k
    · subst hk
      have hnone : before.filter (·.category = m.category) = [] :=
        List.filter_eq_nil_iff.2 (by simpa using hbefore)
      rw [List.filter_append, hnone, List.nil_append, hafter]
    · have hrest := h k
      rwa [List.filter_cons_of_neg (by simpa using hk), List.filter_append,
        List.filter_cons_of_neg (by simpa using hk), ← List.filter_append] at hrest

/-! ### What is told -/

/-- Merges of one category see nothing of a record but the status of that category. -/
theorem told_congr (hms : ∀ m ∈ ms, m.category = k) (h : r.statuses k = r'.statuses k) :
    r.told ms = r'.told ms := by
  induction ms generalizing r r' with
  | nil => rfl
  | cons m ms ih =>
    obtain ⟨hm, hms⟩ := List.forall_mem_cons.1 hms
    replace hm : m.composite.category = k := hm
    have htransition : r.transition m.composite = r'.transition m.composite := by
      rw [transition_eq, transition_eq, hm, h]
    rw [told, told, htransition]
    refine congrArg _ (ih hms ?_)
    rw [statuses_set, statuses_set, hm, Function.update_self, Function.update_self]

/-- **A category is told of as if there were no other.** -/
theorem filter_told : (r.told ms).filter (·.1.category = k) =
    r.told (ms.filter (·.category = k)) := by
  induction ms generalizing r with
  | nil => rfl
  | cons m ms ih =>
    rw [told]
    by_cases hm : m.category = k
    · rw [List.filter_cons_of_pos (by simpa using hm), List.filter_cons_of_pos (by simpa using hm),
        told, ih]
    · rw [List.filter_cons_of_neg (by simpa using hm), List.filter_cons_of_neg (by simpa using hm),
        ih]
      have hm' : k ≠ m.composite.category := Ne.symm hm
      refine told_congr (fun n hn ↦ by simpa using (List.mem_filter.1 hn).2) ?_
      rw [statuses_set, Function.update_of_ne hm']

/-- **The changes of a status lead from one to the next**, and the first one starts from what is
stored. The induction is on the merges: one that makes no change leaves the status as it is. -/
theorem chain_told :
    let ts := ((r.told ms).filterMap (·.2)).filter (·.category = k)
    (∀ t ∈ ts.head?, t.previous = r.statuses k) ∧
      ts.IsChain fun t next ↦ next.previous = some t.current := by
  induction ms generalizing r with
  | nil => exact ⟨by simp [told], by simp [told]⟩
  | cons m ms ih =>
    obtain ⟨hfirst, hchain⟩ := ih (r := r.set m.composite m.now)
    rw [told, transition_eq]
    split
    · next hstatus =>
      rw [statuses_set, ← hstatus, Function.update_eq_self] at hfirst
      rw [List.filterMap_cons_none rfl]
      exact ⟨hfirst, hchain⟩
    · rw [statuses_set] at hfirst
      simp only [List.filterMap_cons]
      by_cases hk : m.composite.category = k
      · subst hk
        rw [Function.update_self] at hfirst
        rw [List.filter_cons_of_pos (by simp), List.isChain_cons]
        exact ⟨by simp, hfirst, hchain⟩
      · rw [Function.update_of_ne (Ne.symm hk)] at hfirst
        rw [List.filter_cons_of_neg (by simpa using hk)]
        exact ⟨hfirst, hchain⟩

/-- **Merges of different categories may change places.** Runs that agree on each category end in
the same record, whatever is stored and in which order, and each merge makes the same change of
status in both. In each category the changes lead from one to the next, starting from the status
that is stored. -/
theorem merges_interleaved (r : Record) (ms ns : List Merge) :
    ((∀ k, ms.filter (·.category = k) = ns.filter (·.category = k)) →
      r.mergeAll ms = r.mergeAll ns ∧
      ∀ k, (r.told ms).filter (·.1.category = k) = (r.told ns).filter (·.1.category = k)) ∧
    ∀ k, let ts := ((r.told ms).filterMap (·.2)).filter (·.category = k)
      (∀ t ∈ ts.head?, t.previous = (r.find k).map (·.status)) ∧
      ts.IsChain fun t next ↦ next.previous = some t.current := by
  refine ⟨fun h ↦ ⟨mergeAll_congr h, fun k ↦ ?_⟩, fun k ↦ chain_told⟩
  rw [filter_told, filter_told, h k]

/-- A stored list that is out of order, that repeats one category and lacks another. Four merges in
two orders, which put in the missing category first and last: what is available goes from yes to no
and back, and the rest of the list does not see when. -/
theorem merges_interleaved_unsorted :
    let day0 : Instant := ⟨0, 0, 0, by decide⟩
    let day1 : Instant := ⟨1, 0, 0, by decide⟩
    let day2 : Instant := ⟨2, 0, 0, by decide⟩
    let day3 : Instant := ⟨3, 0, 0, by decide⟩
    let day4 : Instant := ⟨4, 0, 0, by decide⟩
    let available : StoredCondition := ⟨.available, .yes, "AsExpected", "", day0⟩
    let degraded : StoredCondition := ⟨.degraded, .no, "AsExpected", "", day0⟩
    let r : Record := ⟨"operator", 1, [available, degraded, available], []⟩
    let moves : Merge := ⟨⟨.progressing, .yes, "Rollout", "", none⟩, day1⟩
    let fails : Merge := ⟨⟨.available, .no, "Offline", "", none⟩, day2⟩
    let rests : Merge := ⟨⟨.degraded, .no, "Idle", "", none⟩, day3⟩
    let heals : Merge := ⟨⟨.available, .yes, "Online", "", none⟩, day4⟩
    let ts := ((r.told [moves, fails, rests, heals]).filterMap (·.2)).filter
      (·.category = .available)
    r.mergeAll [moves, fails, rests, heals] = r.mergeAll [fails, heals, rests, moves] ∧
      (r.told [fails, heals, rests, moves]).filter (·.1.category = .available) =
        [(fails, some ⟨.available, some .yes, .no, "Offline"⟩),
          (heals, some ⟨.available, some .no, .yes, "Online"⟩)] ∧
      (∀ t ∈ ts.head?, t.previous = some .yes) ∧
      ts.IsChain fun t next ↦ next.previous = some t.current := by
  intro day0 day1 day2 day3 day4 available degraded r moves fails rests heals ts
  obtain ⟨hcommute, hchain⟩ :=
    merges_interleaved r [moves, fails, rests, heals] [fails, heals, rests, moves]
  obtain ⟨hrecord, htold⟩ := hcommute (by rintro (_ | _ | _) <;> rfl)
  refine ⟨hrecord, ?_, hchain .available⟩
  rw [← htold .available]
  rfl

end Record

end StatusRollup
