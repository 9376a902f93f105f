import StatusRollup.Proofs.Unions

/-!
# Categories keep to themselves

An aggregate sorts the conditions by category once and then looks at one category at a time. So the
entry of a category depends on the conditions of that category alone, in their order
(`aggregate_isolated`), and of policy and time it sees nothing unless its failures are held back,
which is so for degraded ones only.

Which entries there are and when they are unknown is asymmetric (`aggregate_presence`).

* The degraded composite is always there. It is unknown exactly when no condition is degraded:
  nobody being able to tell about a condition (`Condition.IsDoubt`) does not make the composite
  unknown, since a doubt never outlasts a hold.
* Any other composite is there exactly when the category has conditions. It is unknown as soon as
  one of them is.

Both rest on `classify_eq_some_iff`: no suffix ends in another one, so that a type carries the
suffix of one category at most.
-/

namespace StatusRollup

/-! ### One category per type -/

/-- A type carries one suffix at most. Of two suffixes of one text one is a suffix of the other, and
no two suffixes of categories are. -/
theorem Category.eq_of_carries {a b : Category} {type : String} (ha : a.carries type = true)
    (hb : b.carries type = true) : a = b := by
  have hsuffix := List.suffix_or_suffix_of_suffix (List.isSuffixOf_iff_suffix.1 ha)
    (List.isSuffixOf_iff_suffix.1 hb)
  revert hsuffix
  cases a <;> cases b <;> decide

/-- Whichever order the categories are tried in, the one whose suffix the type carries is found. -/
theorem Category.find?_carries_eq_some_iff {order : List Category} (horder : ∀ c, c ∈ order)
    {type : String} {k : Category} :
    (order.find? fun c ↦ c.carries type) = some k ↔ k.carries type = true := by
  constructor
  · intro h
    exact List.find?_some (p := fun c : Category ↦ c.carries type) h
  · intro h
    cases hfound : order.find? fun c ↦ c.carries type with
    | none => exact absurd h (List.find?_eq_none.1 hfound k (horder k))
    | some c =>
      have hc : c.carries type = true :=
        List.find?_some (p := fun c : Category ↦ c.carries type) hfound
      rw [Category.eq_of_carries hc h]

/-- **A type belongs to a category exactly when it carries the category's suffix.** -/
theorem classify_eq_some_iff {type : String} {k : Category} :
    classify type = some k ↔ k.carries type = true :=
  Category.find?_carries_eq_some_iff Category.mem_all

/-- **The stem of a type** is what stands before the category's suffix. -/
theorem Category.stem_eq_some_iff {k : Category} {type stem : String} :
    k.stem type = some stem ↔ type = stem ++ k.suffix := by
  rw [Category.stem]
  constructor
  · intro h
    obtain ⟨hcarries, hstem⟩ := Option.ite_none_right_eq_some.1 h
    obtain ⟨cs, hcs⟩ := List.isSuffixOf_iff_suffix.1 hcarries
    rw [← hcs, List.length_append, Nat.add_sub_cancel, List.take_left] at hstem
    rw [← String.toList_inj, ← hcs, ← Option.some.inj hstem, String.toList_append,
      String.toList_ofList]
  · rintro rfl
    have hcarries : k.carries (stem ++ k.suffix) = true :=
      List.isSuffixOf_iff_suffix.2 ⟨stem.toList, String.toList_append.symm⟩
    rw [if_pos hcarries, String.toList_append, List.length_append, Nat.add_sub_cancel,
      List.take_left, String.ofList_toList]

variable {policy : Policy} {now : Instant} {xs ys : List Condition} {k : Category} {c : Composite}

theorem Grouped.mem_get_iff {x : Condition} :
    x ∈ (Grouped.ofList xs).get k ↔ x ∈ xs ∧ classify x.type = some k := by
  rw [Grouped.get_ofList, List.mem_filter, decide_eq_true_eq]

theorem Grouped.get_ne_nil_iff :
    (Grouped.ofList xs).get k ≠ [] ↔ ∃ x ∈ xs, classify x.type = some k := by
  constructor
  · intro h
    obtain ⟨x, hx⟩ := List.exists_mem_of_ne_nil _ h
    exact ⟨x, mem_get_iff.1 hx⟩
  · rintro ⟨x, hx⟩
    exact List.ne_nil_of_mem (mem_get_iff.2 hx)

/-! ### Isolation -/

/-- Only the failures of degraded conditions are held back. -/
theorem Category.policyFor_eq_none (hk : k ≠ .degraded) : k.policyFor policy = none := by
  cases k with
  | degraded => exact absurd rfl hk
  | progressing => rfl
  | available => rfl

/-- Without a policy the time does not matter. -/
theorem Category.composite?_none {now' : Instant} :
    k.composite? none now xs = k.composite? none now' xs := rfl

/-- **Isolation.** Two lists that have the same conditions of a category in the same order give the
category the same entry or none, whatever else they have and wherever they have it. Except for
degraded conditions this is so under any two policies and at any two times. -/
theorem aggregate_isolated (k : Category) (xs ys : List Condition)
    (h : (xs.filter fun x ↦ classify x.type = some k) =
      ys.filter fun y ↦ classify y.type = some k) :
    (∀ policy now, Composite.lookup (aggregate policy now xs) k =
      Composite.lookup (aggregate policy now ys) k) ∧
    (k ≠ .degraded → ∀ policy policy' now now', Composite.lookup (aggregate policy now xs) k =
      Composite.lookup (aggregate policy' now' ys) k) := by
  have hget : (Grouped.ofList xs).get k = (Grouped.ofList ys).get k := by
    rw [Grouped.get_ofList, Grouped.get_ofList, h]
  constructor
  · intro policy now
    rw [lookup_aggregate, lookup_aggregate, hget]
  · intro hk policy policy' now now'
    rw [lookup_aggregate, lookup_aggregate, hget, Category.policyFor_eq_none hk,
      Category.policyFor_eq_none hk, Category.composite?_none]

/-- Two aggregates, at different times and under different policies, whose conditions agree on what
is available but on nothing else, a type without a suffix among them. Both have the same entry. -/
theorem aggregate_isolated_available :
    let api : Condition := ⟨"ApiAvailable", .no, ⟨19783, 43000, 0, by decide⟩, "Down", ""⟩
    let node : Condition := ⟨"NodeAvailable", .yes, ⟨19783, 43100, 0, by decide⟩, "", ""⟩
    let disk : Condition := ⟨"DiskDegraded", .yes, ⟨19783, 100, 0, by decide⟩, "", "sda"⟩
    let other : Condition := ⟨"DegradedDisk", .unknown, ⟨0, 0, 0, by decide⟩, "", ""⟩
    let now : Instant := ⟨19783, 43200, 0, by decide⟩
    let later : Instant := ⟨19784, 0, 0, by decide⟩
    ([disk, api, node].filter fun x ↦ classify x.type = some .available) =
        ([api, other, node, other].filter fun x ↦ classify x.type = some .available) ∧
      Composite.lookup (aggregate .none now [disk, api, node]) .available =
        Composite.lookup (aggregate ⟨.ofSeconds 9, []⟩ later [api, other, node, other])
          .available := by
  intro api node disk other now later
  have h : ([disk, api, node].filter fun x ↦ classify x.type = some .available) =
      [api, other, node, other].filter fun x ↦ classify x.type = some .available := by
    decide
  exact ⟨h, (aggregate_isolated .available _ _ h).2 (by decide) _ _ _ _⟩

/-! ### Which entries there are -/

/-- A category comes to a composite if it has conditions, and the degraded one in any case. -/
theorem Category.exists_composite?_iff {policy : Option Policy} :
    (∃ c, k.composite? policy now xs = some c) ↔ k = .degraded ∨ xs ≠ [] := by
  by_cases hxs : xs = []
  · rw [hxs, or_iff_left (not_not_intro rfl), composite?_nil]
    by_cases hk : k = .degraded
    · rw [if_pos hk]
      exact iff_of_true ⟨_, rfl⟩ hk
    · rw [if_neg hk]
      exact iff_of_false (fun ⟨c, hc⟩ ↦ absurd hc.symm (Option.some_ne_none c)) hk
  · obtain ⟨c, hc, -⟩ := Composite.exists_sumsUp k policy now hxs
    exact iff_of_true ⟨c, hc⟩ (.inr hxs)

theorem reports_aggregate_iff :
    Composite.reports (aggregate policy now xs) k = true ↔
      k = .degraded ∨ ∃ x ∈ xs, classify x.type = some k := by
  have hexists : (∃ c, Composite.lookup (aggregate policy now xs) k = some c) ↔
      k = .degraded ∨ (Grouped.ofList xs).get k ≠ [] := by
    rw [lookup_aggregate, Category.exists_composite?_iff]
  rw [← Grouped.get_ne_nil_iff, ← hexists, Composite.reports_iff]
  simp only [Composite.lookup_eq_some_iff pairwise_aggregate]

/-! ### When entries are unknown -/

/-- A degraded condition that nobody can tell about. -/
def Condition.IsDoubt (x : Condition) : Prop :=
  classify x.type = some .degraded ∧ x.status = .unknown

/-- Without degraded conditions there is no data. -/
theorem lookup_degraded_of_not (h : ¬∃ x ∈ xs, classify x.type = some .degraded) :
    Composite.lookup (aggregate policy now xs) .degraded = some (.withoutData .degraded) := by
  rw [lookup_degraded, Decidable.not_not.1 (mt Grouped.get_ne_nil_iff.1 h)]
  rfl

/-- With degraded conditions the composite is not unknown: nothing but a failure escalates. -/
theorem status_degraded_ne_unknown (h : ∃ x ∈ xs, classify x.type = some .degraded)
    (hc : Composite.lookup (aggregate policy now xs) .degraded = some c) : c.status ≠ .unknown := by
  rw [lookup_degraded] at hc
  have hsum := Composite.sumsUp_of_composite? (Grouped.get_ne_nil_iff.2 h) hc
  rw [hsum.status]
  exact Category.verdict_escalating_ne_unknown

/-- **The degraded composite is unknown exactly when no condition is degraded.** -/
theorem status_degraded_eq_unknown_iff
    (hc : Composite.lookup (aggregate policy now xs) .degraded = some c) :
    c.status = .unknown ↔ ¬∃ x ∈ xs, classify x.type = some .degraded := by
  constructor
  · exact fun hunknown h ↦ status_degraded_ne_unknown h hc hunknown
  · intro h
    rw [Option.some.inj (hc.symm.trans (lookup_degraded_of_not h))]
    rfl

/-- **Doubts have no say.** Lists of conditions that differ in doubts alone give the degraded
composite the same status, as long as both have degraded conditions or neither has. -/
theorem status_degraded_congr {d : Composite} (h : ∀ x : Condition, x.IsDoubt ∨ (x ∈ xs ↔ x ∈ ys))
    (hc : Composite.lookup (aggregate policy now xs) .degraded = some c)
    (hd : Composite.lookup (aggregate policy now ys) .degraded = some d) :
    c.status = d.status ↔
      ((∃ x ∈ xs, classify x.type = some .degraded) ↔
        ∃ y ∈ ys, classify y.type = some .degraded) := by
  have hunknown := status_degraded_eq_unknown_iff hc
  have hunknown' := status_degraded_eq_unknown_iff hd
  constructor
  · intro hstatus
    refine Decidable.not_iff_not.1 ?_
    rw [← hunknown, ← hunknown', hstatus]
  · intro hsame
    -- what escalates is no doubt, so it is in both lists or in neither
    have hescalates (x : Condition) (hx : x.Escalates policy now) : x ∈ xs ↔ x ∈ ys :=
      (h x).resolve_left fun hdoubt ↦ by cases hdoubt.2.symm.trans hx.2.1
    have hyes : c.status = .yes ↔ d.status = .yes := by
      obtain ⟨c', hc', hfails, -⟩ := exists_degraded policy now xs
      obtain ⟨d', hd', hfails', -⟩ := exists_degraded policy now ys
      obtain rfl := Option.some.inj (hc.symm.trans hc')
      obtain rfl := Option.some.inj (hd.symm.trans hd')
      rw [hfails, hfails']
      exact exists_congr fun x ↦ and_congr_left (hescalates x)
    have hno : c.status = .unknown ↔ d.status = .unknown := by
      rw [hunknown, hunknown', hsame]
    generalize c.status = s at hyes hno
    generalize d.status = s' at hyes hno
    revert hyes hno
    cases s <;> cases s' <;> decide

/-- Without a policy the composite is healthy if all its conditions are, and unknown if one is. -/
theorem status_of_lookup (hk : k ≠ .degraded)
    (hc : Composite.lookup (aggregate policy now xs) k = some c) :
    (c.status = k.healthy ↔ ∀ x ∈ xs, classify x.type = some k → x.status = k.healthy) ∧
      (c.status = .unknown ↔ ∃ x ∈ xs, classify x.type = some k ∧ x.status = .unknown) := by
  rw [lookup_aggregate, Category.policyFor_eq_none hk] at hc
  have hne : (Grouped.ofList xs).get k ≠ [] :=
    (Category.exists_composite?_iff.1 ⟨c, hc⟩).resolve_left hk
  have hsum := Composite.sumsUp_of_composite? hne hc
  have hescalating (x : Condition) : x ∈ k.escalating none now ((Grouped.ofList xs).get k) ↔
      (x ∈ xs ∧ classify x.type = some k) ∧ x.status ≠ k.healthy := by
    rw [← Grouped.mem_get_iff]
    exact List.mem_filter.trans (and_congr_right fun _ ↦ decide_eq_true_iff)
  rw [hsum.status, Category.verdict_eq_healthy_iff, Category.verdict_eq_unknown_iff,
    List.eq_nil_iff_forall_not_mem]
  simp only [hescalating]
  constructor
  · exact forall_congr' fun x ↦ by
      rw [not_and, and_imp, Decidable.not_not]
  · refine exists_congr fun x ↦ ?_
    have hhealthy : x.status = .unknown → x.status ≠ k.healthy := by
      intro hunknown
      rw [hunknown]
      cases k <;> decide
    grind

/-- **What is reported, and what is unknown about it.** The entries are the degraded one and those
of the categories whose suffix some type carries. The degraded entry is unknown exactly without
degraded conditions, and then has nothing to say; it reports a failure exactly if a condition
escalates. So doubts alter its status in no number and at no age: lists that differ in doubts alone
have the same one, unless one list has degraded conditions and the other has none, where the first
degraded condition, doubt or not, ends the lack of data. Any other entry is healthy exactly if all
conditions of its category are, and unknown exactly if one of them is. -/
theorem aggregate_presence (policy : Policy) (now : Instant) (xs : List Condition) :
    (∀ k : Category, Composite.reports (aggregate policy now xs) k = true ↔
      k = .degraded ∨ ∃ x ∈ xs, k.carries x.type = true) ∧
    (∃ c, Composite.lookup (aggregate policy now xs) .degraded = some c ∧
      (c.status = .unknown ↔ ¬∃ x ∈ xs, classify x.type = some .degraded) ∧
      (c.status = .unknown → c.reason = "NoData" ∧ c.message = "" ∧ c.since = none) ∧
      (c.status = .yes ↔ ∃ x ∈ xs, x.Escalates policy now) ∧
      ∀ ys, (∀ x : Condition, x.IsDoubt ∨ (x ∈ xs ↔ x ∈ ys)) →
        ∃ d, Composite.lookup (aggregate policy now ys) .degraded = some d ∧
          (c.status = d.status ↔
            ((∃ x ∈ xs, classify x.type = some .degraded) ↔
              ∃ y ∈ ys, classify y.type = some .degraded))) ∧
    ∀ k : Category, k ≠ .degraded → ∀ c,
      Composite.lookup (aggregate policy now xs) k = some c →
        (c.status = k.healthy ↔ ∀ x ∈ xs, classify x.type = some k → x.status = k.healthy) ∧
        (c.status = .unknown ↔ ∃ x ∈ xs, classify x.type = some k ∧ x.status = .unknown) := by
  refine ⟨fun k ↦ ?_, ?_, fun k hk c hc ↦ status_of_lookup hk hc⟩
  · rw [reports_aggregate_iff]
    simp only [classify_eq_some_iff]
  · obtain ⟨c, hc, hfails, -⟩ := exists_degraded policy now xs
    refine ⟨c, hc, status_degraded_eq_unknown_iff hc, fun hunknown ↦ ?_, hfails, fun ys h ↦ ?_⟩
    · have hnone := (status_degraded_eq_unknown_iff hc).1 hunknown
      obtain rfl := Option.some.inj (hc.symm.trans (lookup_degraded_of_not hnone))
      exact ⟨rfl, rfl, rfl⟩
    · obtain ⟨d, hd, -⟩ := exists_degraded policy now ys
      exact ⟨d, hd, status_degraded_congr h hc hd⟩

/-- A disk that fails is held back, and doubts about a tape, old ones among them, leave it at that.
A doubt about what is available does count, and nothing is said about progress. -/
theorem aggregate_presence_tape :
    let disk : Condition := ⟨"DiskDegraded", .yes, ⟨19783, 43190, 0, by decide⟩, "", ""⟩
    let tape : Condition := ⟨"TapeDegraded", .unknown, ⟨0, 0, 0, by decide⟩, "", ""⟩
    let api : Condition := ⟨"ApiAvailable", .unknown, ⟨19783, 43000, 0, by decide⟩, "", ""⟩
    let now : Instant := ⟨19783, 43200, 0, by decide⟩
    let policy : Policy := ⟨.ofSeconds 120, []⟩
    (∃ d, Composite.lookup (aggregate policy now [tape, disk, tape, api]) .degraded = some d ∧
      d.status = .no) ∧
    (∃ c, Composite.lookup (aggregate policy now [disk, api]) .available = some c ∧
      c.status = .unknown) ∧
    Composite.reports (aggregate policy now [disk, api]) .progressing = false := by
  intro disk tape api now policy
  obtain ⟨hreports, ⟨c, hc, hunknown, -, hfails, hdoubts⟩, hothers⟩ :=
    aggregate_presence policy now [disk, api]
  have htape : tape.IsDoubt := ⟨by decide, rfl⟩
  obtain ⟨d, hd, hsame⟩ := hdoubts [tape, disk, tape, api] fun x ↦ by
    by_cases hx : x = tape
    · exact .inl (hx ▸ htape)
    · exact .inr (by simp [hx])
  have havailable : Composite.lookup (aggregate policy now [disk, api]) .available =
      some ⟨.available, .unknown, "Api", "", some api.since⟩ := by
    decide
  refine ⟨⟨d, hd, ?_⟩, ⟨_, havailable, ?_⟩, ?_⟩
  · have hstatus : c.status = d.status := hsame.2 (by decide)
    rw [← hstatus]
    have hknown : c.status ≠ .unknown := mt hunknown.1 (by decide)
    have hheld : c.status ≠ .yes := by
      rw [ne_eq, hfails]
      rintro ⟨x, hx, hescalates⟩
      rcases List.mem_cons.1 hx with rfl | hx
      · exact absurd hescalates.2.2 (by decide)
      · obtain rfl := List.mem_singleton.1 hx
        exact absurd hescalates.1 (by decide)
    revert hknown hheld
    cases c.status <;> decide
  · exact (hothers .available (by decide) _ havailable).2.2 ⟨api, by decide, by decide, rfl⟩
  · rw [← Bool.not_eq_true, hreports]
    decide

end StatusRollup
