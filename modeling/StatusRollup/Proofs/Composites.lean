import StatusRollup.Aggregate

/-!
# The shape of an aggregate

Whatever the conditions, the policy and the instant, an aggregate is a list of composites in the
strict order of their categories (`pairwise_aggregate`). Hence a category has at most one composite,
and a composite belongs to the aggregate exactly when it is what its own category comes to
(`mem_aggregate_iff`).

The order is that of `Category.all`, which the aggregate runs through once; nothing here depends on
what the composites say.

Read by category (`Composite.lookup`), an aggregate is a map: each category comes to what its own
conditions come to (`lookup_aggregate`), and these are the conditions whose type belongs to it, in
their order (`Grouped.get_ofList`).
-/

namespace StatusRollup

namespace Category

theorem lt_irrefl (c : Category) : ¬ c < c := Nat.lt_irrefl c.rank

theorem ne_of_lt {a b : Category} (h : a < b) : a ≠ b := by
  rintro rfl
  exact lt_irrefl a h

theorem lt_trans {a b c : Category} (hab : a < b) (hbc : b < c) : a < c := Nat.lt_trans hab hbc

theorem lt_asymm {a b : Category} (h : a < b) : ¬b < a := Nat.lt_asymm h

/-- Two categories are in order one way or the other. -/
theorem lt_of_not_lt {a b : Category} (h : ¬a < b) (hne : a ≠ b) : b < a := by
  revert h hne
  cases a <;> cases b <;> decide

theorem pairwise_all : all.Pairwise (· < ·) := by decide

/-- The composite of a category carries that category. -/
theorem category_of_composite? {c : Category} {policy : Option Policy} {now : Instant}
    {xs : List Condition} {x : Composite} (h : c.composite? policy now xs = some x) :
    x.category = c := by
  simp only [composite?] at h
  split at h
  · split at h
    · exact (Option.some.inj h) ▸ rfl
    · exact absurd h (by simp)
  · split at h <;> exact (Option.some.inj h) ▸ rfl

end Category

variable {policy : Policy} {now : Instant} {xs : List Condition}

/-- **Membership by category**: the aggregate holds what each category comes to and nothing else. -/
theorem mem_aggregate_iff {x : Composite} :
    x ∈ aggregate policy now xs ↔
      x.category.composite? (x.category.policyFor policy) now
        ((Grouped.ofList xs).get x.category) = some x := by
  rw [aggregate, List.mem_filterMap]
  constructor
  · rintro ⟨c, -, hc⟩
    obtain rfl := Category.category_of_composite? hc
    exact hc
  · exact fun h ↦ ⟨x.category, Category.mem_all _, h⟩

/-- **Category order**: composites are listed in the strict order of their categories. -/
theorem pairwise_aggregate :
    (aggregate policy now xs).Pairwise fun a b ↦ a.category < b.category := by
  rw [aggregate, List.pairwise_filterMap]
  refine Category.pairwise_all.imp fun {c d} hcd a ha b hb ↦ ?_
  rw [Category.category_of_composite? ha, Category.category_of_composite? hb]
  exact hcd

namespace Composite

theorem reports_iff {cs : List Composite} {k : Category} :
    reports cs k = true ↔ ∃ c ∈ cs, c.category = k := by
  simp [reports]

theorem reports_of_mem {cs : List Composite} {c : Composite} (h : c ∈ cs) :
    reports cs c.category = true :=
  reports_iff.2 ⟨c, h, rfl⟩

/-- The composite of a category, if the category is reported. -/
def lookup (cs : List Composite) (k : Category) : Option Composite :=
  cs.find? fun c ↦ c.category = k

theorem lookup_cons {c : Composite} {cs : List Composite} {k : Category} :
    lookup (c :: cs) k = if c.category = k then some c else lookup cs k := by
  rw [lookup, List.find?_cons]
  by_cases hk : c.category = k
  · rw [decide_eq_true hk, if_pos hk]
  · rw [decide_eq_false hk, if_neg hk, lookup]

theorem mem_of_lookup {cs : List Composite} {k : Category} {c : Composite}
    (h : lookup cs k = some c) : c ∈ cs ∧ c.category = k :=
  ⟨List.mem_of_find?_eq_some h, by simpa using List.find?_some h⟩

/-- In category order a category has one composite, so looking it up finds that one. -/
theorem lookup_eq_some_iff {cs : List Composite} {k : Category} {c : Composite}
    (hcs : cs.Pairwise fun a b ↦ a.category < b.category) :
    lookup cs k = some c ↔ c ∈ cs ∧ c.category = k := by
  refine ⟨mem_of_lookup, ?_⟩
  rintro ⟨hc, rfl⟩
  induction cs with
  | nil => exact absurd hc List.not_mem_nil
  | cons d ds ih =>
    obtain ⟨hlt, hds⟩ := List.pairwise_cons.1 hcs
    rcases List.mem_cons.1 hc with rfl | hmem
    · exact List.find?_cons_of_pos (by simp)
    · have hne : d.category ≠ c.category := Category.ne_of_lt (hlt c hmem)
      exact (List.find?_cons_of_neg (by simpa using hne)).trans (ih hds hmem)

/-- A category that no composite is of is not found. -/
theorem lookup_eq_none {cs : List Composite} {k : Category} (h : ∀ c ∈ cs, c.category ≠ k) :
    lookup cs k = none :=
  List.find?_eq_none.2 fun c hc ↦ by simpa using h c hc

end Composite

/-- **The aggregate as a map**: a category comes to what its own conditions come to. -/
theorem lookup_aggregate {k : Category} :
    Composite.lookup (aggregate policy now xs) k =
      k.composite? (k.policyFor policy) now ((Grouped.ofList xs).get k) := by
  refine Option.ext fun c ↦ ?_
  rw [Composite.lookup_eq_some_iff pairwise_aggregate, mem_aggregate_iff]
  constructor
  · rintro ⟨h, rfl⟩
    exact h
  · intro h
    obtain rfl := Category.category_of_composite? h
    exact ⟨h, rfl⟩

/-- The conditions of a category are those whose type belongs to it, in their order. -/
theorem Grouped.get_ofList {k : Category} :
    (Grouped.ofList xs).get k = xs.filter fun x ↦ classify x.type = some k := by
  induction xs with
  | nil => cases k <;> rfl
  | cons x xs ih =>
    rw [Grouped.ofList, Grouped.cons, List.filter_cons, ← ih]
    split <;> next h => cases k <;> simp [h, Grouped.get]

end StatusRollup
