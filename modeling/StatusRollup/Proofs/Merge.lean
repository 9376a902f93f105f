import Mathlib.Data.List.Nodup
import StatusRollup.Proofs.Composites
import StatusRollup.Record

/-!
# Merging composites into a record

What a merge does, read through `Record.find`, the first stored condition of a category. Nothing is
assumed of the stored list: it may be unsorted and may repeat categories.

* `find_set` — merging a composite decides what is found under its own category and leaves every
  other category alone.
* `find_setAll_of_mem`, `find_setAll_of_forall_ne` — the same for composites of pairwise different
  categories, merged one after the other.
* `find_retain` — keeping some categories forgets the others altogether.
* `categories_set_cases` — in the stored list a merge puts in at most one category, one that was not
  stored, and leaves the others where they are.
* `dropped_setAll` — merging reported composites does not touch the conditions that are going to be
  dropped, so what is dropped can be read off the record before the merge.
* `nodup_setAll` — no merge stores a category twice that was stored at most once. With this, what is
  found is all there is (`find_of_mem`).
-/

namespace StatusRollup

namespace StoredCondition

/-- What a merge leaves under the composite's category, given what was found there before. -/
def merge (found : Option StoredCondition) (c : Composite) (now : Instant) : StoredCondition :=
  match found with
  | some x => x.refresh c now
  | none => ofComposite c now

variable {x y : StoredCondition} {c : Composite} {now : Instant} {k : Category}
  {xs : List StoredCondition}

@[simp] theorem category_refresh (x : StoredCondition) (c : Composite) (now : Instant) :
    (x.refresh c now).category = x.category := rfl

@[simp] theorem category_ofComposite (c : Composite) (now : Instant) :
    (ofComposite c now).category = c.category := rfl

@[simp] theorem status_merge (found : Option StoredCondition) (c : Composite) (now : Instant) :
    (merge found c now).status = c.status := by cases found <;> rfl

@[simp] theorem reason_merge (found : Option StoredCondition) (c : Composite) (now : Instant) :
    (merge found c now).reason = c.reason := by cases found <;> rfl

@[simp] theorem message_merge (found : Option StoredCondition) (c : Composite) (now : Instant) :
    (merge found c now).message = c.message := by cases found <;> rfl

/-! ### The two ways to change the stored list -/

theorem refreshFirst_cons_of_eq (h : y.category = c.category) :
    refreshFirst c now (y :: xs) = y.refresh c now :: xs := if_pos h

theorem refreshFirst_cons_of_ne (h : y.category ≠ c.category) :
    refreshFirst c now (y :: xs) = y :: refreshFirst c now xs := if_neg h

theorem insert_cons_of_lt (h : x.category < y.category) : insert x (y :: xs) = x :: y :: xs :=
  if_pos h

theorem insert_cons_of_not_lt (h : ¬x.category < y.category) :
    insert x (y :: xs) = y :: insert x xs := if_neg h

/-- The first condition of the composite's category is refreshed, and only that one. -/
theorem find?_refreshFirst_self
    (h : xs.find? (fun y ↦ y.category = c.category) = some x) :
    (refreshFirst c now xs).find? (fun y ↦ y.category = c.category) = some (x.refresh c now) := by
  induction xs with
  | nil => simp at h
  | cons y ys ih =>
    by_cases hy : y.category = c.category
    · simp only [List.find?_cons, hy, decide_true, Option.some.injEq] at h
      subst h
      simp [refreshFirst_cons_of_eq hy, hy]
    · simp only [List.find?_cons, hy, decide_false] at h
      simp [refreshFirst_cons_of_ne hy, hy, ih h]

theorem find?_refreshFirst_of_ne (hk : k ≠ c.category) :
    (refreshFirst c now xs).find? (fun y ↦ y.category = k) =
      xs.find? fun y ↦ y.category = k := by
  induction xs with
  | nil => rfl
  | cons y ys ih =>
    by_cases hy : y.category = c.category
    · have hne : y.category ≠ k := fun h ↦ hk (h ▸ hy)
      simp [refreshFirst_cons_of_eq hy, hy, hk.symm]
    · rw [refreshFirst_cons_of_ne hy, List.find?_cons, List.find?_cons, ih]

/-- The categories stay where they are. -/
theorem map_category_refreshFirst :
    (refreshFirst c now xs).map (·.category) = xs.map (·.category) := by
  induction xs with
  | nil => rfl
  | cons y ys ih =>
    by_cases hy : y.category = c.category
    · rw [refreshFirst_cons_of_eq hy, List.map_cons, List.map_cons, category_refresh]
    · rw [refreshFirst_cons_of_ne hy, List.map_cons, List.map_cons, ih]

/-- A new condition is put somewhere, the rest keeps its order. -/
theorem insert_eq_append (x : StoredCondition) (xs : List StoredCondition) :
    ∃ before after, xs = before ++ after ∧ insert x xs = before ++ x :: after := by
  induction xs with
  | nil => exact ⟨[], [], rfl, rfl⟩
  | cons y ys ih =>
    by_cases hlt : x.category < y.category
    · exact ⟨[], y :: ys, rfl, insert_cons_of_lt hlt⟩
    · obtain ⟨before, after, hys, hins⟩ := ih
      exact ⟨y :: before, after, congrArg (y :: ·) hys,
        (insert_cons_of_not_lt hlt).trans (congrArg (y :: ·) hins)⟩

theorem find?_insert_of_ne (hk : k ≠ x.category) :
    (insert x xs).find? (fun y ↦ y.category = k) = xs.find? fun y ↦ y.category = k := by
  obtain ⟨before, after, rfl, hins⟩ := insert_eq_append x xs
  rw [hins, List.find?_append, List.find?_append]
  simp [hk.symm]

/-- A new condition is the one found, provided its category was not stored before. -/
theorem find?_insert_self
    (h : xs.find? (fun y ↦ y.category = x.category) = none) :
    (insert x xs).find? (fun y ↦ y.category = x.category) = some x := by
  obtain ⟨before, after, rfl, hins⟩ := insert_eq_append x xs
  rw [List.find?_append, Option.or_eq_none_iff] at h
  rw [hins, List.find?_append, h.1]
  simp

end StoredCondition

namespace Record

variable {r : Record} {c : Composite} {cs : List Composite} {now : Instant} {k : Category}
  {keep : Category → Bool}

/-! ### One composite -/

theorem set_of_find_eq_some {x : StoredCondition} (h : r.find c.category = some x) :
    r.set c now = { r with conditions := StoredCondition.refreshFirst c now r.conditions } := by
  rw [set, h]

theorem set_of_find_eq_none (h : r.find c.category = none) :
    r.set c now = { r with
      conditions := StoredCondition.insert (.ofComposite c now) r.conditions } := by
  rw [set, h]

@[simp] theorem name_set : (r.set c now).name = r.name := by
  rw [set]; split <;> rfl

@[simp] theorem version_set : (r.set c now).version = r.version := by
  rw [set]; split <;> rfl

@[simp] theorem related_set : (r.set c now).related = r.related := by
  rw [set]; split <;> rfl

/-- **One merge, read category by category.** -/
theorem find_set :
    (r.set c now).find k =
      if k = c.category then some (StoredCondition.merge (r.find k) c now) else r.find k := by
  split
  · next hk =>
    subst hk
    rw [set]
    split
    · next x hx =>
      rw [hx]
      exact StoredCondition.find?_refreshFirst_self hx
    · next hnone =>
      rw [hnone]
      exact StoredCondition.find?_insert_self (x := .ofComposite c now) hnone
  · next hk =>
    rw [set]
    split
    · exact StoredCondition.find?_refreshFirst_of_ne hk
    · exact StoredCondition.find?_insert_of_ne (x := .ofComposite c now) hk

/-- A category that is found is stored, and the other way round. -/
theorem find_eq_none_iff : r.find k = none ↔ ∀ x ∈ r.conditions, x.category ≠ k := by
  simp [find]

/-- With each category stored at most once, every stored condition is the one found. -/
theorem find_of_mem {x : StoredCondition} (hr : (r.conditions.map (·.category)).Nodup)
    (hx : x ∈ r.conditions) : r.find x.category = some x := by
  rcases hfind : r.find x.category with - | y
  · exact absurd rfl (find_eq_none_iff.1 hfind x hx)
  · have hcategory : y.category = x.category := by simpa using List.find?_some hfind
    rw [List.inj_on_of_nodup_map hr (List.mem_of_find?_eq_some hfind) hx hcategory]

/-! ### The categories of the stored list -/

/-- The categories of the stored conditions, in their order. -/
def categories (r : Record) : List Category := r.conditions.map (·.category)

theorem mem_categories_iff : k ∈ r.categories ↔ ∃ x ∈ r.conditions, x.category = k :=
  List.mem_map

theorem find_eq_none_iff_not_mem : r.find k = none ↔ k ∉ r.categories := by
  rw [find_eq_none_iff, mem_categories_iff]
  push Not
  rfl

/-- **One merge, read in the stored list**: a category that is not stored yet is put in somewhere,
and nothing else happens to the categories. -/
theorem categories_set_cases (r : Record) (c : Composite) (now : Instant) :
    (r.set c now).categories = r.categories ∨
      c.category ∉ r.categories ∧ ∃ before after, r.categories = before ++ after ∧
        (r.set c now).categories = before ++ c.category :: after := by
  rcases hfind : r.find c.category with - | x
  · obtain ⟨before, after, heq, hins⟩ :=
      StoredCondition.insert_eq_append (.ofComposite c now) r.conditions
    refine .inr ⟨find_eq_none_iff_not_mem.1 hfind, before.map (·.category),
      after.map (·.category), ?_, ?_⟩
    · rw [categories, heq, List.map_append]
    · rw [set_of_find_eq_none hfind, categories, hins, List.map_append, List.map_cons,
        StoredCondition.category_ofComposite]
  · left
    rw [set_of_find_eq_some hfind]
    exact StoredCondition.map_category_refreshFirst

/-- Merging a composite stores its category at most once, if every category was. -/
theorem nodup_set (hr : r.categories.Nodup) : (r.set c now).categories.Nodup := by
  rcases categories_set_cases r c now with hset | ⟨hnew, before, after, heq, hset⟩
  · rw [hset]
    exact hr
  · rw [heq] at hr hnew
    rw [hset]
    exact List.nodup_middle.2 (List.nodup_cons.2 ⟨hnew, hr⟩)

/-- What is dropped depends on the stored categories alone. -/
theorem dropped_eq_filter_map :
    r.dropped keep = (r.conditions.map (·.category)).filter fun k ↦ !keep k := by
  rw [dropped, List.filter_map]
  rfl

/-- Merging a composite that is kept changes nothing about what is dropped. -/
theorem dropped_set (hc : keep c.category = true) :
    (r.set c now).dropped keep = r.dropped keep := by
  rw [dropped_eq_filter_map, dropped_eq_filter_map]
  change (r.set c now).categories.filter _ = r.categories.filter _
  rcases categories_set_cases r c now with hset | ⟨-, before, after, heq, hset⟩
  · rw [hset]
  -- where the new category is put does not matter, as it is kept
  · rw [hset, heq, List.filter_append, List.filter_append,
      List.filter_cons_of_neg (by simpa using hc)]

/-! ### All composites -/

theorem setAll_cons :
    setAll now (c :: cs) r =
      ((setAll now cs (r.set c now)).1,
        (r.transition c).toList ++ (setAll now cs (r.set c now)).2) := rfl

@[simp] theorem name_setAll : (setAll now cs r).1.name = r.name := by
  induction cs generalizing r with
  | nil => rfl
  | cons c cs ih => rw [setAll_cons, ih, name_set]

@[simp] theorem version_setAll : (setAll now cs r).1.version = r.version := by
  induction cs generalizing r with
  | nil => rfl
  | cons c cs ih => rw [setAll_cons, ih, version_set]

@[simp] theorem related_setAll : (setAll now cs r).1.related = r.related := by
  induction cs generalizing r with
  | nil => rfl
  | cons c cs ih => rw [setAll_cons, ih, related_set]

theorem nodup_setAll (hr : r.categories.Nodup) : (setAll now cs r).1.categories.Nodup := by
  induction cs generalizing r with
  | nil => exact hr
  | cons c cs ih =>
    rw [setAll_cons]
    exact ih (nodup_set hr)

/-- A category without a composite is left alone. -/
theorem find_setAll_of_forall_ne (h : ∀ c ∈ cs, k ≠ c.category) :
    (setAll now cs r).1.find k = r.find k := by
  induction cs generalizing r with
  | nil => rfl
  | cons c cs ih =>
    rw [setAll_cons, ih fun d hd ↦ h d (List.mem_cons_of_mem c hd), find_set,
      if_neg (h c List.mem_cons_self)]

/-- **A category with one composite shows that composite**, merged with what was found before. The
other composites do not matter, as they are of other categories. -/
theorem find_setAll_of_mem (hcs : cs.Pairwise fun a b ↦ a.category < b.category) (hc : c ∈ cs) :
    (setAll now cs r).1.find c.category =
      some (StoredCondition.merge (r.find c.category) c now) := by
  induction cs generalizing r with
  | nil => exact absurd hc List.not_mem_nil
  | cons d ds ih =>
    obtain ⟨hlt, hds⟩ := List.pairwise_cons.1 hcs
    rw [setAll_cons]
    rcases List.mem_cons.1 hc with rfl | hmem
    · rw [find_setAll_of_forall_ne fun e he ↦ Category.ne_of_lt (hlt e he), find_set, if_pos rfl]
    · rw [ih hds hmem, find_set, if_neg (Category.ne_of_lt (hlt c hmem)).symm]

/-- What is dropped after the merge was stored before it, in the same order. -/
theorem dropped_setAll (hcs : ∀ c ∈ cs, keep c.category = true) :
    (setAll now cs r).1.dropped keep = r.dropped keep := by
  induction cs generalizing r with
  | nil => rfl
  | cons c cs ih =>
    rw [setAll_cons, ih fun d hd ↦ hcs d (List.mem_cons_of_mem c hd),
      dropped_set (hcs c List.mem_cons_self)]

/-! ### Dropping categories -/

/-- Keeping categories forgets the others and changes nothing else. -/
theorem find_retain : (r.retain keep).find k = if keep k then r.find k else none := by
  have hcond : ∀ xs : List StoredCondition,
      (xs.filter fun x ↦ keep x.category).find? (fun x ↦ x.category = k) =
        if keep k then xs.find? fun x ↦ x.category = k else none := by
    intro xs
    induction xs with
    | nil => simp
    | cons x xs ih =>
      by_cases hx : x.category = k
      · subst hx
        cases hkeep : keep x.category <;> simp_all
      · cases hkeep : keep x.category <;> simp [hkeep, hx, ih]
  exact hcond r.conditions

theorem mem_dropped_iff :
    k ∈ r.dropped keep ↔ (∃ x ∈ r.conditions, x.category = k) ∧ keep k = false := by
  simp only [dropped, List.mem_map, List.mem_filter, Bool.not_eq_true']
  constructor
  · rintro ⟨x, ⟨hx, hkeep⟩, rfl⟩
    exact ⟨⟨x, hx, rfl⟩, hkeep⟩
  · rintro ⟨⟨x, hx, rfl⟩, hkeep⟩
    exact ⟨x, ⟨hx, hkeep⟩, rfl⟩

end Record

end StatusRollup
