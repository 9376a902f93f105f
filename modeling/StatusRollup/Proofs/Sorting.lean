import Mathlib.Data.List.Forall2
import StatusRollup.Proofs.Wording

/-!
# Conditions sorted by suffix

What a condition is about is read off the end of its type, and no two categories can claim the same
type, as no suffix ends in another one (`Category.eq_of_carries`). Three things rest on this.

* A type has one category and one stem at most, in whichever order the categories are tried
  (`Category.find?_carries_eq_classify`, `classify_eq_some_iff_stem`).
* Sorting conditions by category takes the list apart (`Grouped.Sorts`): each group is the part of
  the list with the category's suffix, in its order, and what is left over is counted.
* In an aggregate a reason lists conditions out of the group of its own category, so every token is
  made of a stem (`Composite.Words`). The whole type, which stands in for the stem of a type without
  the suffix, is never needed there.
-/

namespace StatusRollup

variable {k : Category} {type : String} {policy : Option Policy} {now : Instant}
  {xs : List Condition} {c : Composite}

/-! ### One type -/

namespace Category

theorem carries_iff_suffix : k.carries type = true ↔ k.suffix.toList <:+ type.toList :=
  List.isSuffixOf_iff_suffix

theorem stem_isSome_iff : (k.stem type).isSome = true ↔ k.carries type = true := by
  rw [stem]
  split
  · next h => exact iff_of_true rfl h
  · next h => exact iff_of_false Bool.false_ne_true h

/-- **The order in which the categories are tried does not matter.** -/
theorem find?_carries_eq_classify {order : List Category} (horder : order.Perm all) :
    (order.find? fun c ↦ c.carries type) = classify type := by
  refine Option.ext fun k ↦ ?_
  rw [find?_carries_eq_some_iff fun c ↦ horder.mem_iff.2 c.mem_all, classify_eq_some_iff]

end Category

/-- A type has a category exactly if it is made of a stem of the category and the suffix. -/
theorem classify_eq_some_iff_stem :
    classify type = some k ↔ ∃ stem, k.stem type = some stem ∧ type = stem ++ k.suffix := by
  rw [classify_eq_some_iff, ← Category.stem_isSome_iff, Option.isSome_iff_exists]
  exact exists_congr fun stem ↦ (and_iff_left_of_imp Category.stem_eq_some_iff.1).symm

/-! ### Groups -/

namespace Grouped

/-- Groups **sort** a list of conditions by the suffixes of their types. -/
structure Sorts (g : Grouped) (xs : List Condition) : Prop where
  /-- A group is the part of the list with the category's suffix, in the order of the list. -/
  get : ∀ k, g.get k = xs.filter fun x ↦ k.suffix.toList <:+ x.type.toList
  /-- What has none of the suffixes is counted. -/
  unrecognized : g.unrecognized =
    xs.countP fun x ↦ ∀ k ∈ Category.all, ¬k.suffix.toList <:+ x.type.toList
  /-- Nothing is lost, and nothing is in two places. -/
  length : (g.get .degraded).length + (g.get .progressing).length + (g.get .available).length +
    g.unrecognized = xs.length

theorem unrecognized_ofList :
    (ofList xs).unrecognized = xs.countP fun x ↦ classify x.type = none := by
  induction xs with
  | nil => rfl
  | cons x xs ih =>
    rw [ofList, cons, List.countP_cons, ← ih]
    split <;> next h => simp [h]

theorem sorts_ofList : (ofList xs).Sorts xs where
  get k := by
    rw [get_ofList]
    refine List.filter_congr fun x _ ↦ decide_eq_decide.2 ?_
    rw [classify_eq_some_iff, Category.carries_iff_suffix]
  unrecognized := by
    rw [unrecognized_ofList]
    refine List.countP_congr fun x _ ↦ ?_
    simp only [decide_eq_true_eq, ← Category.carries_iff_suffix]
    exact List.find?_eq_none
  length := length_add_unrecognized xs

/-- A condition in a group has a stem. -/
theorem exists_stem_of_mem_get {x : Condition} (hx : x ∈ (ofList xs).get k) :
    ∃ stem, k.stem x.type = some stem ∧ x.type = stem ++ k.suffix :=
  classify_eq_some_iff_stem.1 (mem_get_iff.1 hx).2

end Grouped

/-! ### Reasons -/

/-- A token is made **of the stem** of a condition's type, and of the condition's cause. -/
def Condition.IsStemToken (x : Condition) (k : Category) (token : String) : Prop :=
  ∃ stem, x.type = stem ++ k.suffix ∧ token = stem ++ x.cause

theorem Condition.isStemToken_reasonToken {x : Condition} (hx : x ∈ (Grouped.ofList xs).get k) :
    x.IsStemToken k (x.reasonToken k) := by
  obtain ⟨stem, hstem, htype⟩ := Grouped.exists_stem_of_mem_get hx
  exact ⟨stem, htype, by rw [Condition.reasonToken_eq, hstem, Option.getD_some]⟩

namespace Composite

/-- How the reason of a category's composite **comes about**. -/
inductive Words (c : Composite) (k : Category) (xs : List Condition) : Prop where
  /-- Without conditions there is no data. -/
  | noData (hxs : xs = []) (reason : c.reason = "NoData")
  /-- If nothing has escalated, all is as expected. -/
  | asExpected (healthy : c.isHealthy = true) (reason : c.reason = "AsExpected")
  /-- Otherwise every condition that is not healthy has a token made of its stem. -/
  | stems (escalated : c.isHealthy = false) {tokens : List String}
    (tokens_of : List.Forall₂ (fun x ↦ x.IsStemToken k) (k.nonHealthy xs) tokens)
    (reason : c.reason = String.intercalate "::" tokens)

theorem words_of_composite? (hstems : ∀ x ∈ xs, x.IsStemToken k (x.reasonToken k))
    (hc : k.composite? policy now xs = some c) : c.Words k xs := by
  by_cases hxs : xs = []
  · subst hxs
    rw [Category.composite?_nil] at hc
    split at hc
    · exact .noData rfl (congrArg Composite.reason (Option.some.inj hc).symm)
    · cases hc
  have hsum := sumsUp_of_composite? hxs hc
  by_cases hescalating : k.escalating policy now xs = []
  · rw [Category.composite?_of_escalating_eq_nil hxs hescalating] at hc
    exact .asExpected (hsum.isHealthy_iff.2 hescalating)
      (congrArg Composite.reason (Option.some.inj hc).symm)
  · refine .stems (hsum.isHealthy_eq_false_iff.2 hescalating) ?_ (hsum.reason hescalating)
    rw [List.forall₂_map_right_iff]
    exact List.forall₂_same.2 fun x hx ↦ hstems x (List.mem_filter.1 hx).1

end Composite

/-- **Suffixes sort conditions without ambiguity.** A type belongs to a category exactly if it ends
in the category's suffix, that is if it is its stem in the category and the suffix; so it has a stem
in one category at most, and it does not matter in which order the categories are tried. A list of
conditions falls apart into the conditions of each category, in their order, and those of none,
which are counted. So every condition that a category has to report on has a stem, and the reasons
of an aggregate name conditions by their stems only. -/
theorem conditions_sorted_by_suffix :
    (∀ (type : String) (k : Category),
      (classify type = some k ↔ k.suffix.toList <:+ type.toList) ∧
      (classify type = some k ↔ ∃ stem, k.stem type = some stem ∧ type = stem ++ k.suffix) ∧
      ∀ j : Category, (k.stem type).isSome → (j.stem type).isSome → k = j) ∧
    (∀ (type : String) (order : List Category), order.Perm Category.all →
      (order.find? fun k ↦ k.carries type) = classify type) ∧
    ∀ xs : List Condition, (Grouped.ofList xs).Sorts xs ∧
      (∀ k, ∀ x ∈ (Grouped.ofList xs).get k, ∃ stem, k.stem x.type = some stem) ∧
      ∀ (policy : Policy) (now : Instant), ∀ c ∈ aggregate policy now xs,
        c.Words c.category ((Grouped.ofList xs).get c.category) := by
  refine ⟨fun type k ↦ ⟨?_, classify_eq_some_iff_stem, fun j hk hj ↦ ?_⟩,
    fun type order ↦ Category.find?_carries_eq_classify,
    fun xs ↦ ⟨Grouped.sorts_ofList, fun k x hx ↦ ?_, fun policy now c hc ↦ ?_⟩⟩
  · rw [classify_eq_some_iff, Category.carries_iff_suffix]
  · exact Category.eq_of_carries (Category.stem_isSome_iff.1 hk) (Category.stem_isSome_iff.1 hj)
  · obtain ⟨stem, hstem, -⟩ := Grouped.exists_stem_of_mem_get hx
    exact ⟨stem, hstem⟩
  · exact Composite.words_of_composite? (fun x ↦ Condition.isStemToken_reasonToken)
      (mem_aggregate_iff.1 hc)

/-- A type that is nothing but the suffix and one that has the suffix in front, between two ordinary
ones. The first has an empty stem and no stem in another category, the second is counted, and the
categories tried the other way round give the same. -/
theorem conditions_sorted_by_suffix_bare :
    let disk : Condition := ⟨"DiskDegraded", .yes, ⟨19783, 43000, 0, by decide⟩, "Full", ""⟩
    let other : Condition := ⟨"DegradedDisk", .yes, ⟨19783, 43000, 0, by decide⟩, "", ""⟩
    let bare : Condition := ⟨"Degraded", .yes, ⟨19783, 43000, 0, by decide⟩, "", ""⟩
    let net : Condition := ⟨"NetProgressing", .no, ⟨19783, 43000, 0, by decide⟩, "", ""⟩
    let now : Instant := ⟨19783, 43200, 0, by decide⟩
    let c : Composite := ⟨.degraded, .yes, "Disk_Full::", "", some disk.since⟩
    (∀ j : Category, (j.stem "Degraded").isSome → .degraded = j) ∧
      ([.available, .progressing, .degraded].find? fun k : Category ↦ k.carries "Degraded") =
        some .degraded ∧
      (Grouped.ofList [disk, other, bare, net]).get .degraded = [disk, bare] ∧
      (Grouped.ofList [disk, other, bare, net]).unrecognized = 1 ∧
      c ∈ aggregate .none now [disk, other, bare, net] ∧ c.Words .degraded [disk, bare] := by
  intro disk other bare net now c
  obtain ⟨htypes, horder, hlists⟩ := conditions_sorted_by_suffix
  obtain ⟨hsorts, -, hwords⟩ := hlists [disk, other, bare, net]
  have hget : (Grouped.ofList [disk, other, bare, net]).get .degraded = [disk, bare] :=
    (hsorts.get .degraded).trans (by decide)
  have hc : c ∈ aggregate .none now [disk, other, bare, net] := by decide
  refine ⟨fun j ↦ (htypes "Degraded" .degraded).2.2 j (by decide), ?_, hget,
    hsorts.unrecognized.trans (by decide), hc, hget ▸ hwords .none now c hc⟩
  exact (horder "Degraded" _ (by decide)).trans (by decide)

end StatusRollup
