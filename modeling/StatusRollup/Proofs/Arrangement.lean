import StatusRollup.Proofs.Rounds

/-!
# How stored conditions are arranged

Which categories a record stores, how often and in which order (`Record.categories`), followed
through a whole run.

A merge touches this list in one way only: a category that is not stored yet is put in, before the
first later one. Passes drop categories besides, and that is all. So what is stored before and after
a pass is stored in the same order and as many times (`Record.KeepsOrder`), and no assumption about
the record is needed for it: the list may be unsorted and may repeat categories.

Two properties of the list are kept if they hold at first. No category is stored twice
(`nodup_storeAfter`), and the categories ascend (`pairwise_storeAfter`): the place where a new one
is put is the right one if the others ascend. A record that the passes themselves have created has
both, as it starts from nothing.
-/

namespace StatusRollup

namespace StoredCondition

variable {x : StoredCondition} {xs : List StoredCondition} {k : Category}

theorem mem_map_category_insert_iff :
    k ∈ (insert x xs).map (·.category) ↔ k = x.category ∨ k ∈ xs.map (·.category) := by
  obtain ⟨before, after, rfl, hins⟩ := insert_eq_append x xs
  rw [hins]
  simp only [List.map_append, List.map_cons, List.mem_append, List.mem_cons]
  exact or_left_comm

/-- **A new condition is put in its place**, if the others are in theirs. -/
theorem pairwise_insert (hxs : (xs.map (·.category)).Pairwise (· < ·))
    (hnew : x.category ∉ xs.map (·.category)) :
    ((insert x xs).map (·.category)).Pairwise (· < ·) := by
  induction xs with
  | nil => exact List.pairwise_singleton _ _
  | cons y ys ih =>
    obtain ⟨hlt, hys⟩ := List.pairwise_cons.1 hxs
    rw [List.map_cons, List.mem_cons, not_or] at hnew
    by_cases h : x.category < y.category
    · rw [insert_cons_of_lt h]
      refine List.pairwise_cons.2 ⟨fun k hk ↦ ?_, hxs⟩
      rcases List.mem_cons.1 hk with rfl | hk
      · exact h
      · exact Category.lt_trans h (hlt k hk)
    · rw [insert_cons_of_not_lt h]
      refine List.pairwise_cons.2 ⟨fun k hk ↦ ?_, ih hys hnew.2⟩
      rcases mem_map_category_insert_iff.1 hk with rfl | hk
      · exact Category.lt_of_not_lt h hnew.1
      · exact hlt k hk

end StoredCondition

namespace Record

/-- What two records both store, they store in the same order and as many times. -/
def KeepsOrder (r r' : Record) : Prop :=
  r'.categories.filter (· ∈ r.categories) = r.categories.filter (· ∈ r'.categories)

variable {r r' : Record} {c : Composite} {cs : List Composite} {now : Instant} {k : Category}
  {keep : Category → Bool}

theorem filter_mem_self (ks : List Category) : ks.filter (· ∈ ks) = ks :=
  List.filter_eq_self.2 fun _ hk ↦ decide_eq_true hk

/-! ### One merge -/

/-- A merge leaves what is stored in its order. -/
theorem filter_categories_set :
    (r.set c now).categories.filter (· ∈ r.categories) = r.categories := by
  rcases categories_set_cases r c now with hset | ⟨hnew, before, after, heq, hset⟩
  · rw [hset, filter_mem_self]
  · rw [hset, List.filter_append, List.filter_cons_of_neg (by simpa using hnew),
      ← List.filter_append, ← heq, filter_mem_self]

theorem mem_categories_set (h : k ∈ r.categories) : k ∈ (r.set c now).categories :=
  List.mem_of_mem_filter (filter_categories_set ▸ h)

/-- A merge keeps the categories ascending. -/
theorem pairwise_set (hr : r.categories.Pairwise (· < ·)) :
    (r.set c now).categories.Pairwise (· < ·) := by
  rcases categories_set_cases r c now with hset | ⟨hnew, -⟩
  · rw [hset]
    exact hr
  · rw [set_of_find_eq_none (find_eq_none_iff_not_mem.2 hnew)]
    exact StoredCondition.pairwise_insert hr hnew

/-! ### All merges, and what is kept -/

/-- **Merges leave what is stored in its order.** -/
theorem filter_categories_setAll :
    (setAll now cs r).1.categories.filter (· ∈ r.categories) = r.categories := by
  induction cs generalizing r with
  | nil => exact filter_mem_self _
  | cons c cs ih =>
    rw [setAll_cons]
    calc (setAll now cs (r.set c now)).1.categories.filter (· ∈ r.categories)
        = ((setAll now cs (r.set c now)).1.categories.filter
            (· ∈ (r.set c now).categories)).filter (· ∈ r.categories) := by
          rw [List.filter_filter]
          refine List.filter_congr fun k _ ↦ ?_
          rw [← Bool.decide_and]
          exact decide_eq_decide.2 (iff_self_and.2 mem_categories_set)
      _ = (r.set c now).categories.filter (· ∈ r.categories) := by rw [ih]
      _ = r.categories := filter_categories_set

theorem pairwise_categories_setAll (hr : r.categories.Pairwise (· < ·)) :
    (setAll now cs r).1.categories.Pairwise (· < ·) := by
  induction cs generalizing r with
  | nil => exact hr
  | cons c cs ih =>
    rw [setAll_cons]
    exact ih (pairwise_set hr)

theorem categories_retain : (r.retain keep).categories = r.categories.filter keep :=
  (List.filter_map ..).symm

theorem keepsOrder_refl (r : Record) : r.KeepsOrder r := rfl

/-- A category that was stored is not stored more often. -/
theorem KeepsOrder.count_le (h : r.KeepsOrder r') (hk : k ∈ r.categories) :
    r'.categories.count k ≤ r.categories.count k :=
  calc r'.categories.count k
      = (r'.categories.filter (· ∈ r.categories)).count k :=
        (List.count_filter (by simpa using hk)).symm
    _ = (r.categories.filter (· ∈ r'.categories)).count k := by rw [h]
    _ ≤ r.categories.count k := List.filter_sublist.count_le k

end Record

namespace Settings

variable {s : Settings} {answer : Option (List ObjectRef)} {xs : List Condition} {r : Record}
  {now : Instant} {start : Store} {turns : List Turn} {round : Round} {k : Category}

/-! ### Plans -/

theorem categories_plan : (s.plan answer xs r now).record.categories =
    (Record.setAll now (aggregate s.policy now xs) r).1.categories.filter
      (Composite.reports (aggregate s.policy now xs)) :=
  Record.categories_retain

/-- **A plan keeps the order of what it keeps**, whatever it starts from. -/
theorem keepsOrder_plan : r.KeepsOrder (s.plan answer xs r now).record := by
  set reported := Composite.reports (aggregate s.policy now xs)
  set merged := (Record.setAll now (aggregate s.policy now xs) r).1.categories
  have hmerged : merged.filter (· ∈ r.categories) = r.categories := Record.filter_categories_setAll
  have hplan : (s.plan answer xs r now).record.categories = merged.filter reported :=
    categories_plan
  rw [Record.KeepsOrder, hplan, List.filter_comm, hmerged]
  refine List.filter_congr fun k hk ↦ ?_
  rw [← hmerged] at hk
  have hstored : k ∈ merged := (List.mem_filter.1 hk).1
  rw [Bool.eq_iff_iff, decide_eq_true_eq, List.mem_filter, and_iff_right hstored]

/-- A plan names the categories that are reported. -/
theorem mem_categories_plan_iff : k ∈ (s.plan answer xs r now).record.categories ↔
    ∃ c ∈ aggregate s.policy now xs, c.category = k := by
  constructor
  · rw [categories_plan, List.mem_filter, Composite.reports_iff]
    exact And.right
  · rintro ⟨c, hc, rfl⟩
    refine Record.mem_categories_iff.2 ?_
    obtain ⟨x, hx⟩ : ∃ x, (s.plan answer xs r now).record.find c.category = some x :=
      ⟨_, find_plan_of_mem hc⟩
    exact ⟨x, List.mem_of_find?_eq_some hx, by simpa using List.find?_some hx⟩

theorem pairwise_plan (hr : r.categories.Pairwise (· < ·)) :
    (s.plan answer xs r now).record.categories.Pairwise (· < ·) := by
  rw [categories_plan]
  exact (Record.pairwise_categories_setAll hr).filter _

/-! ### Rounds and runs -/

/-- **One round** keeps the order of what it keeps, also if it fails. -/
theorem keepsOrder_of_round : (s.base round.before).KeepsOrder (s.base (round.after s)) := by
  rcases s.base_of_round round with ⟨-, version, hbase⟩ | ⟨xs, -, -, version, hbase⟩
  · rw [hbase]
    exact Record.keepsOrder_refl (s.base round.before)
  · have hplan : (s.base round.before).KeepsOrder
        (s.plan round.answer xs (s.base round.before) round.now).record := keepsOrder_plan
    rw [hbase]
    exact hplan

/-- **A run keeps the categories ascending.** -/
theorem pairwise_storeAfter (hstart : (s.base start).categories.Pairwise (· < ·)) :
    (s.base (s.storeAfter start turns)).categories.Pairwise (· < ·) := by
  induction turns with
  | nil => exact hstart
  | cons turn turns ih =>
    rw [storeAfter_cons]
    rcases s.base_of_round ⟨turn, s.storeAfter start turns⟩ with
      ⟨-, version, hbase⟩ | ⟨xs, -, -, version, hbase⟩
    · rw [hbase]
      exact ih
    · have hplan : (s.plan turn.answer xs (s.base (s.storeAfter start turns))
          turn.now).record.categories.Pairwise (· < ·) := pairwise_plan ih
      rw [hbase]
      exact hplan

/-- **Stored conditions stay arranged**, over every run of passes, whatever they are told and
however many conflicts are held back.

* From a record that stores each category at most once, in any order: a pass that succeeds leaves
  a record that names the categories of its composites and no others, each once, and what was stored
  before and is kept stays in its order.
* From no record or from one whose categories ascend: they ascend after every pass, also after one
  that fails.
* From any record, also one that repeats categories: a category that is stored is not stored more
  often after a pass, also after one that fails. -/
theorem conditions_of_rounds (s : Settings) (start : Store) (turns : List Turn) :
    let rounds := s.rounds start turns
    ((s.base start).categories.Nodup →
      ∀ round ∈ rounds, ∀ o, (round.reply s).result = .ok o →
        (round.after s).records s.name = some o.record ∧
        (∃ xs, round.conditions = .ok xs ∧ ∀ k, k ∈ o.record.categories ↔
          ∃ c ∈ aggregate s.policy round.now xs, c.category = k) ∧
        o.record.categories.Nodup ∧ (s.base round.before).KeepsOrder o.record) ∧
    (start.records s.name = none ∨ (s.base start).categories.Pairwise (· < ·) →
      ∀ round ∈ rounds, (s.base (round.after s)).categories.Pairwise (· < ·)) ∧
    ∀ round ∈ rounds, ∀ k ∈ (s.base round.before).categories,
      (s.base (round.after s)).categories.count k ≤ (s.base round.before).categories.count k := by
  intro rounds
  refine ⟨fun hstart round hround o ho ↦ ?_, fun hstart round hround ↦ ?_,
    fun round _ k hk ↦ keepsOrder_of_round.count_le hk⟩
  · obtain ⟨hstored, xs, hxs, ⟨version, hrecord⟩, -⟩ := outcome_of_pass ho
    obtain ⟨earlier, -, hafter⟩ := exists_storeAfter_of_mem_rounds hround
    have hbase : s.base (round.after s) = o.record := base_of_stored hstored
    refine ⟨hstored, ⟨xs, hxs, fun k ↦ ?_⟩, ?_, ?_⟩
    · have hplan : k ∈ (s.plan round.answer xs (s.base round.before)
          round.now).record.categories ↔ _ := mem_categories_plan_iff
      rw [hrecord]
      exact hplan
    · rw [← hbase, hafter]
      exact nodup_storeAfter hstart
    · rw [← hbase]
      exact keepsOrder_of_round
  · obtain ⟨earlier, -, hafter⟩ := exists_storeAfter_of_mem_rounds hround
    rw [hafter]
    refine pairwise_storeAfter (hstart.elim (fun habsent ↦ ?_) id)
    rw [base_of_absent habsent]
    exact List.Pairwise.nil

/-- Two turns, a conflict in front of the first write, and three records to start from. One has its
categories out of order: the first turn puts progress in front of what is available, the second one
drops what is available, and the rest stays out of order. One is created by the passes, so its
categories ascend. One repeats a category, which is still stored twice at the end. -/
theorem conditions_of_rounds_unsorted :
    let day0 : Instant := ⟨0, 0, 0, by decide⟩
    let day1 : Instant := ⟨1, 0, 0, by decide⟩
    let day2 : Instant := ⟨2, 0, 0, by decide⟩
    let s := Settings.ofPolicy "operator" .none
    let available : StoredCondition := ⟨.available, .yes, "AsExpected", "", day0⟩
    let degraded : StoredCondition := ⟨.degraded, .no, "AsExpected", "", day0⟩
    let unsorted := (Store.empty 1).seed ⟨"operator", 1, [available, degraded], []⟩
    let repeated := (Store.empty 1).seed ⟨"operator", 1, [degraded, available, degraded], []⟩
    let net : Condition := ⟨"NetProgressing", .yes, day1, "", ""⟩
    let later : Turn := ⟨⟨.ok [net], none⟩, day2⟩
    let earlier : Turn := ⟨⟨.ok [⟨"ApiAvailable", .yes, day0, "", ""⟩, net], none⟩, day1⟩
    let round : Round := ⟨later, s.storeAfter unsorted [earlier]⟩
    ((s.base round.before).categories = [.progressing, .available, .degraded] ∧
      ∃ o, (round.reply s).result = .ok o ∧ o.record.categories = [.progressing, .degraded] ∧
        o.record.categories.Nodup ∧ (s.base round.before).KeepsOrder o.record) ∧
    (s.base (s.storeAfter (Store.empty 1) [later, earlier])).categories.Pairwise (· < ·) ∧
    (s.base (s.storeAfter repeated [later])).categories.count .degraded ≤ 2 := by
  intro day0 day1 day2 s available degraded unsorted repeated net later earlier round
  refine ⟨⟨by decide, ?_⟩, ?_, ?_⟩
  · have hok : (round.reply s).result.isOk = true := by decide
    rcases ho : (round.reply s).result with e | o
    · rw [ho] at hok
      cases hok
    obtain ⟨hstored, -, hnodup, horder⟩ :=
      (conditions_of_rounds s unsorted [later, earlier]).1 (by decide) round (.head _) o ho
    have hbase : (s.base (round.after s)).categories = [.progressing, .degraded] := by decide
    rw [base_of_stored hstored] at hbase
    exact ⟨o, rfl, hbase, hnodup, horder⟩
  · exact (conditions_of_rounds s (Store.empty 1) [later, earlier]).2.1 (.inl rfl)
      ⟨later, s.storeAfter (Store.empty 1) [earlier]⟩ (.head _)
  · exact (conditions_of_rounds s repeated [later]).2.2 ⟨later, repeated⟩ (.head _) .degraded
      (by decide)

end Settings

end StatusRollup
