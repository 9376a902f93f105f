import StatusRollup.Proofs.Escalation

/-!
# Lists of conditions put together

What the conditions of a category come to is read off three selections of them
(`Composite.SumsUp`). Those that escalate decide the status; they date the composite too, unless
there are none, in which case all conditions do; and those that are not healthy are listed, or all
of them if nothing escalates.

A selection of two lists put together is the selections put together, so the composite of the whole
follows from the composites of the parts (`Composite.IsUnion`). The parts have to have conditions:
the composite without any says that there is no data and is no neutral element.

* `verdict_append` — the status is the worse one, and nobody being able to tell is the worst.
* `latest_append`, `joinMessages_append` — the times and the messages.
* `Composite.SumsUp.union` — the four ways in which two parts escalate or do not, field by field.
* `composite?_append` — the law, and what follows from it: the order of the conditions matters
  neither to the status nor to the time, and more conditions never bring a failure to an end.
-/

namespace StatusRollup

namespace Instant

variable {ts us : List Instant} {t u : Instant}

/-- The latest of two lists put together is the later of their latest. -/
theorem latest_append (ht : latest ts = some t) (hu : latest us = some u) :
    latest (ts ++ us) = some (max t u) := by
  obtain ⟨htmem, htle⟩ := latest_eq_some_iff.1 ht
  obtain ⟨humem, hule⟩ := latest_eq_some_iff.1 hu
  refine latest_eq_some_iff.2 ⟨?_, fun v hv ↦ ?_⟩
  · rcases Std.max_eq_or (a := t) (b := u) with h | h <;> rw [h]
    · exact List.mem_append_left us htmem
    · exact List.mem_append_right ts humem
  · rcases List.mem_append.1 hv with hv | hv
    · exact le_trans (htle v hv) Std.left_le_max
    · exact le_trans (hule v hv) Std.right_le_max

/-- The latest time depends on which times there are, not on their order. -/
theorem latest_congr (h : ∀ t, t ∈ ts ↔ t ∈ us) : latest ts = latest us := by
  refine Option.ext fun t ↦ ?_
  simp only [latest_eq_some_iff, h]

end Instant

namespace Category

variable {k : Category} {policy : Option Policy} {now : Instant}
  {xs ys escalating more : List Condition} {s : Status}

/-! ### From well to worse -/

/-- How bad a status is: all is well, something is wrong, nobody can tell. -/
def severity (k : Category) (s : Status) : Nat :=
  if s = .unknown then 2 else if s = k.failing then 1 else 0

/-- The worse of two statuses. -/
def worse (k : Category) (a b : Status) : Status := if k.severity a ≤ k.severity b then b else a

theorem healthy_worse : k.worse k.healthy s = s := by
  cases k <;> cases s <;> rfl

theorem worse_healthy : k.worse s k.healthy = s := by
  cases k <;> cases s <;> rfl

/-- The status that some escalating conditions decide. -/
def verdict (k : Category) (escalating : List Condition) : Status :=
  if escalating = [] then k.healthy
  else if escalating.any fun x ↦ x.status = .unknown then .unknown else k.failing

theorem verdict_eq_healthy_iff : k.verdict escalating = k.healthy ↔ escalating = [] := by
  rw [verdict]
  split
  · next h => exact iff_of_true rfl h
  · next h =>
    refine iff_of_false ?_ h
    split
    · cases k <;> decide
    · exact k.failing_ne_healthy

theorem verdict_eq_unknown_iff :
    k.verdict escalating = .unknown ↔ ∃ x ∈ escalating, x.status = .unknown := by
  have hany : (escalating.any fun x ↦ x.status = .unknown) = true ↔
      ∃ x ∈ escalating, x.status = .unknown := by
    simp
  rw [verdict, ← hany]
  split
  · next h =>
    rw [h]
    cases k <;> decide
  · split
    · next h => exact iff_of_true rfl h
    · next h =>
      refine iff_of_false ?_ h
      cases k <;> decide

/-- With a policy doubts do not escalate, so they decide nothing. -/
theorem verdict_escalating_ne_unknown {p : Policy} :
    k.verdict (k.escalating (some p) now xs) ≠ .unknown := by
  rw [ne_eq, verdict_eq_unknown_iff]
  rintro ⟨x, hx, hunknown⟩
  have hfailing : x.status = k.failing := (mem_escalating_iff.1 hx).2.1
  rw [hunknown] at hfailing
  cases k <;> cases hfailing

/-- **The status of the whole is the worse one of its parts.** -/
theorem verdict_append :
    k.verdict (escalating ++ more) = k.worse (k.verdict escalating) (k.verdict more) := by
  by_cases hescalating : escalating = []
  · rw [hescalating, List.nil_append, show k.verdict [] = k.healthy from rfl, healthy_worse]
  by_cases hmore : more = []
  · rw [hmore, List.append_nil, show k.verdict [] = k.healthy from rfl, worse_healthy]
  have happend : escalating ++ more ≠ [] := List.append_ne_nil_of_left_ne_nil hescalating more
  rw [verdict, verdict, verdict, if_neg happend, if_neg hescalating, if_neg hmore, List.any_append]
  cases escalating.any fun x ↦ x.status = .unknown <;>
    cases more.any fun x ↦ x.status = .unknown <;>
      cases k <;> rfl

/-- The status depends on which conditions escalate, not on their order. -/
theorem verdict_congr (h : ∀ x, x ∈ escalating ↔ x ∈ more) :
    k.verdict escalating = k.verdict more := by
  have hnil : escalating = [] ↔ more = [] := by
    simp only [List.eq_nil_iff_forall_not_mem, h]
  have hany : (escalating.any fun x ↦ x.status = .unknown) =
      more.any fun x ↦ x.status = .unknown := by
    rw [Bool.eq_iff_iff, List.any_eq_true, List.any_eq_true]
    simp only [h]
  simp only [verdict, hnil, hany]

/-! ### Selections of two lists put together -/

theorem nonHealthy_append : k.nonHealthy (xs ++ ys) = k.nonHealthy xs ++ k.nonHealthy ys :=
  List.filter_append xs ys

theorem escalating_append :
    k.escalating policy now (xs ++ ys) =
      k.escalating policy now xs ++ k.escalating policy now ys := by
  cases policy with
  | none => exact nonHealthy_append
  | some p => simp only [escalating, nonHealthy_append, List.filter_append]

/-- Whether a condition escalates is up to the condition alone. -/
theorem mem_escalating_of_mem {x : Condition} (hx : x ∈ k.escalating policy now xs)
    (hys : x ∈ ys) : x ∈ k.escalating policy now ys := by
  cases policy with
  | none => exact List.mem_filter.2 ⟨hys, (List.mem_filter.1 hx).2⟩
  | some p => exact mem_escalating_iff.2 ⟨hys, (mem_escalating_iff.1 hx).2⟩

/-- What escalates is not healthy, so it is among what is listed. -/
theorem nonHealthy_ne_nil (h : k.escalating policy now xs ≠ []) : k.nonHealthy xs ≠ [] := by
  cases policy with
  | none => exact h
  | some p =>
    intro hnil
    rw [escalating, hnil] at h
    exact h rfl

/-- Without conditions only the degraded category comes to a composite. -/
theorem composite?_nil :
    k.composite? policy now [] = if k = .degraded then some (.withoutData k) else none := rfl

end Category

namespace Composite

open Category

variable {k : Category} {policy : Option Policy} {now : Instant}
  {xs ys escalating more : List Condition} {a b c : Composite}

/-! ### What a composite says -/

/-- The composite is that of conditions of which some escalate. -/
structure SumsUp (c : Composite) (k : Category) (xs escalating : List Condition) : Prop where
  /-- It is of the category. -/
  category : c.category = k
  /-- What escalates decides the status. -/
  status : c.status = k.verdict escalating
  /-- Once something escalates, the reason lists what is not healthy. -/
  reason : escalating ≠ [] → c.reason = joinReasons k (k.nonHealthy xs)
  /-- So does the message, which lists everything before. -/
  message : c.message = joinMessages (if escalating = [] then xs else k.nonHealthy xs)
  /-- What escalates dates the composite, and everything if nothing does. -/
  since : c.since = Instant.latest ((if escalating = [] then xs else escalating).map (·.since))

/-- **Conditions come to a composite**, and it sums them up. -/
theorem exists_sumsUp (k : Category) (policy : Option Policy) (now : Instant) (hxs : xs ≠ []) :
    ∃ c, k.composite? policy now xs = some c ∧ c.SumsUp k xs (k.escalating policy now xs) := by
  by_cases h : k.escalating policy now xs = []
  · refine ⟨_, composite?_of_escalating_eq_nil hxs h, rfl, ?_, fun hne ↦ absurd h hne, ?_, ?_⟩
    · exact (verdict_eq_healthy_iff.2 h).symm
    · rw [if_pos h]
      rfl
    · rw [if_pos h]
      rfl
  · refine ⟨_, composite?_of_escalating_ne_nil h, rfl, ?_, fun _ ↦ rfl, ?_, ?_⟩
    · rw [verdict, if_neg h]
      rfl
    · rw [if_neg h]
      rfl
    · rw [if_neg h]
      rfl

theorem sumsUp_of_composite? (hxs : xs ≠ []) (h : k.composite? policy now xs = some c) :
    c.SumsUp k xs (k.escalating policy now xs) := by
  obtain ⟨d, hd, hsum⟩ := exists_sumsUp k policy now hxs
  obtain rfl := Option.some.inj (hd.symm.trans h)
  exact hsum

theorem SumsUp.isHealthy_iff (h : c.SumsUp k xs escalating) :
    c.isHealthy = true ↔ escalating = [] := by
  rw [isHealthy, decide_eq_true_eq, h.category, h.status, verdict_eq_healthy_iff]

theorem SumsUp.isHealthy_eq_false_iff (h : c.SumsUp k xs escalating) :
    c.isHealthy = false ↔ escalating ≠ [] := by
  rw [← Bool.not_eq_true, h.isHealthy_iff]

/-! ### Two messages in one -/

/-- Two messages one after the other. An empty one contributes nothing, not even a line. -/
def appendMessages (a b : String) : String :=
  if a = "" then b else if b = "" then a else a ++ "\n" ++ b

/-- No line of a message is empty: each carries the condition's type. -/
theorem ne_empty_of_mem_messageLines {x : Condition} {line : String} (h : line ∈ x.messageLines) :
    line ≠ "" := by
  rw [Condition.messageLines] at h
  split at h
  · exact absurd h List.not_mem_nil
  · obtain ⟨cs, -, rfl⟩ := List.mem_map.1 h
    simp [String.append_eq_empty_iff]

theorem joinMessages_eq_empty_iff :
    joinMessages xs = "" ↔ xs.flatMap Condition.messageLines = [] := by
  rw [joinMessages]
  cases hlines : xs.flatMap Condition.messageLines with
  | nil => exact iff_of_true String.intercalate_nil rfl
  | cons line lines =>
    refine iff_of_false (fun h ↦ ?_) (List.cons_ne_nil line lines)
    obtain ⟨x, -, hx⟩ := List.mem_flatMap.1 (hlines ▸ List.mem_cons_self)
    refine ne_empty_of_mem_messageLines hx ?_
    cases lines with
    | nil => rwa [String.intercalate_singleton] at h
    | cons next lines =>
      rw [String.intercalate_cons_cons, String.append_eq_empty_iff,
        String.append_eq_empty_iff] at h
      exact h.1.1

/-- **The message of the whole is the messages of its parts.** -/
theorem joinMessages_append :
    joinMessages (xs ++ ys) = appendMessages (joinMessages xs) (joinMessages ys) := by
  rw [appendMessages]
  by_cases hxs : xs.flatMap Condition.messageLines = []
  · rw [if_pos (joinMessages_eq_empty_iff.2 hxs), joinMessages, List.flatMap_append, hxs,
      List.nil_append, joinMessages]
  rw [if_neg (mt joinMessages_eq_empty_iff.1 hxs)]
  by_cases hys : ys.flatMap Condition.messageLines = []
  · rw [if_pos (joinMessages_eq_empty_iff.2 hys), joinMessages, List.flatMap_append, hys,
      List.append_nil, joinMessages]
  rw [if_neg (mt joinMessages_eq_empty_iff.1 hys), joinMessages, List.flatMap_append]
  exact String.intercalate_append_of_ne_nil hxs hys

/-- The reason of the whole is the reasons of its parts, if each part has conditions to list. -/
theorem joinReasons_append (hxs : xs ≠ []) (hys : ys ≠ []) :
    joinReasons k (xs ++ ys) = joinReasons k xs ++ "::" ++ joinReasons k ys := by
  rw [joinReasons, List.map_append]
  exact String.intercalate_append_of_ne_nil (mt List.map_eq_nil_iff.1 hxs)
    (mt List.map_eq_nil_iff.1 hys)

/-! ### Two composites in one -/

/-- The composite is that of two lists of conditions put together, each of which comes to a
composite of its own. A composite that is not healthy is said to have escalated. -/
structure IsUnion (c a b : Composite) : Prop where
  /-- All three are of one category. -/
  category : a.category = c.category ∧ b.category = c.category
  /-- The status is the worse one. -/
  status : c.status = c.category.worse a.status b.status
  /-- If the first part alone has escalated, it dates the whole. -/
  since_left : a.isHealthy = false → b.isHealthy = true → c.since = a.since
  /-- If the second part alone has escalated, it dates the whole. -/
  since_right : a.isHealthy = true → b.isHealthy = false → c.since = b.since
  /-- Otherwise the later part does. -/
  since_both : a.isHealthy = b.isHealthy →
    ∃ t u, a.since = some t ∧ b.since = some u ∧ c.since = some (max t u)
  /-- If both parts have escalated, both are listed. -/
  reason : a.isHealthy = false → b.isHealthy = false → c.reason = a.reason ++ "::" ++ b.reason
  /-- If both have escalated or none has, both say what they have to say. -/
  message : a.isHealthy = b.isHealthy → c.message = appendMessages a.message b.message

/-- There is a latest time where there are conditions. -/
theorem exists_latest_since (hxs : xs ≠ []) : ∃ t, Instant.latest (xs.map (·.since)) = some t :=
  Instant.exists_latest (mt List.map_eq_nil_iff.1 hxs)

/-- **A composite that sums up two lists put together is the union of those that sum up each.** -/
theorem SumsUp.union (hxs : xs ≠ []) (hys : ys ≠ [])
    (hlisted : escalating ≠ [] → k.nonHealthy xs ≠ []) (hlisted' : more ≠ [] → k.nonHealthy ys ≠ [])
    (ha : a.SumsUp k xs escalating) (hb : b.SumsUp k ys more)
    (hc : c.SumsUp k (xs ++ ys) (escalating ++ more)) : c.IsUnion a b where
  category := ⟨ha.category.trans hc.category.symm, hb.category.trans hc.category.symm⟩
  status := by rw [hc.category, hc.status, ha.status, hb.status, verdict_append]
  since_left hleft hright := by
    obtain rfl := hb.isHealthy_iff.1 hright
    have hne := ha.isHealthy_eq_false_iff.1 hleft
    rw [hc.since, ha.since, List.append_nil, if_neg hne, if_neg hne]
  since_right hleft hright := by
    obtain rfl := ha.isHealthy_iff.1 hleft
    have hne := hb.isHealthy_eq_false_iff.1 hright
    rw [hc.since, hb.since, List.nil_append, if_neg hne, if_neg hne]
  since_both hboth := by
    rw [hc.since, ha.since, hb.since]
    by_cases hleft : escalating = []
    · have hright : more = [] := hb.isHealthy_iff.1 (hboth ▸ ha.isHealthy_iff.2 hleft)
      obtain ⟨t, ht⟩ := exists_latest_since hxs
      obtain ⟨u, hu⟩ := exists_latest_since hys
      rw [hleft, hright, List.append_nil, if_pos rfl, if_pos rfl, if_pos rfl, List.map_append]
      exact ⟨t, u, ht, hu, Instant.latest_append ht hu⟩
    · have hright : more ≠ [] :=
        hb.isHealthy_eq_false_iff.1 (hboth ▸ ha.isHealthy_eq_false_iff.2 hleft)
      obtain ⟨t, ht⟩ := exists_latest_since hleft
      obtain ⟨u, hu⟩ := exists_latest_since hright
      rw [if_neg (List.append_ne_nil_of_left_ne_nil hleft more), if_neg hleft, if_neg hright,
        List.map_append]
      exact ⟨t, u, ht, hu, Instant.latest_append ht hu⟩
  reason hleft hright := by
    have hne := ha.isHealthy_eq_false_iff.1 hleft
    have hne' := hb.isHealthy_eq_false_iff.1 hright
    rw [hc.reason (List.append_ne_nil_of_left_ne_nil hne more), ha.reason hne, hb.reason hne',
      nonHealthy_append, joinReasons_append (hlisted hne) (hlisted' hne')]
  message hboth := by
    rw [hc.message, ha.message, hb.message, ← joinMessages_append]
    by_cases hleft : escalating = []
    · have hright : more = [] := hb.isHealthy_iff.1 (hboth ▸ ha.isHealthy_iff.2 hleft)
      rw [hleft, hright, List.append_nil, if_pos rfl, if_pos rfl, if_pos rfl]
    · have hright : more ≠ [] :=
        hb.isHealthy_eq_false_iff.1 (hboth ▸ ha.isHealthy_eq_false_iff.2 hleft)
      rw [if_neg (List.append_ne_nil_of_left_ne_nil hleft more), if_neg hleft, if_neg hright,
        nonHealthy_append]

/-- The order of the conditions matters neither to the status nor to the time. -/
theorem SumsUp.congr (hall : ∀ x, x ∈ xs ↔ x ∈ ys) (hescalating : ∀ x, x ∈ escalating ↔ x ∈ more)
    (ha : a.SumsUp k xs escalating) (hb : b.SumsUp k ys more) :
    a.status = b.status ∧ a.since = b.since := by
  have hnil : escalating = [] ↔ more = [] := by
    simp only [List.eq_nil_iff_forall_not_mem, hescalating]
  refine ⟨?_, ?_⟩
  · rw [ha.status, hb.status, verdict_congr hescalating]
  · rw [ha.since, hb.since]
    refine Instant.latest_congr fun t ↦ ?_
    by_cases hmore : more = []
    · simp only [if_pos hmore, if_pos (hnil.2 hmore), List.mem_map, hall]
    · simp only [if_neg hmore, if_neg (mt hnil.1 hmore), List.mem_map, hescalating]

end Composite

open Composite in
/-- **The composite of lists put together** is the union of the composites of the lists, whatever
the category, and with a policy or without one. Hence the order of the conditions matters neither to
its status nor to its time, and further conditions, wherever they are added, never turn a composite
that has escalated into a healthy one. -/
theorem Category.composite?_append (k : Category) (policy : Option Policy) (now : Instant) :
    (∀ s t : List Condition, s ≠ [] → t ≠ [] → ∃ a b c,
      k.composite? policy now s = some a ∧ k.composite? policy now t = some b ∧
      k.composite? policy now (s ++ t) = some c ∧ c.IsUnion a b) ∧
    (∀ s t : List Condition, s.Perm t →
      (k.composite? policy now s).map (fun c ↦ (c.status, c.since)) =
        (k.composite? policy now t).map fun c ↦ (c.status, c.since)) ∧
    ∀ s t : List Condition, s ≠ [] → s ⊆ t → ∀ a, k.composite? policy now s = some a →
      a.isHealthy = false → ∃ b, k.composite? policy now t = some b ∧ b.isHealthy = false := by
  refine ⟨fun s t hs ht ↦ ?_, fun s t hperm ↦ ?_, fun s t hs hsub a ha hfailing ↦ ?_⟩
  · obtain ⟨a, ha, hasum⟩ := exists_sumsUp k policy now hs
    obtain ⟨b, hb, hbsum⟩ := exists_sumsUp k policy now ht
    obtain ⟨c, hc, hcsum⟩ := exists_sumsUp k policy now (List.append_ne_nil_of_left_ne_nil hs t)
    rw [escalating_append] at hcsum
    exact ⟨a, b, c, ha, hb, hc,
      hasum.union hs ht nonHealthy_ne_nil nonHealthy_ne_nil hbsum hcsum⟩
  · by_cases hs : s = []
    · subst hs
      rw [List.nil_perm.1 hperm]
    have ht : t ≠ [] := by
      rintro rfl
      exact hs (List.perm_nil.1 hperm)
    obtain ⟨a, ha, hasum⟩ := exists_sumsUp k policy now hs
    obtain ⟨b, hb, hbsum⟩ := exists_sumsUp k policy now ht
    have hescalating (x : Condition) :
        x ∈ k.escalating policy now s ↔ x ∈ k.escalating policy now t :=
      ⟨fun hx ↦ mem_escalating_of_mem hx (hperm.mem_iff.1 (mem_of_mem_escalating hx)),
        fun hx ↦ mem_escalating_of_mem hx (hperm.mem_iff.2 (mem_of_mem_escalating hx))⟩
    obtain ⟨hstatus, hsince⟩ := hasum.congr (fun x ↦ hperm.mem_iff) hescalating hbsum
    rw [ha, hb, Option.map_some, Option.map_some, hstatus, hsince]
  · have ht : t ≠ [] := by
      rintro rfl
      exact hs (List.subset_nil.1 hsub)
    obtain ⟨d, hd, hdsum⟩ := exists_sumsUp k policy now hs
    obtain ⟨b, hb, hbsum⟩ := exists_sumsUp k policy now ht
    obtain rfl := Option.some.inj (hd.symm.trans ha)
    -- what escalated still does
    obtain ⟨x, hx⟩ := List.exists_mem_of_ne_nil _ (hdsum.isHealthy_eq_false_iff.1 hfailing)
    have hxt := mem_escalating_of_mem hx (hsub (mem_of_mem_escalating hx))
    exact ⟨b, hb, hbsum.isHealthy_eq_false_iff.2 (List.ne_nil_of_mem hxt)⟩

/-- A tape nobody can tell about and a disk that fails. Without a policy both escalate: the tape
decides the status, both are listed, and the later one dates the whole. With a hold of two minutes
the disk alone escalates, and it still does when the tape comes after it or before it. -/
theorem Category.composite?_append_tape :
    let tape : Condition := ⟨"TapeDegraded", .unknown, ⟨19783, 43190, 0, by decide⟩, "", "lost\n"⟩
    let disk : Condition := ⟨"DiskDegraded", .yes, ⟨19783, 43000, 0, by decide⟩, "Full", "sda"⟩
    let now : Instant := ⟨19783, 43200, 0, by decide⟩
    let policy : Policy := ⟨.ofSeconds 120, []⟩
    (∃ c, Category.degraded.composite? none now ([tape] ++ [disk]) = some c ∧
      c.status = .unknown ∧ c.reason = "Tape::Disk_Full" ∧
      c.message = "TapeDegraded: lost\nTapeDegraded: \nDiskDegraded: sda" ∧
      c.since = some tape.since) ∧
    (Category.degraded.composite? (some policy) now [tape, disk]).map
      (fun c ↦ (c.status, c.since)) = some (.yes, some disk.since) ∧
    ∃ c, Category.degraded.composite? (some policy) now [tape, disk] = some c ∧
      c.isHealthy = false := by
  intro tape disk now policy
  obtain ⟨a, b, c, ha, hb, hc, hunion⟩ :=
    (Category.composite?_append .degraded none now).1 [tape] [disk] (by decide) (by decide)
  have ha' : a = ⟨.degraded, .unknown, "Tape", "TapeDegraded: lost\nTapeDegraded: ",
      some tape.since⟩ :=
    Option.some.inj (ha.symm.trans (by decide))
  have hb' : b = ⟨.degraded, .yes, "Disk_Full", "DiskDegraded: sda", some disk.since⟩ :=
    Option.some.inj (hb.symm.trans (by decide))
  subst ha' hb'
  have hcategory : c.category = .degraded := hunion.category.1.symm
  obtain ⟨t, u, ht, hu, hsince⟩ := hunion.since_both (by decide)
  obtain rfl := Option.some.inj ht
  obtain rfl := Option.some.inj hu
  refine ⟨⟨c, hc, ?_, hunion.reason (by decide) (by decide), hunion.message (by decide),
    hsince⟩, ?_, ?_⟩
  · rw [hunion.status, hcategory]
    rfl
  · rw [(Category.composite?_append .degraded (some policy) now).2.1 [tape, disk] [disk, tape]
      (List.Perm.swap disk tape [])]
    decide
  · exact (Category.composite?_append .degraded (some policy) now).2.2 [disk] [tape, disk]
      (by decide) (by decide) ⟨.degraded, .yes, "Disk_Full", "DiskDegraded: sda", some disk.since⟩
      (by decide) (by decide)

end StatusRollup
