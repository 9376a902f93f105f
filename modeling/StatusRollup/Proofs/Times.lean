import StatusRollup.Proofs.Replay
import StatusRollup.Proofs.Rounds
import StatusRollup.Proofs.Unions

/-!
# When a stored status last changed

The time stored with a condition, followed through a whole run. A round moves it in two ways only: a
change of the stored status moves it to the instant of the round, and a category that is stored anew
brings the time of its composite with it, or the instant of the round if the composite has none
(`Round.moved`). Both are told by an event, so the time stored can be read off what the run has
told.

* `since_of_round` — one round: the time is where the round moved it, or where it was before.
* `since_of_rounds` — a run: the time is where the latest round that moved it left it, or what was
  stored at first. The induction is on the turns, and one round is all it needs.
* `since_le_of_rounds` — if nobody's clock is ahead, no stored time is ahead of the newest round.

A category that was dropped and is stored again needs no case of its own: storing it is a move, and
later than any before it.
-/

namespace StatusRollup

namespace Category

/-- A composite's time is that of one of its conditions. -/
theorem since_of_composite? {k : Category} {policy : Option Policy} {now t : Instant}
    {xs : List Condition} {c : Composite} (hc : k.composite? policy now xs = some c)
    (ht : c.since = some t) : ∃ x ∈ xs, x.since = t := by
  by_cases hxs : xs = []
  · rw [hxs, composite?_nil] at hc
    split at hc
    · obtain rfl := Option.some.inj hc
      cases ht
    · cases hc
  · rw [(Composite.sumsUp_of_composite? hxs hc).since] at ht
    obtain ⟨x, hx, hsince⟩ := List.mem_map.1 (Instant.latest_eq_some_iff.1 ht).1
    split at hx
    · exact ⟨x, hx, hsince⟩
    · exact ⟨x, mem_of_mem_escalating hx, hsince⟩

end Category

/-- A composite of an aggregate is dated by one of the conditions. -/
theorem since_of_mem_aggregate {policy : Policy} {now t : Instant} {xs : List Condition}
    {c : Composite} (hc : c ∈ aggregate policy now xs) (ht : c.since = some t) :
    ∃ x ∈ xs, x.since = t := by
  obtain ⟨x, hx, hsince⟩ := Category.since_of_composite? (mem_aggregate_iff.1 hc) ht
  rw [Grouped.get_ofList] at hx
  exact ⟨x, (List.mem_filter.1 hx).1, hsince⟩

namespace Round

/-- What a category came to in a round, if it was reported. -/
def composite (s : Settings) (round : Round) (k : Category) : Option Composite :=
  match round.conditions with
  | .ok xs => Composite.lookup (aggregate s.policy round.now xs) k
  | .error _ => none

/-- The change of a category's status that a round tells of. -/
def change (s : Settings) (round : Round) (k : Category) : Option Transition :=
  ((round.events s).filterMap Event.transition?).find? fun t ↦ t.category = k

/-- The instant to which a round moves the time of a category. A status that was stored has changed
now; a category that was not brings its composite's time, if that has one. -/
def moved (s : Settings) (round : Round) (k : Category) : Option Instant :=
  (round.change s k).map fun t ↦
    match t.previous with
    | some _ => round.now
    | none => ((round.composite s k).bind (·.since)).getD round.now

variable {s : Settings} {round : Round} {k : Category} {t : Instant}

/-- A round that tells of no change of a category does not move its time. -/
theorem moved_eq_none (h : ∀ t, Event.changed t ∈ round.events s → t.category ≠ k) :
    round.moved s k = none := by
  rw [moved, change, Option.map_eq_none_iff, List.find?_eq_none]
  intro t ht
  simpa using h t (Event.mem_filterMap_transition?_iff.1 ht)

/-- A round that stores its plan tells of the transition that a category's composite makes. -/
theorem change_of_events {xs : List Condition} (hxs : round.conditions = .ok xs)
    (hevents : ∃ version, round.events s =
      (s.plan round.answer xs { s.base round.before with version } round.now).events) :
    round.change s k = (round.composite s k).bind (s.base round.before).transition := by
  obtain ⟨version, hevents⟩ := hevents
  rw [change, hevents, Settings.filterMap_transition?_plan, Settings.transitions,
    Record.setAll_version, Record.find?_setAll pairwise_aggregate, composite, hxs]

/-- A change that a round tells of starts from the status that was stored. -/
theorem previous_of_change {t : Transition} (h : round.change s k = some t) :
    t.previous = (s.base round.before).statuses k := by
  rcases s.base_of_round round with ⟨hevents, -⟩ | ⟨xs, hxs, hevents, -⟩
  · rw [change, hevents] at h
    exact absurd h nofun
  · have hk : t.category = k := by
      simpa using List.find?_some h
    rw [change_of_events hxs hevents] at h
    obtain ⟨c, -, ht⟩ := Option.bind_eq_some_iff.1 h
    rw [Record.previous_of_transition ht, ← Record.category_of_transition ht, hk]

/-- A time is moved to now or to that of a condition, so not beyond now if no condition is. -/
theorem moved_le (hsource : ∀ xs, round.conditions = .ok xs → ∀ x ∈ xs, x.since ≤ round.now)
    (h : round.moved s k = some t) : t ≤ round.now := by
  obtain ⟨change, -, hmoved⟩ := Option.map_eq_some_iff.1 h
  split at hmoved
  · exact hmoved ▸ Instant.le_refl _
  · rcases hsince : (round.composite s k).bind (·.since) with - | t'
    · rw [hsince] at hmoved
      exact hmoved ▸ Instant.le_refl _
    · rw [hsince] at hmoved
      obtain rfl : t' = t := hmoved
      obtain ⟨c, hc, ht⟩ := Option.bind_eq_some_iff.1 hsince
      rw [composite] at hc
      split at hc
      · next xs hxs =>
        obtain ⟨x, hx, rfl⟩ := since_of_mem_aggregate (Composite.mem_of_lookup hc).1 ht
        exact hsource xs hxs x hx
      · exact absurd hc nofun

end Round

namespace Settings

variable {s : Settings} {start : Store} {turns : List Turn} {round : Round} {k : Category}
  {x : StoredCondition}

/-- **One round.** The time stored for a category afterwards is where the round moved it, or, if it
moved it nowhere, the time stored before. -/
theorem since_of_round (hx : (s.base (round.after s)).find k = some x) :
    (round.moved s k).or (((s.base round.before).find k).map (·.since)) = some x.since := by
  rcases s.base_of_round round with ⟨hevents, version, hbase⟩ | ⟨xs, hxs, hevents, version, hbase⟩
  · have hmoved : round.moved s k = none := by
      rw [Round.moved, Round.change, hevents]
      rfl
    have hfind : (s.base round.before).find k = some x := by
      rw [hbase] at hx
      exact hx
    rw [hmoved, hfind]
    rfl
  · rw [hbase] at hx
    replace hx : (s.plan round.answer xs (s.base round.before) round.now).record.find k = some x :=
      hx
    have hk : x.category = k := by simpa using List.find?_some hx
    obtain ⟨c, hc, hcategory⟩ := mirrors_plan.reported x (List.mem_of_find?_eq_some hx)
    obtain rfl : c.category = k := hcategory.trans hk
    have hcomposite : round.composite s c.category = some c := by
      rw [Round.composite, hxs]
      exact (Composite.lookup_eq_some_iff pairwise_aggregate).2 ⟨hc, rfl⟩
    have hchange : round.change s c.category = (s.base round.before).transition c := by
      rw [Round.change_of_events hxs hevents, hcomposite, Option.bind_some]
    rw [find_plan_of_mem hc] at hx
    obtain rfl := Option.some.inj hx
    rw [Round.moved, hchange, Record.transition]
    rcases hfind : (s.base round.before).find c.category with - | y
    · rw [Option.map_some, hcomposite]
      rfl
    · by_cases hstatus : y.status = c.status
      · simp [StoredCondition.merge, StoredCondition.refresh, hstatus]
      · simp [StoredCondition.merge, StoredCondition.refresh, hstatus]

/-- **A run.** The time stored for a category is where the latest round that moved it left it, or,
if none did, the time stored at first. -/
theorem since_of_rounds (hx : (s.base (s.storeAfter start turns)).find k = some x) :
    ((s.rounds start turns).findSome? fun round ↦ round.moved s k).or
      (((s.base start).find k).map (·.since)) = some x.since := by
  induction turns generalizing x with
  | nil =>
    replace hx : (s.base start).find k = some x := hx
    rw [hx]
    rfl
  | cons turn turns ih =>
    have hround := since_of_round (storeAfter_cons ▸ hx)
    rw [rounds, List.findSome?_cons]
    rcases hmoved : Round.moved s ⟨turn, s.storeAfter start turns⟩ k with - | t
    · rw [hmoved, Option.none_or] at hround
      obtain ⟨y, hy, hsince⟩ := Option.map_eq_some_iff.1 hround
      rw [← hsince]
      exact ih hy
    · rw [hmoved] at hround
      exact hround

/-- **No stored time is ahead of an instant** that no pass, no condition that a pass was told of and
no time stored at first is ahead of. -/
theorem since_le_of_rounds {now : Instant} (hnow : ∀ turn ∈ turns, turn.now ≤ now)
    (hsource : ∀ turn ∈ turns, ∀ xs, turn.conditions = .ok xs → ∀ x ∈ xs, x.since ≤ turn.now)
    (hstart : ∀ y ∈ (s.base start).conditions, y.since ≤ now)
    (hx : (s.base (s.storeAfter start turns)).find k = some x) : x.since ≤ now := by
  have hsince := since_of_rounds hx
  rcases hmoved : (s.rounds start turns).findSome? (fun round ↦ round.moved s k) with - | t
  · rw [hmoved, Option.none_or] at hsince
    obtain ⟨y, hy, hyx⟩ := Option.map_eq_some_iff.1 hsince
    exact hyx ▸ hstart y (List.mem_of_find?_eq_some hy)
  · rw [hmoved] at hsince
    obtain rfl : t = x.since := Option.some.inj hsince
    obtain ⟨round, hround, hmoves⟩ := List.exists_of_findSome?_eq_some hmoved
    obtain ⟨later, earlier, rfl, -⟩ := mem_rounds_iff.1 hround
    have hturn : round.toTurn ∈ later ++ round.toTurn :: earlier := by simp
    exact Instant.le_trans (Round.moved_le (hsource _ hturn) hmoves) (hnow _ hturn)

/-- One round does not take back the time of a category that stays stored, if the time before is not
ahead of it. -/
theorem since_le_of_round {y : StoredCondition}
    (hx : (s.base round.before).find k = some x) (hnow : x.since ≤ round.now)
    (hy : (s.base (round.after s)).find k = some y) : x.since ≤ y.since := by
  have hsince := since_of_round hy
  rcases hmoved : round.moved s k with - | t
  · rw [hmoved, hx] at hsince
    have heq : x.since = y.since := Option.some.inj hsince
    exact heq ▸ Instant.le_refl _
  · rw [hmoved] at hsince
    obtain rfl : t = y.since := Option.some.inj hsince
    obtain ⟨change, hchange, hmove⟩ := Option.map_eq_some_iff.1 hmoved
    -- the category was stored, so the round did not store it anew
    rw [Round.previous_of_change hchange, Record.statuses, hx] at hmove
    exact hmove ▸ hnow

/-! ### Whole runs -/

/-- **A stored time is that of the latest move**, over every run of passes on a record that stores
each category at most once, whatever they are told, whether they succeed, and however many conflicts
are held back.

* After the run, the time of each stored condition is where the latest round that moved it left it:
  the instant of a round that changed the stored status, or, where the category was stored anew, the
  time of its composite (the instant of that round if it had none). If no round moved it, it is the
  time stored at first.
* A round that tells of no change of a category leaves its time as it was. Rounds that fail or leave
  the record alone tell of nothing, and one that refreshes a reason or a message tells of no change.
* If instants never go back, no time stored at first is ahead of the first of them, and no condition
  is ahead of its pass, then the time of a category that stays stored never goes back. -/
theorem since_is_latest_move (s : Settings) (start : Store) (turns : List Turn)
    (hstart : ((s.base start).conditions.map (·.category)).Nodup) :
    let rounds := s.rounds start turns
    (∀ x ∈ (s.base (s.storeAfter start turns)).conditions,
      (rounds.findSome? fun round ↦ round.moved s x.category).or
        (((s.base start).find x.category).map (·.since)) = some x.since) ∧
    (∀ round ∈ rounds, ∀ x ∈ (s.base (round.after s)).conditions,
      (∀ t, .changed t ∈ round.events s → t.category ≠ x.category) →
        ∃ y ∈ (s.base round.before).conditions, y.category = x.category ∧ y.since = x.since) ∧
    ((turns.Pairwise fun later earlier ↦ earlier.now ≤ later.now) →
      (∀ first ∈ turns.getLast?, ∀ x ∈ (s.base start).conditions, x.since ≤ first.now) →
      (∀ turn ∈ turns, ∀ xs, turn.conditions = .ok xs → ∀ x ∈ xs, x.since ≤ turn.now) →
      ∀ round ∈ rounds, ∀ x ∈ (s.base round.before).conditions,
        ∀ y ∈ (s.base (round.after s)).conditions, y.category = x.category →
          x.since ≤ y.since) := by
  intro rounds
  have hbefore : ∀ round ∈ rounds, ((s.base round.before).conditions.map (·.category)).Nodup := by
    intro round hround
    obtain ⟨earlier, hmet, -⟩ := exists_storeAfter_of_mem_rounds hround
    exact hmet ▸ nodup_storeAfter hstart
  have hafter : ∀ round ∈ rounds,
      ((s.base (round.after s)).conditions.map (·.category)).Nodup := by
    intro round hround
    obtain ⟨earlier, -, hleft⟩ := exists_storeAfter_of_mem_rounds hround
    exact hleft ▸ nodup_storeAfter hstart
  refine ⟨fun x hx ↦ ?_, fun round hround x hx hidle ↦ ?_,
    fun hturns hfirst hsource round hround x hx y hy hcategory ↦ ?_⟩
  · exact since_of_rounds (Record.find_of_mem (nodup_storeAfter hstart) hx)
  · have hsince := since_of_round (Record.find_of_mem (hafter round hround) hx)
    rw [Round.moved_eq_none hidle, Option.none_or] at hsince
    obtain ⟨y, hy, hyx⟩ := Option.map_eq_some_iff.1 hsince
    have hycategory : y.category = x.category := by simpa using List.find?_some hy
    exact ⟨y, List.mem_of_find?_eq_some hy, hycategory, hyx⟩
  · have hxfind := Record.find_of_mem (hbefore round hround) hx
    have hyfind := Record.find_of_mem (hafter round hround) hy
    obtain ⟨later, earlier, rfl, hmet⟩ := mem_rounds_iff.1 hround
    obtain ⟨-, hturns, -⟩ := List.pairwise_append.1 hturns
    obtain ⟨hearlier, -⟩ := List.pairwise_cons.1 hturns
    refine since_le_of_round hxfind ?_ (hcategory ▸ hyfind)
    refine since_le_of_rounds hearlier
      (fun turn hturn ↦ hsource turn (by simp [hturn])) (fun z hz ↦ ?_) (hmet ▸ hxfind)
    -- the first turn is this one or an earlier one, so it is not ahead of this one
    have hlast : ((round.toTurn :: earlier).getLast (List.cons_ne_nil _ _)).now ≤ round.now := by
      rcases List.mem_cons.1 (List.getLast_mem (List.cons_ne_nil round.toTurn earlier)) with h | h
      · rw [h]
        exact Instant.le_refl _
      · exact hearlier _ h
    refine Instant.le_trans (hfirst _ ?_ z hz) hlast
    rw [List.getLast?_append_of_ne_nil _ (List.cons_ne_nil _ _)]
    exact List.getLast?_eq_getLast_of_ne_nil _

/-- Four turns over a record with one healthy condition, and a conflict in front of the first write.
On day 1 the failure is stored and a category anew, which is dropped on day 2; on day 3 the source
is down; on day 4 the category is stored again, with the time of its condition, which is day 3. -/
theorem since_is_latest_move_restored :
    let day0 : Instant := ⟨0, 0, 0, by decide⟩
    let day1 : Instant := ⟨1, 0, 0, by decide⟩
    let day2 : Instant := ⟨2, 0, 0, by decide⟩
    let day3 : Instant := ⟨3, 0, 0, by decide⟩
    let day4 : Instant := ⟨4, 0, 0, by decide⟩
    let s := Settings.ofPolicy "operator" .none
    let start := (Store.empty 1).seed ⟨"operator", 1, [⟨.degraded, .no, "AsExpected", "", day0⟩], []⟩
    let full : Condition := ⟨"DiskDegraded", .yes, day0, "Full", ""⟩
    let turns : List Turn :=
      [⟨⟨.ok [full, ⟨"ApiAvailable", .yes, day3, "", ""⟩], none⟩, day4⟩,
        ⟨⟨.error (.sourceUnavailable "down"), none⟩, day3⟩, ⟨⟨.ok [full], none⟩, day2⟩,
        ⟨⟨.ok [full, ⟨"ApiAvailable", .yes, day0, "", ""⟩], none⟩, day1⟩]
    (s.base (s.storeAfter start turns)).conditions =
        [⟨.degraded, .yes, "Disk_Full", "", day1⟩, ⟨.available, .yes, "AsExpected", "", day3⟩] ∧
      ((s.rounds start turns).findSome? fun round ↦ round.moved s .available) = some day3 ∧
      ∀ round ∈ s.rounds start turns, ∀ x ∈ (s.base round.before).conditions,
        ∀ y ∈ (s.base (round.after s)).conditions, y.category = x.category → x.since ≤ y.since := by
  intro day0 day1 day2 day3 day4 s start full turns
  have hleft : (s.base (s.storeAfter start turns)).conditions =
      [⟨.degraded, .yes, "Disk_Full", "", day1⟩, ⟨.available, .yes, "AsExpected", "", day3⟩] := by
    decide
  obtain ⟨hlatest, -, hforward⟩ := since_is_latest_move s start turns (by decide)
  rw [hleft] at hlatest
  have havailable := hlatest _ (.tail _ (.head _))
  have hnew : (s.base start).find .available = none := by decide
  rw [hnew, Option.map_none, Option.or_none] at havailable
  refine ⟨hleft, havailable, hforward (by decide) (by decide) fun turn hturn xs hxs ↦ ?_⟩
  simp only [turns, List.mem_cons, List.not_mem_nil, or_false] at hturn
  rcases hturn with rfl | rfl | rfl | rfl
  · obtain rfl := Except.ok.inj hxs
    decide
  · exact absurd hxs nofun
  · obtain rfl := Except.ok.inj hxs
    decide
  · obtain rfl := Except.ok.inj hxs
    decide

end Settings

end StatusRollup
