import StatusRollup.Proofs.Fixpoint
import StatusRollup.Proofs.Replay
import StatusRollup.Proofs.Rounds

/-!
# Where the stored related objects come from

The related objects of one record through a run of passes that succeed. A supplier that cannot
answer makes a pass report the configured list and the stored one together, repetitions and all, so
the stored list is fed back into itself; nothing in one pass says that it does not grow or that it
does not keep references from long ago. Both follow from one fact that every pass brings about and
no later one undoes: the configured references are stored (`mem_related_of_mem_fixed`).

* A silent pass then reports the stored set, and the stored list is kept as it is
  (`related_of_silent_round`).
* So what is stored besides the configured references is the latest answer, or the initial list as
  long as there was no answer (`mem_related_of_rounds`).
* And the stored list is one of the lists that some pass reported, of which only the first can hold
  the initial list and none another stored one (`length_related_le`).
-/

namespace StatusRollup

/-- The answer of the supplier, if there is a supplier and it answered. -/
def Supply.answer? : Supply → Option (List ObjectRef)
  | resolved refs => some refs
  | _ => none

/-- The pass succeeded. -/
def Round.Succeeds (s : Settings) (round : Round) : Prop := ∃ o, (round.reply s).result = .ok o

instance (s : Settings) (round : Round) : Decidable (round.Succeeds s) :=
  decidable_of_iff ((round.reply s).result.toOption.isSome = true) <| by
    rw [Round.Succeeds]
    cases (round.reply s).result <;> simp [Except.toOption]

namespace Settings

/-- The answers that the supplier gave in some turns, in their order. Without a supplier there are
none. -/
def answers (s : Settings) (turns : List Turn) : List (List ObjectRef) :=
  turns.filterMap fun turn ↦ (s.supply turn.answer).answer?

/-- The length of the longest of the answers and a list of so many references. -/
def longest (s : Settings) (initial : Nat) (turns : List Turn) : Nat :=
  ((s.answers turns).map List.length).foldr max initial

variable {s : Settings} {start : Store} {turn : Turn} {turns : List Turn} {round : Round}
  {ref : ObjectRef} {refs : List ObjectRef}

theorem answers_cons_none (hanswer : turn.answer = none) :
    s.answers (turn :: turns) = s.answers turns := by
  have hsilent : (s.supply turn.answer).answer? = none := by
    rw [hanswer, supply]
    cases s.registered <;> rfl
  rw [answers, List.filterMap_cons, hsilent]
  rfl

theorem answers_cons_some (hreg : s.registered = true) (hanswer : turn.answer = some refs) :
    s.answers (turn :: turns) = refs :: s.answers turns := by
  have hresolved : (s.supply turn.answer).answer? = some refs := by
    rw [hanswer, supply, hreg]
    rfl
  rw [answers, List.filterMap_cons, hresolved]
  rfl

theorem longest_le_cons {n : Nat} : s.longest n turns ≤ s.longest n (turn :: turns) := by
  rw [longest, longest, answers, answers, List.filterMap_cons]
  split
  · exact Nat.le_refl _
  · exact Nat.le_max_right _ _

/-! ### One round -/

/-- **A round that succeeds** stores the wanted related objects, as a set. -/
theorem mem_related_of_round (h : round.Succeeds s) :
    ref ∈ (s.base (round.after s)).related ↔ ref ∈ s.wanted round.answer (s.base round.before) := by
  obtain ⟨o, ho⟩ := h
  obtain ⟨hafter, xs, -, ⟨version, hrecord⟩, -⟩ := outcome_of_pass ho
  have hbase : s.base (round.after s) = o.record := base_of_stored hafter
  rw [hbase, hrecord]
  exact mem_related_plan

/-- The list that a round leaves is the one that it met or the one that it wanted. -/
theorem related_of_round (s : Settings) (round : Round) :
    (s.base (round.after s)).related = (s.base round.before).related ∨
      (s.base (round.after s)).related = s.wanted round.answer (s.base round.before) := by
  rcases s.base_of_round round with ⟨-, version, hbase⟩ | ⟨xs, -, -, version, hbase⟩
  · exact .inl (by rw [hbase])
  · have hplan : (s.base (round.after s)).related =
        (s.plan round.answer xs (s.base round.before) round.now).record.related := by
      rw [hbase]
    rw [hplan, related_plan]
    exact ite_eq_or_eq _ _ _

/-- **A silent round** keeps the stored list element for element and tells of no change to it, once
the configured references are stored. It need not even succeed. -/
theorem related_of_silent_round (round : Round) (hsilent : s.supply round.answer = .unavailable)
    (hfixed : ∀ ref ∈ s.fixed, ref ∈ (s.base round.before).related) :
    (s.base (round.after s)).related = (s.base round.before).related ∧
      ∀ n, .relatedChanged n ∉ round.events s := by
  rcases s.base_of_round round with
    ⟨hevents, version, hbase⟩ | ⟨xs, -, ⟨version, hevents⟩, version', hbase⟩
  · rw [hbase, hevents]
    exact ⟨rfl, fun n ↦ List.not_mem_nil⟩
  -- what a silent supplier makes wanted is longer than the stored list, but the same set
  have hwanted : s.wanted round.answer (s.base round.before) =
      s.fixed ++ (s.base round.before).related := by
    rw [wanted, hsilent]
    rfl
  have hsame : ObjectRef.sameSet (s.wanted round.answer (s.base round.before))
      (s.base round.before).related = true := by
    rw [hwanted, ObjectRef.sameSet_iff]
    intro ref
    rw [List.mem_append]
    exact ⟨fun h ↦ h.elim (hfixed ref) id, .inr⟩
  have hrelated : (s.plan round.answer xs (s.base round.before) round.now).record.related =
      (s.base round.before).related := by
    rw [related_plan, if_pos hsame]
  refine ⟨by rw [hbase]; exact hrelated, fun n ↦ ?_⟩
  have hkept :
      ObjectRef.sameSet (s.base round.before).related (s.base round.before).related = true :=
    ObjectRef.sameSet_iff.2 fun _ ↦ Iff.rfl
  rw [hevents, events_plan, record_plan_version, hrelated, if_pos hkept, List.append_nil]
  split <;> simp

/-! ### Runs -/

/-- Once a pass has succeeded, the configured references are stored. -/
theorem mem_related_of_mem_fixed (hsucceed : ∀ round ∈ s.rounds start turns, round.Succeeds s)
    (hturns : turns ≠ []) (href : ref ∈ s.fixed) :
    ref ∈ (s.base (s.storeAfter start turns)).related := by
  obtain ⟨turn, earlier, rfl⟩ := List.exists_cons_of_ne_nil hturns
  rw [storeAfter_cons, mem_related_of_round (hsucceed _ List.mem_cons_self)]
  exact mem_wanted_of_mem_fixed href

/-- **What is stored besides the configured references** is the latest answer, or the initial list
if there was none. The configured ones are on both sides because the initial list need not hold
them. -/
theorem mem_related_of_rounds (hreg : s.registered = true)
    (hsucceed : ∀ round ∈ s.rounds start turns, round.Succeeds s) :
    ref ∈ s.fixed ∨ ref ∈ (s.base (s.storeAfter start turns)).related ↔
      ref ∈ s.fixed ∨ ref ∈ (s.answers turns).head?.getD (s.base start).related := by
  induction turns with
  | nil => exact Iff.rfl
  | cons turn turns ih =>
    have hearlier := ih fun round hround ↦ hsucceed round (List.mem_cons_of_mem _ hround)
    rw [storeAfter_cons, mem_related_of_round (hsucceed _ List.mem_cons_self)]
    rcases hanswer : turn.answer with - | refs
    · rw [answers_cons_none hanswer, wanted_none hreg, List.mem_append, ← hearlier]
      exact ⟨fun h ↦ h.elim .inl id, .inr⟩
    · rw [answers_cons_some hreg hanswer, wanted_some hreg, List.mem_append]
      exact ⟨fun h ↦ h.elim .inl Or.symm, fun h ↦ .inr h.symm⟩

/-- What is wanted is no longer than the configured list and an answer, unless the supplier is
silent. -/
theorem length_wanted_le {n : Nat} {r : Record} (h : s.supply turn.answer ≠ .unavailable) :
    (s.wanted turn.answer r).length ≤ s.fixed.length + s.longest n (turn :: turns) := by
  cases hreg : s.registered with
  | false =>
    rw [wanted_unregistered hreg]
    exact Nat.le_add_right _ _
  | true =>
    rcases hanswer : turn.answer with - | refs
    · exact absurd (by rw [hanswer, supply, hreg]; rfl) h
    · rw [wanted_some hreg, List.length_append, Nat.add_comm, longest,
        answers_cons_some hreg hanswer]
      exact Nat.add_le_add_left (Nat.le_max_left _ _) _

/-- **The stored list does not grow**: it is never longer than the configured list and the longest
of the answers and the initial list together. -/
theorem length_related_le (hsucceed : ∀ round ∈ s.rounds start turns, round.Succeeds s) :
    (s.base (s.storeAfter start turns)).related.length ≤
      s.fixed.length + s.longest (s.base start).related.length turns := by
  induction turns with
  | nil => exact Nat.le_add_left _ _
  | cons turn turns ih =>
    have hsucceed' : ∀ round ∈ s.rounds start turns, round.Succeeds s :=
      fun round hround ↦ hsucceed round (List.mem_cons_of_mem _ hround)
    have hearlier : (s.base (s.storeAfter start turns)).related.length ≤
        s.fixed.length + s.longest (s.base start).related.length (turn :: turns) :=
      Nat.le_trans (ih hsucceed') (Nat.add_le_add_left longest_le_cons _)
    rw [storeAfter_cons]
    rcases s.related_of_round ⟨turn, s.storeAfter start turns⟩ with hkept | hwanted
    · rw [hkept]
      exact hearlier
    replace hwanted : (s.base (Round.after s ⟨turn, s.storeAfter start turns⟩)).related =
        s.wanted turn.answer (s.base (s.storeAfter start turns)) := hwanted
    by_cases hsilent : s.supply turn.answer = .unavailable
    swap
    · rw [hwanted]
      exact length_wanted_le hsilent
    by_cases hturns : turns = []
    · -- only the first pass of a run can feed the initial list back
      subst hturns
      have hinitial : s.longest (s.base start).related.length [] ≤
          s.longest (s.base start).related.length [turn] := longest_le_cons
      rw [hwanted, wanted, hsilent]
      show (s.fixed ++ (s.base start).related).length ≤ _
      rw [List.length_append]
      exact Nat.add_le_add_left hinitial _
    · rw [(related_of_silent_round _ hsilent fun _ ↦
        mem_related_of_mem_fixed hsucceed' hturns).1]
      exact hearlier

/-- **Stored related objects come from the latest answer and do not pile up**, over every run of
passes that succeed, whatever the supplier says in each of them and however conflicts are held back.

* After the run the stored list holds, as a set, the configured references; with a supplier, the
  latest answer besides; and if the supplier has never answered, the initial list besides.
* From the second pass on, a pass in which the supplier does not answer leaves the stored list as it
  is, element for element, and neither tells nor sends that it has changed.
* At no time is the stored list longer than the configured list and the longest of the answers so
  far and the initial list together. -/
theorem related_is_latest_answer (s : Settings) (start : Store) (turns : List Turn)
    (hsucceed : ∀ round ∈ s.rounds start turns, round.Succeeds s) :
    let initial := (s.base start).related
    let stored := (s.base (s.storeAfter start turns)).related
    (turns ≠ [] →
      (s.registered = false → ∀ ref, ref ∈ stored ↔ ref ∈ s.fixed) ∧
      (s.registered = true → ∀ latest ∈ (s.answers turns).head?,
        ∀ ref, ref ∈ stored ↔ ref ∈ s.fixed ∨ ref ∈ latest) ∧
      (s.registered = true → s.answers turns = [] →
        ∀ ref, ref ∈ stored ↔ ref ∈ s.fixed ∨ ref ∈ initial)) ∧
    (∀ later turn earlier, turns = later ++ turn :: earlier → earlier ≠ [] →
      s.supply turn.answer = .unavailable →
        let round : Round := ⟨turn, s.storeAfter start earlier⟩
        (s.base (s.storeAfter start (turn :: earlier))).related =
            (s.base (s.storeAfter start earlier)).related ∧
          (∀ n, .relatedChanged n ∉ round.events s) ∧
          ∀ notice ∈ (round.reply s).sent, ∀ n, notice.event ≠ .relatedChanged n) ∧
    stored.length ≤ s.fixed.length + s.longest initial.length turns := by
  intro initial stored
  refine ⟨fun hturns ↦ ?_, fun later turn earlier hsplit hearlier hsilent ↦ ?_,
    length_related_le hsucceed⟩
  · have hfixed : ∀ ref ∈ s.fixed, ref ∈ stored :=
      fun ref ↦ mem_related_of_mem_fixed hsucceed hturns
    have hstored : s.registered = true → ∀ ref, ref ∈ stored ↔
        ref ∈ s.fixed ∨ ref ∈ (s.answers turns).head?.getD initial := by
      intro hreg ref
      rw [← mem_related_of_rounds hreg hsucceed]
      exact ⟨.inr, fun h ↦ h.elim (hfixed ref) id⟩
    refine ⟨fun hreg ref ↦ ?_, fun hreg latest hlatest ref ↦ ?_, fun hreg hnone ref ↦ ?_⟩
    · obtain ⟨turn, earlier, rfl⟩ := List.exists_cons_of_ne_nil hturns
      have hafter : stored = (s.base (Round.after s ⟨turn, s.storeAfter start earlier⟩)).related :=
        rfl
      rw [hafter, mem_related_of_round (hsucceed _ List.mem_cons_self), wanted_unregistered hreg]
    · rw [hstored hreg, hlatest, Option.getD_some]
    · rw [hstored hreg, hnone, List.head?_nil, Option.getD_none]
  · subst hsplit
    have hmet : ∀ round ∈ s.rounds start earlier, round.Succeeds s := fun round hround ↦
      hsucceed round (mem_rounds_append (List.mem_cons_of_mem _ hround))
    obtain ⟨hrelated, hevents⟩ :=
      related_of_silent_round ⟨turn, s.storeAfter start earlier⟩ hsilent
        fun _ ↦ mem_related_of_mem_fixed hmet hearlier
    exact ⟨hrelated, hevents, fun notice hnotice n heq ↦
      hevents n (heq ▸ Round.event_of_mem_sent hnotice)⟩

/-- A reference `c` is stored that nobody wants, and the supplier is silent, answers `b` twice and
is silent again. The first pass stores `c` on, the second one drops it, the third one keeps the list
as it is, repetition included; in front of each there is a conflict. -/
theorem related_is_latest_answer_silent :
    let a : ObjectRef := ⟨"", "nodes", "", "a"⟩
    let b : ObjectRef := ⟨"", "nodes", "", "b"⟩
    let c : ObjectRef := ⟨"", "nodes", "", "c"⟩
    let s := { Settings.ofPolicy "operator" .none with registered := true, fixed := [a] }
    let start := (Store.empty 3).seed ⟨"operator", 4, [], [c]⟩
    let first : Turn := ⟨⟨.ok [], none⟩, ⟨1, 0, 0, by decide⟩⟩
    let second : Turn := ⟨⟨.ok [], some [b, b]⟩, ⟨2, 0, 0, by decide⟩⟩
    let third : Turn := ⟨⟨.ok [], none⟩, ⟨3, 0, 0, by decide⟩⟩
    (s.base (s.storeAfter start [first])).related = [a, c] ∧
      (∀ ref, ref ∈ (s.base (s.storeAfter start [third, second, first])).related ↔
        ref ∈ [a] ∨ ref ∈ [b, b]) ∧
      (s.base (s.storeAfter start [third, second, first])).related =
        (s.base (s.storeAfter start [second, first])).related := by
  intro a b c s start first second third
  have hsucceed : ∀ round ∈ s.rounds start [third, second, first], round.Succeeds s := by decide
  obtain ⟨hstored, hsilent, -⟩ := related_is_latest_answer s start [third, second, first] hsucceed
  obtain ⟨-, hlatest, -⟩ := hstored (List.cons_ne_nil _ _)
  obtain ⟨hkept, -⟩ := hsilent [] third [second, first] rfl (List.cons_ne_nil _ _) rfl
  refine ⟨by decide, ?_, hkept⟩
  exact hlatest rfl [b, b] rfl

end Settings

end StatusRollup
