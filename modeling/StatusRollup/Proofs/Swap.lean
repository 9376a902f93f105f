import Mathlib.Logic.Function.Basic
import StatusRollup.Store

/-!
# Compare and swap

The store's operations, branch by branch. An update looks at three things: whether a record of its
name is stored, whether a conflict is held back, and whether the version it carries is the one it
meets. A conflict that is held back raises the stored version first, so what is met then is the
raised version.

* `create_absent`, `create_taken` — a creation.
* `update_missing` — an update of a name that is not stored.
* `update_current`, `update_stale` — an update that meets no conflict.
* `update_overtaken`, `update_ahead` — an update that meets one. It is refused, unless it carries
  the version that the conflict has just raised the record to.

Proofs about the store go by these cases and never unfold an operation. `update_contract` puts the
cases of an update together: what decides is the version that the update meets
(`Store.versionMet`), not whether a conflict was held back.
-/

namespace StatusRollup

namespace Store

variable {store : Store} {r stored : Record} {name : String} {v : UInt64}

/-! ### What is stored -/

theorem records_put_eq_update :
    (store.put r).records = Function.update store.records r.name (some r) := by
  funext name
  rw [records_put, Function.update_apply]

theorem records_write (hname : r.name = name) :
    (store.write r v).records =
      Function.update store.records name (some { r with version := v }) := by
  subst hname
  exact records_put_eq_update

theorem records_write_self (hname : r.name = name) :
    (store.write r v).records name = some { r with version := v } := by
  rw [records_write hname, Function.update_self]

theorem records_overtake (hname : r.name = name) :
    (store.overtake r).records =
      Function.update store.records name (some { r with version := r.version + 1 }) := by
  subst hname
  exact records_put_eq_update

/-! ### The operations by cases -/

theorem create_absent (hr : store.records r.name = none) :
    store.create r = ⟨.ok { r with version := 1 }, store.write r 1, []⟩ := by
  simp only [create, hr]

theorem create_taken (hr : store.records r.name = some stored) :
    store.create r = ⟨.error (.alreadyExists r.name), store, []⟩ := by
  simp only [create, hr]

theorem update_missing (hr : store.records r.name = none) :
    store.update r = ⟨.error (.recordNotFound r.name), store, []⟩ := by
  simp only [update, hr]

theorem update_current (hr : store.records r.name = some stored) (hpending : store.pending = 0)
    (hversion : stored.version = r.version) :
    store.update r = ⟨.ok { r with version := r.version + 1 },
      store.write r (r.version + 1), []⟩ := by
  simp only [update, hr, hpending, if_true, swap, hversion]

theorem update_stale (hr : store.records r.name = some stored) (hpending : store.pending = 0)
    (hversion : stored.version ≠ r.version) :
    store.update r = ⟨.error (.conflict r.name r.version stored.version), store, []⟩ := by
  simp only [update, hr, hpending, if_true, swap, hversion, if_false]

theorem update_overtaken (hr : store.records r.name = some stored) (hpending : 0 < store.pending)
    (hversion : stored.version + 1 ≠ r.version) :
    store.update r = ⟨.error (.conflict r.name r.version (stored.version + 1)),
      store.overtake stored, [.overtaken r.name]⟩ := by
  simp only [update, hr, Nat.ne_of_gt hpending, if_false, swap, hversion]

/-- The version carried is one ahead of the stored one, and the conflict closes the gap. -/
theorem update_ahead (hr : store.records r.name = some stored) (hpending : 0 < store.pending)
    (hversion : stored.version + 1 = r.version) :
    store.update r = ⟨.ok { r with version := r.version + 1 },
      (store.overtake stored).write r (r.version + 1), [.overtaken r.name]⟩ := by
  simp only [update, hr, Nat.ne_of_gt hpending, if_false, swap, hversion, if_true]

/-! ### The contract of an update -/

/-- The version that an update meets: the stored one, raised by a conflict that is held back. -/
def versionMet (store : Store) (stored : Record) : UInt64 :=
  if store.pending = 0 then stored.version else stored.version + 1

theorem versionMet_of_pending_eq_zero (hpending : store.pending = 0) :
    store.versionMet stored = stored.version :=
  if_pos hpending

theorem versionMet_of_pending_pos (hpending : 0 < store.pending) :
    store.versionMet stored = stored.version + 1 :=
  if_neg (Nat.ne_of_gt hpending)

/-- An update that carries the version it meets writes its record, and uses up a conflict if one is
held back. -/
theorem update_of_versionMet_eq (hr : store.records r.name = some stored)
    (hmet : store.versionMet stored = r.version) :
    (store.update r).result = .ok { r with version := r.version + 1 } ∧
      (store.update r).state.records =
        Function.update store.records r.name (some { r with version := r.version + 1 }) ∧
      (store.update r).state.pending = store.pending - 1 ∧
      (store.update r).state.writes = store.writes + 1 := by
  rcases Nat.eq_zero_or_pos store.pending with hpending | hpending
  · rw [versionMet_of_pending_eq_zero hpending] at hmet
    rw [update_current hr hpending hmet]
    refine ⟨rfl, records_write rfl, ?_, rfl⟩
    show store.pending = store.pending - 1
    omega
  · rw [versionMet_of_pending_pos hpending] at hmet
    rw [update_ahead hr hpending hmet]
    refine ⟨rfl, ?_, rfl, rfl⟩
    rw [records_write rfl, records_overtake (store.kept hr), Function.update_idem]

/-- An update that carries any other version is refused. It does nothing, unless a conflict is held
back: that one is used up and has raised the stored version. -/
theorem update_of_versionMet_ne (hr : store.records r.name = some stored)
    (hmet : store.versionMet stored ≠ r.version) :
    (store.update r).result = .error (.conflict r.name r.version (store.versionMet stored)) ∧
      (store.update r).state =
        if store.pending = 0 then store else store.overtake stored := by
  rcases Nat.eq_zero_or_pos store.pending with hpending | hpending
  · rw [versionMet_of_pending_eq_zero hpending] at hmet ⊢
    rw [update_stale hr hpending hmet, if_pos hpending]
    exact ⟨rfl, rfl⟩
  · rw [versionMet_of_pending_pos hpending] at hmet ⊢
    rw [update_overtaken hr hpending hmet, if_neg (Nat.ne_of_gt hpending)]
    exact ⟨rfl, rfl⟩

/-- **The contract of an update**, for every store and every record passed in. It succeeds exactly
when a record of the name is stored and the version carried is the one that the update meets. Then
it stores its record one version on and counts one write. Otherwise nothing is written: without a
conflict held back nothing changes at all, and with one the stored version goes up by one. A name
that is not stored is reported and uses up nothing. One version on from the last one is 0, for the
version that a conflict raises as for the one that is written. -/
theorem update_contract (store : Store) (r : Record) :
    let reply := store.update r
    let written := { r with version := r.version + 1 }
    ((∃ o, reply.result = .ok o) ↔
      ∃ stored, store.records r.name = some stored ∧ store.versionMet stored = r.version) ∧
    (∀ stored, store.records r.name = some stored →
      (store.versionMet stored = r.version →
        reply.result = .ok written ∧
          reply.state.records = Function.update store.records r.name (some written) ∧
          reply.state.pending = store.pending - 1 ∧ reply.state.writes = store.writes + 1) ∧
      (store.versionMet stored ≠ r.version →
        reply.result = .error (.conflict r.name r.version (store.versionMet stored)) ∧
          (store.pending = 0 → reply.state = store) ∧
          (0 < store.pending →
            reply.state.records = Function.update store.records r.name
                (some { stored with version := stored.version + 1 }) ∧
              reply.state.pending = store.pending - 1 ∧ reply.state.writes = store.writes))) ∧
    (store.records r.name = none →
      reply.result = .error (.recordNotFound r.name) ∧ reply.state = store) := by
  intro reply written
  refine ⟨⟨?_, ?_⟩, fun stored hr ↦ ⟨update_of_versionMet_eq hr, fun hmet ↦ ?_⟩, fun hr ↦ ?_⟩
  · rintro ⟨o, ho⟩
    rcases hr : store.records r.name with - | stored
    · rw [show reply = _ from update_missing hr] at ho
      exact absurd ho nofun
    · refine ⟨stored, rfl, ?_⟩
      by_contra hmet
      rw [show reply.result = _ from (update_of_versionMet_ne hr hmet).1] at ho
      exact absurd ho nofun
  · rintro ⟨stored, hr, hmet⟩
    exact ⟨written, (update_of_versionMet_eq hr hmet).1⟩
  · obtain ⟨hresult, hstate⟩ := update_of_versionMet_ne hr hmet
    refine ⟨hresult, fun hpending ↦ ?_, fun hpending ↦ ?_⟩
    · exact hstate.trans (if_pos hpending)
    · rw [show reply.state = _ from hstate, if_neg (Nat.ne_of_gt hpending)]
      exact ⟨records_overtake (store.kept hr), rfl, rfl⟩
  · rw [show reply = _ from update_missing hr]
    exact ⟨rfl, rfl⟩

/-- A version two behind, with three conflicts held back: the update is refused, one conflict is
used up and the stored version goes from 5 to 6. -/
theorem update_contract_of_stale :
    let store := (Store.empty 3).seed ⟨"operator", 5, [], []⟩
    let r : Record := ⟨"operator", 4, [], []⟩
    store.versionMet ⟨"operator", 5, [], []⟩ ≠ r.version ∧
      (store.update r).result = .error (.conflict "operator" 4 6) ∧
      (store.update r).state.records "operator" = some ⟨"operator", 6, [], []⟩ ∧
      (store.update r).state.pending = 2 := by
  intro store r
  have hr : store.records r.name = some ⟨"operator", 5, [], []⟩ := rfl
  have hmet : store.versionMet ⟨"operator", 5, [], []⟩ ≠ r.version := by decide
  obtain ⟨hresult, -, hframe⟩ := ((update_contract store r).2.1 _ hr).2 hmet
  obtain ⟨hrecords, hpending, -⟩ := hframe (by decide)
  exact ⟨hmet, hresult, by rw [hrecords]; exact Function.update_self .., hpending⟩

/-- **A conflict that is held back does not refuse every update.** A record is stored at version 2
and then put back to version 1 while one conflict is held back. Whoever still holds version 2 gets
past that conflict: the update is written, over a record that its writer never saw. -/
theorem update_passes_held_conflict :
    let store := ((Store.empty 1).seed ⟨"operator", 2, [], []⟩).seed ⟨"operator", 1, [], []⟩
    let r : Record := ⟨"operator", 2, [], []⟩
    store.pending = 1 ∧ store.records "operator" = some ⟨"operator", 1, [], []⟩ ∧
      (store.update r).result = .ok ⟨"operator", 3, [], []⟩ ∧
      (store.update r).state.writes = 1 :=
  ⟨rfl, rfl, rfl, rfl⟩

end Store

end StatusRollup
