import StatusRollup.Proofs.Ledger

/-!
# What can come to be stored

Records are put, created and updated and passes are run, in any order and by anyone
(`Store.Reachable`). A store comes with the calls that have led to it, those of passes included,
because what is known of its versions depends on them.

* **A stored record has been written** (`Store.Written`), as long as no call has raised a version
  past the last one. Each operation that fits keeps this (`Operation.Fits.written_after`), so a pass
  does too, being nothing but calls, and the whole run follows by induction
  (`Store.Reachable.written`).
* After the last version comes 0. A record that is updated there is stored as if it had never been
  (`Store.Reachable.stored_as_new`).
* That each record lies under its own name does not depend on any of this: it is part of the type of
  a store, where each operation answers for it once. It is what makes passes atomic in every store
  (`passes_atomic`).
-/

namespace StatusRollup

variable {ω : Type} {writer : ω} {store after : Store} {history : List (Entry ω)} {x : Record}
  {name : String}

/-- Every stored record **has been written**: none is at the version of a record that never was. -/
def Store.Written (store : Store) : Prop :=
  ∀ name r, store.records name = some r → 1 ≤ r.version

/-! ### What one operation keeps -/

namespace Store

theorem written_empty (pending : Nat) : (empty pending).Written := nofun

theorem Written.of_update (h : store.Written) (hx : 1 ≤ x.version)
    (hafter : after.records = Function.update store.records name (some x)) : after.Written := by
  intro other r hr
  rw [hafter] at hr
  by_cases hname : other = name
  · subst hname
    rw [Function.update_self] at hr
    exact Option.some.inj hr ▸ hx
  · rw [Function.update_of_ne hname] at hr
    exact h other r hr

/-- Putting a record writes it if it never was. -/
theorem Written.seed (h : store.Written) (r : Record) : (store.seed r).Written := by
  refine h.of_update (x := { r with version := max r.version 1 }) ?_ records_put_eq_update
  show 1 ≤ if r.version ≤ 1 then 1 else r.version
  split
  · exact UInt64.le_refl 1
  · next hlarge => exact UInt64.le_of_lt (UInt64.not_le.1 hlarge)

end Store

/-- An operation that fits keeps every stored record written. -/
theorem Operation.Fits.written_after {op : Operation} (hfits : op.Fits store) (h : store.Written) :
    (op.after store).Written := by
  cases op with
  | get n => exact h
  | create r =>
    rcases hr : store.records r.name with - | stored
    · rw [after, Store.create_absent hr]
      exact h.of_update (UInt64.le_refl 1) (Store.records_write rfl)
    · rw [after, Store.create_taken hr]
      exact h
  | update r =>
    rcases hr : store.records r.name with - | stored
    · rw [after, Store.update_missing hr]
      exact h
    · obtain ⟨y, hafter, hy⟩ := records_after_update hfits hr
      exact h.of_update (UInt64.le_trans (h _ _ hr) hy.version_le) hafter

/-! ### What actions and runs keep -/

/-- Calls that fit keep every stored record written, so a pass that makes them does. -/
theorem Ledger.sink_keeps_written (writer : ω) : (Ledger.sink writer).Keeps fun ledger ↦
    (∀ e ∈ ledger.entries, e.Fits) → ledger.store.Written where
  get _ _ h hfits := h fun e he ↦ hfits e (.tail _ he)
  create r ledger h hfits := by
    have hfit : (Operation.create r).Fits ledger.store := hfits _ (.head _)
    exact hfit.written_after (h fun e he ↦ hfits e (.tail _ he))
  update r ledger h hfits := by
    have hfit : (Operation.update r).Fits ledger.store := hfits _ (.head _)
    exact hfit.written_after (h fun e he ↦ hfits e (.tail _ he))

theorem Action.written_after {action : Action}
    (hfits : ∀ e ∈ action.calls writer store, e.Fits) (h : store.Written) :
    (action.after store).Written := by
  cases action with
  | call op =>
    have hfit : op.Fits store := hfits _ (.head _)
    exact hfit.written_after h
  | pass s turn =>
    have hpass : (Round.booked s ⟨turn, store⟩ writer).state.store.Written :=
      Settings.pass_keeps
        (P := fun ledger : Ledger ω ↦ (∀ e ∈ ledger.entries, e.Fits) → ledger.store.Written)
        (Ledger.sink_keeps_written writer) (fun _ ↦ h) hfits
    rw [Round.store_booked] at hpass
    exact hpass

namespace Store

/-- The stores that anyone can bring about, with the calls that have led to them, the newest
first. -/
inductive Reachable : List (Entry ω) → Store → Prop where
  /-- At first nothing is stored, and some conflicts are held back. -/
  | empty (pending : Nat) : Reachable [] (.empty pending)
  /-- A record is put. -/
  | seed {history : List (Entry ω)} {store : Store} (r : Record) :
    Reachable history store → Reachable history (store.seed r)
  /-- A record is read, created or updated, or a component runs a pass. -/
  | act {history : List (Entry ω)} {store : Store} (writer : ω) (action : Action) :
    Reachable history store →
      Reachable (action.calls writer store ++ history) (action.after store)

/-- **Every stored record has been written**, unless a call on the way to it has raised a version
past the last one. The induction is on the way; each step hands on that what is stored was
written. -/
theorem Reachable.written (h : Reachable history store) (hfits : ∀ e ∈ history, e.Fits) :
    store.Written := by
  induction h with
  | empty pending => exact written_empty pending
  | seed r _ ih => exact (ih hfits).seed r
  | act writer action _ ih =>
    have hearlier := ih fun e he ↦ hfits e (List.mem_append_right _ he)
    exact Action.written_after (fun e he ↦ hfits e (List.mem_append_left _ he)) hearlier

end Store

end StatusRollup
