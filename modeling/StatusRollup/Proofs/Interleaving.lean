import StatusRollup.Proofs.Swap

/-!
# Writers that share a store

Any number of writers read, create and update records in one store, in any order, while the store
holds back any number of conflicts. A run is the list of all their calls, the newest first, each
with the store it met (`Interleaving`). Writers keep one rule (`Operation.Informed`): a version is
passed to an update only if it was returned to that very writer before, with a record of the same
name. No call raises a version past the last one (`Operation.Fits`), for then versions that were
returned long ago would come again.

What carries everything is that a stored record is never forgotten and that its version goes up
whenever it changes at all (`Operation.follows_after`). So each record that was ever returned is
either the stored one or of a smaller version (`Interleaving.upToDate`). `LosesNothing` collects
what follows:

* Two returned records of one name and version are equal. This needs no rule.
* An update that succeeds replaces exactly what its writer saw, and nobody wrote in between. This is
  where the rule is needed: a writer that guesses the next version gets past a conflict that is held
  back.
* A name is created at most once, as a record is never forgotten.
-/

namespace StatusRollup

namespace Record

variable {o x y : Record}

/-- One record **gives way to** another: it is that one, or it has a smaller version. -/
def GivesWay (o x : Record) : Prop := o.version < x.version ∨ o = x

theorem GivesWay.refl (o : Record) : o.GivesWay o := .inr rfl

theorem GivesWay.trans (h : o.GivesWay x) (h' : x.GivesWay y) : o.GivesWay y := by
  rcases h with h | rfl
  · rcases h' with h' | rfl
    · exact .inl (UInt64.lt_trans h h')
    · exact .inl h
  · exact h'

theorem GivesWay.version_le (h : o.GivesWay x) : o.version ≤ x.version := by
  rcases h with h | rfl
  · exact UInt64.le_of_lt h
  · exact UInt64.le_refl _

theorem GivesWay.eq_of_version_le (h : o.GivesWay x) (hversion : x.version ≤ o.version) : o = x :=
  h.resolve_left (UInt64.not_lt.2 hversion)

end Record

namespace Store

variable {s t u : Store}

/-- One store **follows** another: wherever the other holds a record, it holds one that the record
gives way to. -/
def Follows (s t : Store) : Prop :=
  ∀ ⦃name o⦄, t.records name = some o → ∃ x, s.records name = some x ∧ o.GivesWay x

theorem Follows.refl (s : Store) : s.Follows s := fun _ o h ↦ ⟨o, h, .refl o⟩

theorem Follows.trans (h : s.Follows t) (h' : t.Follows u) : s.Follows u := by
  intro name o ho
  obtain ⟨x, hx, hox⟩ := h' ho
  obtain ⟨y, hy, hxy⟩ := h hx
  exact ⟨y, hy, hox.trans hxy⟩

end Store

/-- A call of one of the store's operations. -/
inductive Operation where
  /-- `Store.get` -/
  | get (name : String)
  /-- `Store.create` -/
  | create (r : Record)
  /-- `Store.update` -/
  | update (r : Record)

namespace Operation

/-- The store after a call. -/
def after : Operation → Store → Store
  | get name, store => (store.get name).state
  | create r, store => (store.create r).state
  | update r, store => (store.update r).state

/-- The record that a successful call returns. A read of a name without a record returns none. -/
def returned : Operation → Store → Option Record
  | get name, store => (store.get name).result.toOption.join
  | create r, store => (store.create r).result.toOption
  | update r, store => (store.update r).result.toOption

/-- A call **fits** into the versions that there are if it raises none past the last one. An update
can raise two: the stored one, for a conflict that is held back, and the one it carries, if that is
the one met. -/
def Fits : Operation → Store → Prop
  | update r, store => ∀ stored ∈ store.records r.name,
    (0 < store.pending → stored.version.toNat + 1 < UInt64.size) ∧
      (store.versionMet stored = r.version → r.version.toNat + 1 < UInt64.size)
  | _, _ => True

/-- Whether a call fits can be decided, so it can be checked of a given run. -/
instance : DecidableRel Fits
  | get _, _ => .isTrue trivial
  | create _, _ => .isTrue trivial
  | update r, store => inferInstanceAs (Decidable (∀ stored ∈ store.records r.name, _ ∧ _))

variable {op : Operation} {store : Store} {r o stored : Record} {name : String}

/-! ### What one call can do -/

theorem lt_succ_of_room {v : UInt64} (h : v.toNat + 1 < UInt64.size) : v < v + 1 := by
  rw [UInt64.lt_iff_toNat_lt, UInt64.toNat_add, UInt64.toNat_one, Nat.mod_eq_of_lt h]
  exact Nat.lt_succ_self _

/-- An update that fits meets no smaller version than the stored one. -/
theorem Fits.le_versionMet (hfits : (update r).Fits store)
    (hr : store.records r.name = some stored) : stored.version ≤ store.versionMet stored := by
  rcases Nat.eq_zero_or_pos store.pending with hpending | hpending
  · rw [Store.versionMet_of_pending_eq_zero hpending]
    exact UInt64.le_refl _
  · rw [Store.versionMet_of_pending_pos hpending]
    exact UInt64.le_of_lt (lt_succ_of_room ((hfits stored hr).1 hpending))

/-- An update that fits and succeeds leaves a higher version than the stored one. -/
theorem Fits.lt_written (hfits : (update r).Fits store) (hr : store.records r.name = some stored)
    (hmet : store.versionMet stored = r.version) : stored.version < r.version + 1 :=
  UInt64.lt_of_le_of_lt (hmet ▸ hfits.le_versionMet hr)
    (lt_succ_of_room ((hfits stored hr).2 hmet))

/-- A successful creation meets no record of its name. -/
theorem create_returned (h : (create r).returned store = some o) :
    store.records r.name = none ∧ o = { r with version := 1 } ∧
      ((create r).after store).records r.name = some o := by
  rcases hr : store.records r.name with - | stored
  · have hcreate := Store.create_absent hr
    rw [returned, hcreate] at h
    obtain rfl := Option.some.inj h
    refine ⟨rfl, rfl, ?_⟩
    rw [after, hcreate]
    exact Store.records_write_self rfl
  · rw [returned, Store.create_taken hr] at h
    exact absurd h nofun

/-- A successful update meets a record at the version it carries. -/
theorem update_returned (h : (update r).returned store = some o) :
    ∃ stored, store.records r.name = some stored ∧ store.versionMet stored = r.version ∧
      o = { r with version := r.version + 1 } ∧
      ((update r).after store).records = Function.update store.records r.name (some o) := by
  rcases hr : store.records r.name with - | stored
  · rw [returned, Store.update_missing hr] at h
    exact absurd h nofun
  by_cases hmet : store.versionMet stored = r.version
  · obtain ⟨hresult, hrecords, -⟩ := Store.update_of_versionMet_eq hr hmet
    rw [returned, hresult] at h
    obtain rfl := Option.some.inj h
    exact ⟨stored, rfl, hmet, rfl, hrecords⟩
  · rw [returned, (Store.update_of_versionMet_ne hr hmet).1] at h
    exact absurd h nofun

/-- What a call returns is what is stored after it. -/
theorem stored_of_returned (h : op.returned store = some o) :
    (op.after store).records o.name = some o := by
  cases op with
  | get name =>
    have hr : store.records name = some o := h
    rw [store.kept hr]
    exact hr
  | create r =>
    obtain ⟨-, rfl, hafter⟩ := create_returned h
    exact hafter
  | update r =>
    obtain ⟨stored, -, -, rfl, hafter⟩ := update_returned h
    rw [hafter]
    exact Function.update_self ..

/-- An update of a stored record leaves that record or one of a higher version. -/
theorem records_after_update (hfits : (update r).Fits store)
    (hr : store.records r.name = some stored) :
    ∃ x, ((update r).after store).records = Function.update store.records r.name (some x) ∧
      stored.GivesWay x := by
  by_cases hmet : store.versionMet stored = r.version
  · obtain ⟨-, hrecords, -⟩ := Store.update_of_versionMet_eq hr hmet
    exact ⟨{ r with version := r.version + 1 }, hrecords, .inl (hfits.lt_written hr hmet)⟩
  · rw [after, (Store.update_of_versionMet_ne hr hmet).2]
    split
    · exact ⟨stored, (Function.update_eq_self_iff.2 hr.symm).symm, .inr rfl⟩
    · next hpending =>
      have hroom := (hfits stored hr).1 (Nat.pos_of_ne_zero hpending)
      exact ⟨{ stored with version := stored.version + 1 },
        Store.records_overtake (store.kept hr), .inl (lt_succ_of_room hroom)⟩

/-- **Nothing that is stored is forgotten**, and a call that changes a record raises its version. -/
theorem follows_after (hfits : op.Fits store) : (op.after store).Follows store := by
  intro name o h
  cases op with
  | get n => exact ⟨o, h, .inr rfl⟩
  | create r =>
    refine ⟨o, ?_, .inr rfl⟩
    rcases hr : store.records r.name with - | stored
    · have hne : name ≠ r.name := by
        rintro rfl
        exact (Option.some_ne_none o (h.symm.trans hr)).elim
      rw [after, Store.create_absent hr, Store.records_write rfl, Function.update_of_ne hne, h]
    · rw [after, Store.create_taken hr]
      exact h
  | update r =>
    rcases hr : store.records r.name with - | stored
    · refine ⟨o, ?_, .inr rfl⟩
      rw [after, Store.update_missing hr]
      exact h
    · obtain ⟨x, hafter, hx⟩ := records_after_update hfits hr
      rw [hafter]
      by_cases hname : name = r.name
      · subst hname
        obtain rfl := Option.some.inj (hr.symm.trans h)
        exact ⟨x, Function.update_self .., hx⟩
      · exact ⟨o, (Function.update_of_ne hname ..).trans h, .inr rfl⟩

end Operation

variable {ω : Type}

/-- A call in a history. -/
structure Entry (ω : Type) where
  /-- Who called. -/
  writer : ω
  /-- The operation and its arguments. -/
  operation : Operation
  /-- The store that the call met. -/
  before : Store

namespace Entry

/-- The store that the call left. -/
def after (e : Entry ω) : Store := e.operation.after e.before

/-- The record that the call returned. -/
def returned (e : Entry ω) : Option Record := e.operation.returned e.before

/-- The call fitted into the versions that there are. -/
def Fits (e : Entry ω) : Prop := e.operation.Fits e.before

instance (e : Entry ω) : Decidable e.Fits :=
  inferInstanceAs (Decidable (e.operation.Fits e.before))

/-- The call wrote a record of a name. -/
def Wrote (e : Entry ω) (name : String) : Prop :=
  (∃ r, r.name = name ∧ (e.operation = .create r ∨ e.operation = .update r)) ∧ e.returned.isSome

/-- The call created the record of a name. -/
def Created (e : Entry ω) (name : String) : Prop :=
  ∃ r, r.name = name ∧ e.operation = .create r ∧ e.returned.isSome

variable {e : Entry ω} {name : String} {o stored : Record}

/-- What a call returned is stored after it. -/
theorem stored_of_returned (h : e.returned = some o) : e.after.records o.name = some o :=
  Operation.stored_of_returned h

/-- The call that created a record met none of its name. -/
theorem Created.absent (h : e.Created name) : e.before.records name = none := by
  obtain ⟨r, rfl, hop, hreturned⟩ := h
  obtain ⟨o, ho⟩ := Option.isSome_iff_exists.1 hreturned
  rw [returned, hop] at ho
  exact (Operation.create_returned ho).1

/-- A write over a stored record leaves a higher version. -/
theorem Wrote.version_lt (h : e.Wrote name) (hfits : e.Fits)
    (hstored : e.before.records name = some stored) :
    ∃ o, e.after.records name = some o ∧ stored.version < o.version := by
  obtain ⟨⟨r, rfl, hop | hop⟩, hreturned⟩ := h
  · have habsent : e.before.records r.name = none := Created.absent ⟨r, rfl, hop, hreturned⟩
    exact (Option.some_ne_none stored (hstored.symm.trans habsent)).elim
  · obtain ⟨o, ho⟩ := Option.isSome_iff_exists.1 hreturned
    rw [returned, hop] at ho
    rw [Fits, hop] at hfits
    obtain ⟨stored', hr, hmet, rfl, hafter⟩ := Operation.update_returned ho
    obtain rfl := Option.some.inj (hr.symm.trans hstored)
    refine ⟨{ r with version := r.version + 1 }, ?_, hfits.lt_written hr hmet⟩
    rw [after, hop, hafter, Function.update_self]

end Entry

/-- A record that was returned to a writer at some call of a history. -/
def Observed (history : List (Entry ω)) (writer : ω) (o : Record) : Prop :=
  ∃ e ∈ history, e.writer = writer ∧ e.returned = some o

/-- The rule for writers: the version passed to an update was returned to the writer before, with a
record of the same name. -/
def Operation.Informed (op : Operation) (writer : ω) (history : List (Entry ω)) : Prop :=
  ∀ r, op = .update r → ∃ seen, Observed history writer seen ∧ seen.name = r.name ∧
    seen.version = r.version

/-- The runs of any number of writers from one store, without a version that is raised past the last
one: every call, the newest first, and the store that is left. -/
inductive Interleaving (start : Store) : List (Entry ω) → Store → Prop where
  /-- Nobody has called. -/
  | nil : Interleaving start [] start
  /-- One more call, by anyone. -/
  | cons {history : List (Entry ω)} {store : Store} (writer : ω) (op : Operation) :
    Interleaving start history store → op.Informed writer history → op.Fits store →
      Interleaving start (⟨writer, op, store⟩ :: history) (op.after store)

/-- A history in which no update is lost. -/
structure LosesNothing (history : List (Entry ω)) : Prop where
  /-- A name and a version stand for one record. -/
  unique : ∀ {writer writer' o o'}, Observed history writer o → Observed history writer' o' →
    o.name = o'.name → o.version = o'.version → o = o'
  /-- An update that succeeds replaces what its writer saw, with no conflict coming in front. -/
  replaces_seen : ∀ {later e earlier r}, history = later ++ e :: earlier →
    e.operation = .update r → e.returned.isSome →
    ∃ seen, Observed earlier e.writer seen ∧ seen.name = r.name ∧ seen.version = r.version ∧
      e.before.records r.name = some seen ∧ e.before.pending = 0
  /-- Nobody writes the record between the call that returned it and the update that replaces it. -/
  unwritten_between : ∀ {later e between s older r seen},
    history = later ++ e :: (between ++ s :: older) → e.operation = .update r →
    e.returned.isSome → s.returned = some seen → seen.name = r.name → seen.version = r.version →
    ∀ x ∈ between, ¬x.Wrote r.name
  /-- A name is created once. -/
  created_once : ∀ name, history.Pairwise fun e e' ↦ ¬(e.Created name ∧ e'.Created name)

namespace Interleaving

variable {start store : Store} {history later earlier : List (Entry ω)} {e : Entry ω}
  {writer : ω} {seen stored : Record} {name : String}

/-! ### Runs within runs -/

theorem of_cons (run : Interleaving start (e :: history) store) :
    Interleaving start history e.before ∧ e.operation.Informed e.writer history ∧ e.Fits ∧
      store = e.after := by
  cases run with
  | cons writer op run informed fits => exact ⟨run, informed, fits, rfl⟩

/-- The older part of a history is a run, and what it left is followed by every store after it. -/
theorem of_append (run : Interleaving start (later ++ earlier) store) :
    ∃ middle, Interleaving start earlier middle ∧ store.Follows middle := by
  induction later generalizing store with
  | nil => exact ⟨store, run, .refl store⟩
  | cons e later ih =>
    obtain ⟨before, -, fits, rfl⟩ := of_cons run
    obtain ⟨middle, hmiddle, hfollows⟩ := ih before
    exact ⟨middle, hmiddle, (Operation.follows_after fits).trans hfollows⟩

/-! ### What was returned and what is stored -/

/-- **Every record that was returned is stored now**, unless a higher version is. -/
theorem upToDate (run : Interleaving start history store) (h : Observed history writer seen) :
    ∃ x, store.records seen.name = some x ∧ seen.GivesWay x := by
  obtain ⟨e, he, -, hreturned⟩ := h
  obtain ⟨later, earlier, rfl⟩ := List.append_of_mem he
  obtain ⟨middle, hmiddle, hfollows⟩ := of_append run
  obtain ⟨-, -, -, rfl⟩ := of_cons hmiddle
  exact hfollows (Entry.stored_of_returned hreturned)

/-- A returned record at the stored version is the stored one. -/
theorem eq_of_version_le (run : Interleaving start history store)
    (h : Observed history writer seen) (hstored : store.records seen.name = some stored)
    (hversion : stored.version ≤ seen.version) : seen = stored := by
  obtain ⟨x, hx, hseen⟩ := run.upToDate h
  obtain rfl := Option.some.inj (hx.symm.trans hstored)
  exact hseen.eq_of_version_le hversion

theorem unique {writer' : ω} {seen' : Record} (run : Interleaving start history store)
    (h : Observed history writer seen) (h' : Observed history writer' seen')
    (hname : seen.name = seen'.name) (hversion : seen.version = seen'.version) : seen = seen' := by
  induction run with
  | nil =>
    obtain ⟨e, he, -⟩ := h
    exact absurd he List.not_mem_nil
  | @cons history store who op run informed fits ih =>
    have run' := run.cons who op informed fits
    obtain ⟨e, he, hwriter, hreturned⟩ := h
    obtain ⟨e', he', hwriter', hreturned'⟩ := h'
    -- What the newest call returned is stored now, so it is compared with the store.
    rcases List.mem_cons.1 he with rfl | hold
    · have hstored := Entry.stored_of_returned hreturned
      exact (run'.eq_of_version_le ⟨e', he', hwriter', hreturned'⟩ (hname ▸ hstored)
        (UInt64.le_of_eq hversion)).symm
    · rcases List.mem_cons.1 he' with rfl | hold'
      · have hstored := Entry.stored_of_returned hreturned'
        exact run'.eq_of_version_le ⟨e, he, hwriter, hreturned⟩ (hname ▸ hstored)
          (UInt64.le_of_eq hversion.symm)
      · exact ih ⟨e, hold, hwriter, hreturned⟩ ⟨e', hold', hwriter', hreturned'⟩

/-! ### Updates and creations -/

theorem replaces_seen {r : Record} (run : Interleaving start (later ++ e :: earlier) store)
    (hop : e.operation = .update r) (hreturned : e.returned.isSome) :
    ∃ seen, Observed earlier e.writer seen ∧ seen.name = r.name ∧ seen.version = r.version ∧
      e.before.records r.name = some seen ∧ e.before.pending = 0 := by
  obtain ⟨middle, hmiddle, -⟩ := of_append run
  obtain ⟨before, informed, fits, -⟩ := of_cons hmiddle
  obtain ⟨seen, hseen, hname, hversion⟩ := informed r hop
  obtain ⟨o, ho⟩ := Option.isSome_iff_exists.1 hreturned
  rw [Entry.returned, hop] at ho
  rw [Entry.Fits, hop] at fits
  obtain ⟨stored, hstored, hmet, -⟩ := Operation.update_returned ho
  have hle : stored.version ≤ seen.version := by
    rw [hversion, ← hmet]
    exact fits.le_versionMet hstored
  obtain rfl := before.eq_of_version_le hseen (hname ▸ hstored) hle
  refine ⟨seen, hseen, hname, hversion, hstored, ?_⟩
  -- Had a conflict come first, the version met would be ahead of everything ever returned.
  by_contra hpending
  rw [Store.versionMet_of_pending_pos (Nat.pos_of_ne_zero hpending), ← hversion,
    UInt64.add_eq_left] at hmet
  exact absurd hmet (by decide)

theorem unwritten_between {between older : List (Entry ω)} {s : Entry ω} {r : Record}
    (run : Interleaving start (later ++ e :: (between ++ s :: older)) store)
    (hop : e.operation = .update r) (hreturned : e.returned.isSome) (hs : s.returned = some seen)
    (hname : seen.name = r.name) (hversion : seen.version = r.version) :
    ∀ x ∈ between, ¬x.Wrote r.name := by
  intro x hx hwrote
  obtain ⟨replaced, -, -, hreplaced, hstored, -⟩ := run.replaces_seen hop hreturned
  obtain ⟨middle, hmiddle, -⟩ := of_append run
  obtain ⟨before, -⟩ := of_cons hmiddle
  obtain ⟨newer, between, rfl⟩ := List.append_of_mem hx
  rw [List.append_assoc, List.cons_append] at before
  obtain ⟨left, hleft, hfollows⟩ := of_append before
  obtain ⟨hmet, -, fits, rfl⟩ := of_cons hleft
  -- What `x` met was no older than what `s` returned, and what `x` left is newer still.
  obtain ⟨y, hy, hseen⟩ := hmet.upToDate ⟨s, by simp, rfl, hs⟩
  rw [hname] at hy
  obtain ⟨o, ho, hwritten⟩ := hwrote.version_lt fits hy
  obtain ⟨z, hz, ho'⟩ := hfollows ho
  obtain rfl := Option.some.inj (hz.symm.trans hstored)
  have hlt : seen.version < z.version := UInt64.lt_of_le_of_lt hseen.version_le
    (UInt64.lt_of_lt_of_le hwritten ho'.version_le)
  rw [hversion, hreplaced] at hlt
  exact UInt64.lt_irrefl _ hlt

theorem pairwise_created (run : Interleaving start history store) (name : String) :
    history.Pairwise fun e e' ↦ ¬(e.Created name ∧ e'.Created name) := by
  induction run with
  | nil => exact .nil
  | cons writer op run informed fits ih =>
    refine .cons ?_ ih
    rintro e he ⟨hnow, hearlier⟩
    obtain ⟨r, rfl, hop, hreturned⟩ := hearlier
    obtain ⟨o, ho⟩ := Option.isSome_iff_exists.1 hreturned
    -- The record created earlier is still stored in some version, so its name is taken.
    obtain ⟨x, hx, -⟩ := run.upToDate ⟨e, he, rfl, ho⟩
    have hname : o.name = r.name := by
      rw [Entry.returned, hop] at ho
      obtain ⟨-, rfl, -⟩ := Operation.create_returned ho
      rfl
    exact Option.some_ne_none x ((hname ▸ hx).symm.trans hnow.absent)

/-- **No update is lost**, whatever the order in which any number of writers call, whatever is
stored at the start and however many conflicts are held back, as long as versions do not start
again. -/
theorem losesNothing (run : Interleaving start history store) : LosesNothing history where
  unique := run.unique
  replaces_seen := by
    rintro later e earlier r rfl
    exact run.replaces_seen
  unwritten_between := by
    rintro later e between s older r seen rfl
    exact run.unwritten_between
  created_once := run.pairwise_created

/-- One writer is overtaken twice, by a conflict and by the other writer, and both of its updates
are refused. -/
theorem losesNothing_of_overtaken : ∃ (history : List (Entry Bool)) (store : Store),
    history.map (fun e ↦ e.returned.map (·.version)) =
      [none, some 3, some 2, none, some 1, some 1] ∧
    Interleaving (.empty 1) history store ∧ LosesNothing history := by
  let r : Record := ⟨"rollup", 1, [], []⟩
  have run : Interleaving (.empty 1) ([] : List (Entry Bool)) (.empty 1) := .nil
  have run := run.cons false (.create r) nofun (by decide)
  have run := run.cons true (.get "rollup") nofun (by decide)
  have run := run.cons false (.update r) (by
    rintro _ ⟨⟩
    exact ⟨r, ⟨_, .tail _ (.head _), rfl, rfl⟩, rfl, rfl⟩) (by decide)
  have run := run.cons true (.get "rollup") nofun (by decide)
  have run := run.cons true (.update { r with version := 2 }) (by
    rintro _ ⟨⟩
    exact ⟨{ r with version := 2 }, ⟨_, .head _, rfl, rfl⟩, rfl, rfl⟩) (by decide)
  have run := run.cons false (.update r) (by
    rintro _ ⟨⟩
    exact ⟨r, ⟨_, .tail _ (.tail _ (.tail _ (.tail _ (.head _)))), rfl, rfl⟩, rfl, rfl⟩) (by decide)
  exact ⟨_, _, by decide, run, run.losesNothing⟩

end Interleaving

end StatusRollup
