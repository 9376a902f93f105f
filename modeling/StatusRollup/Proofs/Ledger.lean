import StatusRollup.Proofs.Interleaving
import StatusRollup.Proofs.Replay
import StatusRollup.Proofs.Rounds
import StatusRollup.Proofs.Sinks

/-!
# Accounts of a store

What the calls on a store add up to. Each call is entered with the store that it met, also those
that a pass makes, and the entries account for the store that is left (`Accounts`): for its
versions, for the conflicts that it still holds back, and for its count of writes.

* One call accounts for what it does, by cases of the operation (`Accounts.of_operation`); accounts
  of one time after another add up (`Accounts.append`). So the calls of a pass account for what the
  pass does, and those of a run for the run.
* To see the calls of a pass, it is run over a ledger (`Ledger.sink`). It cannot tell that from the
  store itself (`Round.map_booked`).
* A pass looks at no reply of its own to tell of a creation; it goes by the version of the record
  that it starts from. As long as no call raises that version past the last one (`Round.HasRoom`), a
  record which was never written is one that is not stored, and the two are the same
  (`Round.count_created`).
-/

namespace StatusRollup

variable {ω : Type}

/-- The version at which a name is stored, and 0 for a name that is not. -/
def Store.version (store : Store) (name : String) : UInt64 :=
  (store.records name).elim 0 (·.version)

theorem Store.version_of_stored {store : Store} {name : String} {r : Record}
    (hr : store.records name = some r) : store.version name = r.version := by
  rw [version, hr, Option.elim_some]

theorem Store.version_of_absent {store : Store} {name : String}
    (hr : store.records name = none) : store.version name = 0 := by
  rw [version, hr, Option.elim_none]

theorem Store.versionMet_eq {store : Store} {stored : Record} :
    store.versionMet stored = stored.version + .ofNat (store.pending != 0).toNat := by
  rw [versionMet]
  cases store.pending with
  | zero => exact (UInt64.add_zero _).symm
  | succ n => rfl

/-- The name that a call is about. -/
def Operation.name : Operation → String
  | get name => name
  | create r => r.name
  | update r => r.name

namespace Entry

variable {e : Entry ω}

/-- The name that the call was about. -/
def name (e : Entry ω) : String := e.operation.name

/-- The call created a record. -/
def creates (e : Entry ω) : Bool :=
  match e.operation with
  | .create _ => e.returned.isSome
  | _ => false

/-- The call updated a record. -/
def updates (e : Entry ω) : Bool :=
  match e.operation with
  | .update _ => e.returned.isSome
  | _ => false

/-- The call used up a conflict, as an update of a stored record does while one is held back. -/
def overtaken (e : Entry ω) : Bool :=
  match e.operation with
  | .update r => (e.before.records r.name).isSome && e.before.pending != 0
  | _ => false

theorem overtaken_update (writer : ω) {r stored : Record} {store : Store}
    (hr : store.records r.name = some stored) :
    (⟨writer, .update r, store⟩ : Entry ω).overtaken = (store.pending != 0) := by
  show ((store.records r.name).isSome && store.pending != 0) = _
  rw [hr]
  rfl

/-- A call has created the record of a name exactly if it was about that name and created a
record. -/
theorem created_iff {name : String} : e.Created name ↔ e.name = name ∧ e.creates = true := by
  obtain ⟨writer, op, before⟩ := e
  cases op with
  | get n => exact ⟨fun ⟨_, _, hop, _⟩ ↦ absurd hop nofun, fun h ↦ absurd h.2 nofun⟩
  | create r =>
    constructor
    · rintro ⟨r', rfl, hop, hreturned⟩
      obtain rfl := Operation.create.inj hop
      exact ⟨rfl, hreturned⟩
    · rintro ⟨rfl, hcreates⟩
      exact ⟨r, rfl, rfl, hcreates⟩
  | update r => exact ⟨fun ⟨_, _, hop, _⟩ ↦ absurd hop nofun, fun h ↦ absurd h.2 nofun⟩

end Entry

/-- The calls of a name. -/
def about (name : String) (entries : List (Entry ω)) : List (Entry ω) :=
  entries.filter fun e ↦ e.name = name

/-- How often the calls of a name raise its version once it is stored: by an update, and by a
conflict that an update has used up. -/
def raises (name : String) (entries : List (Entry ω)) : Nat :=
  (about name entries).countP Entry.updates + (about name entries).countP Entry.overtaken

theorem raises_append {name : String} {later earlier : List (Entry ω)} :
    raises name (later ++ earlier) = raises name later + raises name earlier := by
  simp only [raises, about, List.filter_append, List.countP_append]
  omega

theorem countP_creates_pos_iff {entries : List (Entry ω)} {name : String} :
    0 < (about name entries).countP Entry.creates ↔ ∃ e ∈ entries, e.Created name := by
  simp [about, List.countP_pos_iff, Entry.created_iff, and_assoc]

/-- Calls, the newest first, that **account for** what became of a store. -/
structure Accounts (entries : List (Entry ω)) (before after : Store) : Prop where
  /-- Creations, updates and conflicts each raise the version of the name by one. -/
  version : ∀ name, after.version name = before.version name +
    .ofNat ((about name entries).countP Entry.creates + raises name entries)
  /-- A name comes to be stored by being created. -/
  stored : ∀ name, (after.records name).isSome.toNat =
    (before.records name).isSome.toNat + (about name entries).countP Entry.creates
  /-- Conflicts come out of those that are held back. -/
  pending : after.pending + entries.countP Entry.overtaken = before.pending
  /-- Creations and updates are the writes, as far as the counter goes. -/
  writes : after.writes = before.writes +
    UInt32.ofNat (entries.countP Entry.creates + entries.countP Entry.updates)

namespace Accounts

variable {before middle after : Store} {later earlier : List (Entry ω)} {e : Entry ω}

theorem nil (store : Store) : Accounts ([] : List (Entry ω)) store store :=
  ⟨fun _ ↦ (UInt64.add_zero _).symm, fun _ ↦ rfl, rfl, (UInt32.add_zero _).symm⟩

/-- Accounts of one time after another add up. -/
theorem append (hlater : Accounts later middle after) (hearlier : Accounts earlier before middle) :
    Accounts (later ++ earlier) before after where
  version name := by
    rw [hlater.version, hearlier.version, UInt64.add_assoc, ← UInt64.ofNat_add, raises_append]
    congr 2
    simp only [about, List.filter_append, List.countP_append]
    omega
  stored name := by
    have h := hlater.stored name
    have h' := hearlier.stored name
    simp only [about, List.filter_append, List.countP_append] at h h' ⊢
    omega
  pending := by
    have h := hlater.pending
    have h' := hearlier.pending
    rw [List.countP_append]
    omega
  writes := by
    rw [hlater.writes, hearlier.writes, UInt32.add_assoc, ← UInt32.ofNat_add, List.countP_append,
      List.countP_append]
    congr 2
    omega

/-- One call accounts for what it does, which is something about its own name only. -/
theorem of_call (hframe : ∀ name ≠ e.name, e.after.records name = e.before.records name)
    (hversion : e.after.version e.name = e.before.version e.name +
      .ofNat (e.creates.toNat + (e.updates.toNat + e.overtaken.toNat)))
    (hstored : (e.after.records e.name).isSome.toNat =
      (e.before.records e.name).isSome.toNat + e.creates.toNat)
    (hpending : e.after.pending + e.overtaken.toNat = e.before.pending)
    (hwrites : e.after.writes =
      e.before.writes + UInt32.ofNat (e.creates.toNat + e.updates.toNat)) :
    Accounts [e] e.before e.after := by
  have hcount : ∀ p : Entry ω → Bool, [e].countP p = (p e).toNat := by
    intro p
    cases h : p e <;> simp [h]
  refine ⟨fun name ↦ ?_, fun name ↦ ?_, ?_, ?_⟩
  · by_cases hname : e.name = name
    · subst hname
      simpa [about, raises, hcount] using hversion
    · simp [about, raises, hname, Store.version, hframe name (Ne.symm hname)]
  · by_cases hname : e.name = name
    · subst hname
      simpa [about, hcount] using hstored
    · simp [about, hname, hframe name (Ne.symm hname)]
  · rw [hcount]
    exact hpending
  · rw [hcount, hcount]
    exact hwrites

/-- A call that leaves the store alone accounts for nothing. -/
theorem of_idle (hafter : e.after = e.before) (hcreates : e.creates = false)
    (hupdates : e.updates = false) (hovertaken : e.overtaken = false) :
    Accounts [e] e.before e.after := by
  apply of_call
  · exact fun name _ ↦ by rw [hafter]
  · rw [hafter, hcreates, hupdates, hovertaken]
    exact (UInt64.add_zero _).symm
  · rw [hafter, hcreates]
    rfl
  · rw [hafter, hovertaken]
    rfl
  · rw [hafter, hcreates, hupdates]
    exact (UInt32.add_zero _).symm

/-- A call that leaves a record of its name stored, and has created it if there was none. -/
theorem of_records {x : Record}
    (hrecords : e.after.records = Function.update e.before.records e.name (some x))
    (hcreates : e.creates = (e.before.records e.name).isNone)
    (hversion : x.version = e.before.version e.name +
      .ofNat (e.creates.toNat + (e.updates.toNat + e.overtaken.toNat)))
    (hpending : e.after.pending + e.overtaken.toNat = e.before.pending)
    (hwrites : e.after.writes =
      e.before.writes + UInt32.ofNat (e.creates.toNat + e.updates.toNat)) :
    Accounts [e] e.before e.after := by
  have hstored : e.after.records e.name = some x := by
    rw [hrecords, Function.update_self]
  refine of_call (fun name hname ↦ ?_) ?_ ?_ hpending hwrites
  · rw [hrecords, Function.update_of_ne hname]
  · rw [Store.version_of_stored hstored, hversion]
  · rw [hstored, hcreates]
    cases e.before.records e.name <;> rfl

/-- A creation, which does nothing if the name is taken. -/
theorem of_create (writer : ω) (r : Record) (store : Store) :
    Accounts [⟨writer, .create r, store⟩] store (store.create r).state := by
  rcases hr : store.records r.name with - | stored
  · have hcreate := Store.create_absent hr
    have hcreates : (⟨writer, .create r, store⟩ : Entry ω).creates = true := by
      show (store.create r).result.toOption.isSome = true
      rw [hcreate]
      rfl
    apply of_records (e := ⟨writer, .create r, store⟩)
    · show (store.create r).state.records = _
      rw [hcreate]
      exact Store.records_write rfl
    · rw [hcreates]
      show true = (store.records r.name).isNone
      rw [hr]
      rfl
    · rw [hcreates]
      show 1 = store.version r.name + .ofNat 1
      rw [Store.version_of_absent hr]
      rfl
    · show (store.create r).state.pending = store.pending
      rw [hcreate]
      rfl
    · rw [hcreates]
      show (store.create r).state.writes = store.writes + 1
      rw [hcreate]
      rfl
  · have hcreate := Store.create_taken hr
    refine of_idle (e := ⟨writer, .create r, store⟩) ?_ ?_ rfl rfl
    · show (store.create r).state = store
      rw [hcreate]
    · show (store.create r).result.toOption.isSome = false
      rw [hcreate]
      rfl

/-- An update that carries the version it meets. A conflict that is held back is used up as well. -/
theorem of_update_met (writer : ω) {r stored : Record} {store : Store}
    (hr : store.records r.name = some stored) (hmet : store.versionMet stored = r.version) :
    Accounts [⟨writer, .update r, store⟩] store (store.update r).state := by
  obtain ⟨hresult, hrecords, hpending, hwrites⟩ := Store.update_of_versionMet_eq hr hmet
  have hupdates : (⟨writer, .update r, store⟩ : Entry ω).updates = true := by
    show (store.update r).result.toOption.isSome = true
    rw [hresult]
    rfl
  apply of_records (e := ⟨writer, .update r, store⟩) hrecords
  · show false = (store.records r.name).isNone
    rw [hr]
    rfl
  · rw [hupdates, Entry.overtaken_update writer hr]
    show r.version + 1 = store.version r.name + .ofNat (0 + (1 + (store.pending != 0).toNat))
    rw [Store.version_of_stored hr, ← hmet, Store.versionMet_eq, Nat.zero_add, Nat.add_comm 1,
      UInt64.ofNat_add, ← UInt64.add_assoc]
    rfl
  · rw [Entry.overtaken_update writer hr]
    show (store.update r).state.pending + (store.pending != 0).toNat = store.pending
    rw [hpending]
    cases store.pending <;> rfl
  · rw [hupdates]
    exact hwrites

/-- An update that carries any other version. Nothing but a conflict that is held back comes of
it. -/
theorem of_update_unmet (writer : ω) {r stored : Record} {store : Store}
    (hr : store.records r.name = some stored) (hmet : store.versionMet stored ≠ r.version) :
    Accounts [⟨writer, .update r, store⟩] store (store.update r).state := by
  obtain ⟨hresult, hstate⟩ := Store.update_of_versionMet_ne hr hmet
  have hupdates : (⟨writer, .update r, store⟩ : Entry ω).updates = false := by
    show (store.update r).result.toOption.isSome = false
    rw [hresult]
    rfl
  rcases Nat.eq_zero_or_pos store.pending with hpending | hpending
  · rw [if_pos hpending] at hstate
    refine of_idle (e := ⟨writer, .update r, store⟩) hstate rfl hupdates ?_
    rw [Entry.overtaken_update writer hr, hpending]
    rfl
  · rw [if_neg (Nat.ne_of_gt hpending)] at hstate
    have hovertaken : (⟨writer, .update r, store⟩ : Entry ω).overtaken = true := by
      rw [Entry.overtaken_update writer hr, bne_iff_ne]
      exact Nat.ne_of_gt hpending
    have hrecords : (store.update r).state.records = Function.update store.records r.name
        (some { stored with version := stored.version + 1 }) := by
      rw [hstate]
      exact Store.records_overtake (store.kept hr)
    apply of_records (e := ⟨writer, .update r, store⟩) hrecords
    · show false = (store.records r.name).isNone
      rw [hr]
      rfl
    · rw [hupdates, hovertaken]
      show stored.version + 1 = store.version r.name + .ofNat 1
      rw [Store.version_of_stored hr]
      rfl
    · rw [hovertaken]
      show (store.update r).state.pending + 1 = store.pending
      rw [hstate]
      exact Nat.sub_add_cancel hpending
    · rw [hupdates]
      show (store.update r).state.writes = store.writes + 0
      rw [hstate, UInt32.add_zero]
      rfl

/-- An update, which does nothing if no record of the name is stored. -/
theorem of_update (writer : ω) (r : Record) (store : Store) :
    Accounts [⟨writer, .update r, store⟩] store (store.update r).state := by
  rcases hr : store.records r.name with - | stored
  · have hupdate := Store.update_missing hr
    refine of_idle (e := ⟨writer, .update r, store⟩) ?_ rfl ?_ ?_
    · show (store.update r).state = store
      rw [hupdate]
    · show (store.update r).result.toOption.isSome = false
      rw [hupdate]
      rfl
    · show ((store.records r.name).isSome && store.pending != 0) = false
      rw [hr]
      rfl
  by_cases hmet : store.versionMet stored = r.version
  · exact of_update_met writer hr hmet
  · exact of_update_unmet writer hr hmet

/-- **One call**, whatever it is and however it ends, accounts for what it does. -/
theorem of_operation (writer : ω) (op : Operation) (store : Store) :
    Accounts [⟨writer, op, store⟩] store (op.after store) := by
  cases op with
  | get name => exact of_idle (e := ⟨writer, .get name, store⟩) rfl rfl rfl rfl
  | create r => exact of_create writer r store
  | update r => exact of_update writer r store

end Accounts

/-! ### The calls of a pass -/

/-- A store and the calls that were made on it, the newest first. -/
structure Ledger (ω : Type) where
  /-- The store. -/
  store : Store
  /-- The calls. -/
  entries : List (Entry ω)

namespace Ledger

/-- Makes a call on the store and enters it. -/
def call {α : Type} (writer : ω) (op : Operation) (make : Store → Reply Store α)
    (ledger : Ledger ω) : Reply (Ledger ω) α :=
  let reply := make ledger.store
  ⟨reply.result, ⟨reply.state, ⟨writer, op, ledger.store⟩ :: ledger.entries⟩, reply.log⟩

/-- The store as the sink of a pass, with each call entered. -/
def sink (writer : ω) : Sink (Ledger ω) where
  get name := call writer (.get name) (Store.get name)
  create r := call writer (.create r) (Store.create r)
  update r := call writer (.update r) (Store.update r)

/-- Entering the calls changes nothing for whoever makes them. -/
theorem sink_covers (writer : ω) : (sink writer).Covers Store.sink Ledger.store where
  get _ _ := rfl
  create _ _ := rfl
  update _ _ := rfl

/-- The calls entered keep accounting for the store. -/
theorem sink_keeps (writer : ω) (before : Store) :
    (sink writer).Keeps fun ledger ↦ Accounts ledger.entries before ledger.store where
  get name ledger h := (Accounts.of_operation writer (.get name) ledger.store).append h
  create r ledger h := (Accounts.of_operation writer (.create r) ledger.store).append h
  update r ledger h := (Accounts.of_operation writer (.update r) ledger.store).append h

end Ledger

/-- The pass of a turn with its calls entered on a new page. -/
def Round.booked (s : Settings) (round : Round) (writer : ω) : PassReply (Ledger ω) :=
  s.pass (Ledger.sink writer) round.toFeed round.now ⟨round.before, []⟩

namespace Round

variable {s : Settings} {round : Round} {writer : ω} {name : String}

/-- The pass is the same with its calls entered. -/
theorem map_booked : (round.booked s writer).map Ledger.store = round.reply s :=
  (Settings.pass_covers (Ledger.sink_covers writer) _).symm

theorem store_booked : (round.booked s writer).state.store = round.after s :=
  congrArg (·.state) map_booked

/-- The calls of a pass account for what it does. -/
theorem accounts (s : Settings) (round : Round) (writer : ω) :
    Accounts (round.booked s writer).state.entries round.before (round.after s) := by
  have hpass : Accounts (round.booked s writer).state.entries round.before
      (round.booked s writer).state.store :=
    Settings.pass_keeps
      (P := fun ledger : Ledger ω ↦ Accounts ledger.entries round.before ledger.store)
      (Ledger.sink_keeps writer round.before) (Accounts.nil round.before)
  have hstore : (round.booked s writer).state.store = round.after s := store_booked
  exact hstore ▸ hpass

/-- There is **room** for the versions to which a pass raises its record: the record does not look
new, and the calls of the pass do not raise it past the last version. -/
def HasRoom (s : Settings) (round : Round) (writer : ω) : Prop :=
  ∀ r, round.before.records s.name = some r →
    r.version ≠ 0 ∧
      r.version.toNat + raises s.name (round.booked s writer).state.entries < UInt64.size

/-- A pass tells of no creation but that of its own record. -/
theorem count_created_of_ne (hname : name ≠ s.name) :
    (round.events s).count (.created name) = 0 := by
  rcases s.base_of_round round with ⟨hevents, -⟩ | ⟨xs, -, ⟨version, hevents⟩, -⟩
  · rw [hevents, List.count_nil]
  · rw [hevents, Settings.count_created_plan, if_neg]
    exact fun h ↦ hname (h.2.symm.trans Settings.name_base)

/-- **What a pass tells of creations is what it has called**: if there is room, it tells of one
exactly if a creation of its own has succeeded. -/
theorem count_created (hroom : name = s.name → round.HasRoom s writer) :
    (round.events s).count (.created name) =
      (about name (round.booked s writer).state.entries).countP Entry.creates := by
  have haccounts := round.accounts s writer
  have hstored := haccounts.stored name
  by_cases hname : name = s.name
  swap
  · have hframe : (round.after s).records name = round.before.records name :=
      Settings.records_pass_of_ne hname
    rw [hframe] at hstored
    rw [count_created_of_ne hname]
    omega
  subst hname
  have hversion := haccounts.version s.name
  replace hroom := hroom rfl
  have hcourse : s.Course round.toFeed round.now round.before (round.reply s) :=
    s.course round.toFeed round.now round.before
  rw [HasRoom] at hroom
  rw [after] at hstored hversion
  rw [events]
  generalize round.reply s = reply at hcourse hstored hversion ⊢
  generalize (about s.name (round.booked s writer).state.entries).countP Entry.creates = creates
    at hstored hversion ⊢
  generalize raises s.name (round.booked s writer).state.entries = raises at hversion hroom
  cases hcourse with
  | rests => exact (Nat.add_eq_left.1 hstored.symm).symm
  | sourceFails => exact (Nat.add_eq_left.1 hstored.symm).symm
  | exhausted _ hr _ hrecords =>
    rw [hrecords, Function.update_self, hr] at hstored
    exact (Nat.add_eq_left.1 hstored.symm).symm
  | @creates xs written events after log _ hr _ hevents hrecords =>
    rw [hrecords, Function.update_self, hr] at hstored
    show List.count _ events = creates
    rw [hevents, Settings.count_created_plan, if_pos ⟨rfl, rfl⟩]
    exact hstored.trans (Nat.zero_add _)
  | @writes xs r n written events after log _ hr hn _ hwritten hevents hrecords =>
    have hafter : after.records s.name = some written := by
      rw [hrecords, Function.update_self]
    rw [hafter, hr] at hstored
    obtain rfl : 0 = creates := (Nat.add_eq_left.1 hstored.symm).symm
    obtain ⟨hold, hlast⟩ := hroom r hr
    -- the attempts of a pass are too few to go through all versions, so the versions count them
    have hraises : n + 1 = raises := by
      refine Record.eq_of_version_raise (r := r) ?_ (by omega) ?_
      · exact Nat.lt_of_le_of_lt hn (Nat.lt_trans s.attempts_lt (by decide))
      · rw [Store.version_of_stored hafter, Store.version_of_stored hr, hwritten, Nat.zero_add]
          at hversion
        rw [Record.raise_succ]
        exact hversion
    have hraised : (r.raise n).version ≠ 0 := Record.version_raise_ne_zero hold (by omega)
    show List.count _ events = 0
    rw [hevents, Settings.count_created_plan, if_neg fun h ↦ hraised h.1]

end Round

/-! ### Whole runs -/

/-- What can be done to a store, short of putting a record into it. -/
inductive Action where
  /-- An operation is called. -/
  | call (op : Operation)
  /-- A component runs a pass. -/
  | pass (s : Settings) (turn : Turn)

namespace Action

/-- The store after an action. -/
def after : Action → Store → Store
  | call op, store => op.after store
  | pass s turn, store => Round.after s ⟨turn, store⟩

/-- The calls that an action consists of, the newest first. -/
def calls (writer : ω) : Action → Store → List (Entry ω)
  | call op, store => [⟨writer, op, store⟩]
  | pass s turn, store => (Round.booked s ⟨turn, store⟩ writer).state.entries

/-- What an action tells of. Direct calls tell of nothing. -/
def events : Action → Store → List Event
  | call _, _ => []
  | pass s turn, store => Round.events s ⟨turn, store⟩

/-- The store that actions leave, the newest action first. -/
def run (start : Store) : List (ω × Action) → Store
  | [] => start
  | (_, action) :: earlier => action.after (run start earlier)

/-- The calls of some actions, the newest first. -/
def history (start : Store) : List (ω × Action) → List (Entry ω)
  | [] => []
  | (writer, action) :: earlier => action.calls writer (run start earlier) ++ history start earlier

/-- What some actions tell of, the newest action first. -/
def report (start : Store) : List (ω × Action) → List Event
  | [] => []
  | (_, action) :: earlier => action.events (run start earlier) ++ report start earlier

variable {start store : Store} {action : Action} {actions : List (ω × Action)} {name : String}

/-- The calls of an action account for what it does. -/
theorem accounts (writer : ω) (action : Action) (store : Store) :
    Accounts (action.calls writer store) store (action.after store) := by
  cases action with
  | call op => exact .of_operation writer op store
  | pass s turn => exact Round.accounts s ⟨turn, store⟩ writer

/-- The calls of a run account for what it does. -/
theorem accounts_history : Accounts (history start actions) start (run start actions) := by
  induction actions with
  | nil => exact .nil start
  | cons newest earlier ih =>
    obtain ⟨writer, action⟩ := newest
    exact (accounts writer action _).append ih

theorem run_append {later earlier : List (ω × Action)} :
    run start (later ++ earlier) = run (run start earlier) later := by
  induction later with
  | nil => rfl
  | cons newest later ih => rw [List.cons_append, run, run, ih]

/-- The calls of a run are those of its earlier part and, on what that left, those of the rest. -/
theorem history_append {later earlier : List (ω × Action)} :
    history start (later ++ earlier) =
      history (run start earlier) later ++ history start earlier := by
  induction later with
  | nil => rfl
  | cons newest later ih =>
    rw [List.cons_append, history, history, ih, run_append, List.append_assoc]

/-! ### Runs on a store that is empty at first -/

section Empty

variable {pending : Nat} {actions : List (ω × Action)} {name : String} {r : Record}

/-- Names that are stored have been created once, the others never. -/
theorem countP_creates : (about name (history (.empty pending) actions)).countP Entry.creates =
    ((run (.empty pending) actions).records name).isSome.toNat := by
  rw [accounts_history.stored name]
  exact (Nat.zero_add _).symm

/-- **The version of a stored record** is one, for its creation, and one more each time it was
raised, as far as versions go. -/
theorem version_of_run (hr : (run (.empty pending) actions).records name = some r) :
    r.version.toNat = (1 + raises name (history (.empty pending) actions)) % UInt64.size := by
  have haccounts : Accounts (history (.empty pending) actions) (.empty pending)
      (run (.empty pending) actions) := accounts_history
  have hversion := haccounts.version name
  rw [Store.version_of_stored hr, Store.version_of_absent rfl, UInt64.zero_add, countP_creates, hr]
    at hversion
  rw [hversion]
  exact UInt64.toNat_ofNat'

/-- A pass of a run has room if the run does not go through all versions. -/
theorem hasRoom {s : Settings} {turn : Turn} {writer : ω}
    (hroom : 1 + raises s.name (history (.empty pending) ((writer, .pass s turn) :: actions)) <
      UInt64.size) :
    Round.HasRoom s ⟨turn, run (.empty pending) actions⟩ writer := by
  intro r hr
  have hversion := version_of_run hr
  rw [history, raises_append] at hroom
  rw [Nat.mod_eq_of_lt (by omega)] at hversion
  refine ⟨fun hnew ↦ ?_, ?_⟩
  · rw [hnew, UInt64.toNat_zero] at hversion
    omega
  · rw [hversion]
    show 1 + _ + raises s.name (calls writer (.pass s turn) _) < UInt64.size
    omega

/-- A run that does not go through all versions of a name does not tell of more creations of it than
it has made. -/
theorem count_report_le (hroom : 1 + raises name (history (.empty pending) actions) < UInt64.size) :
    (report (.empty pending) actions).count (.created name) ≤
      (about name (history (.empty pending) actions)).countP Entry.creates := by
  induction actions with
  | nil => exact Nat.le_refl _
  | cons newest earlier ih =>
    obtain ⟨writer, action⟩ := newest
    have hearlier : 1 + raises name (history (.empty pending) earlier) < UInt64.size := by
      rw [history, raises_append] at hroom
      omega
    have hnewest : (action.events (run (.empty pending) earlier)).count (.created name) ≤
        (about name (action.calls writer (run (.empty pending) earlier))).countP
          Entry.creates := by
      cases action with
      | call op => exact Nat.zero_le _
      | pass s turn => exact Nat.le_of_eq (Round.count_created fun hname ↦ hasRoom (hname ▸ hroom))
    rw [report, history, about, List.filter_append, List.count_append, List.countP_append]
    exact Nat.add_le_add hnewest (ih hearlier)

end Empty

/-- **The books balance** over every run of direct calls and passes, of any number of components and
in any order, on a store that is empty at first and holds back any number of conflicts.

* The version of a stored record is one, for its creation, and one more for each update of it and
  for each conflict that an update of it has used up, modulo the number of versions.
* The conflicts used up, whatever the name, and those still held back are those at first.
* The write counter is the number of creations and updates, modulo its size.
* A pass with its calls entered is the same pass, and it tells of a creation exactly if one of its
  own creations has succeeded, unless the run goes through all versions of that name.
* Over the whole run there is at most one such event of a name, with the same exception. -/
theorem books_balance (pending : Nat) (actions : List (ω × Action)) :
    let start := Store.empty pending
    let store := run start actions
    let history := history start actions
    let due (name : String) := 1 + (about name history).countP Entry.updates +
      (about name history).countP Entry.overtaken
    (∀ name r, store.records name = some r → r.version.toNat = due name % UInt64.size) ∧
    store.pending + history.countP Entry.overtaken = pending ∧
    store.writes.toNat =
      (history.countP Entry.creates + history.countP Entry.updates) % UInt32.size ∧
    (∀ later writer s turn earlier, actions = later ++ (writer, .pass s turn) :: earlier →
      let round : Round := ⟨turn, run start earlier⟩
      let booked := round.booked s writer
      booked.map Ledger.store = round.reply s ∧
        ∀ name, due name < UInt64.size →
          (.created name ∈ round.events s ↔ ∃ e ∈ booked.state.entries, e.Created name)) ∧
    ∀ name, due name < UInt64.size → (report start actions).count (.created name) ≤ 1 := by
  intro start store history due
  have h : Accounts history start store := accounts_history
  have hdue : ∀ name, due name = 1 + raises name history := fun name ↦ Nat.add_assoc ..
  refine ⟨fun name r hr ↦ ?_, h.pending, ?_, fun later writer s turn earlier hsplit ↦
    ⟨Round.map_booked, fun name hname ↦ ?_⟩, fun name hname ↦ ?_⟩
  · rw [hdue]
    exact version_of_run hr
  · rw [h.writes, show start.writes = 0 from rfl, UInt32.zero_add, UInt32.toNat_ofNat']
  · have hpart : raises name (Action.history start ((writer, .pass s turn) :: earlier)) ≤
        raises name history := by
      rw [show history = _ from congrArg (Action.history start) hsplit, history_append,
        raises_append]
      exact Nat.le_add_left _ _
    have hroom : name = s.name → Round.HasRoom s ⟨turn, run start earlier⟩ writer := by
      rintro rfl
      rw [hdue] at hname
      exact hasRoom (Nat.lt_of_le_of_lt (Nat.add_le_add_left hpart 1) hname)
    rw [← List.count_pos_iff, Round.count_created hroom, countP_creates_pos_iff]
  · rw [hdue] at hname
    calc (report start actions).count (.created name)
        ≤ (about name history).countP Entry.creates := count_report_le hname
      _ = (store.records name).isSome.toNat := countP_creates
      _ ≤ 1 := Bool.toNat_le _

/-- Two conflicts are held back. A pass creates the record; someone updates it with a version that
was never stored, in vain; and a second pass is overtaken once before it updates the record. So the
version is 1 + 1 + 2, and only the first pass tells of a creation. -/
theorem books_balance_of_conflicts :
    let s := Settings.ofPolicy "operator" .none
    let now : Instant := ⟨0, 0, 0, by decide⟩
    let full : Condition := ⟨"DiskDegraded", .yes, now, "Full", ""⟩
    let first : Turn := ⟨⟨.ok [full], none⟩, now⟩
    let later : List (Bool × Action) := [(true, .pass s ⟨⟨.ok [], none⟩, now⟩),
      (false, .call (.update (.empty "operator")))]
    let actions := later ++ [(true, .pass s first)]
    let store := run (.empty 2) actions
    (∃ r, store.records "operator" = some r ∧ r.version.toNat = 1 + 1 + 2) ∧
      store.pending = 0 ∧ store.writes.toNat = 2 ∧
      (∃ e ∈ (Round.booked s ⟨first, .empty 2⟩ true).state.entries, e.Created "operator") ∧
      (report (.empty 2) actions).count (.created "operator") ≤ 1 := by
  intro s now full first later actions store
  obtain ⟨hversion, hpending, hwrites, hpasses, honce⟩ := books_balance 2 actions
  have hdue : 1 + (about "operator" (history (.empty 2) actions)).countP Entry.updates +
      (about "operator" (history (.empty 2) actions)).countP Entry.overtaken = 1 + 1 + 2 := by
    decide
  have hroom : 1 + (about "operator" (history (.empty 2) actions)).countP Entry.updates +
      (about "operator" (history (.empty 2) actions)).countP Entry.overtaken < UInt64.size := by
    rw [hdue]
    decide
  have hstored : (store.records "operator").isSome = true := by decide
  obtain ⟨r, hr⟩ := Option.isSome_iff_exists.1 hstored
  refine ⟨⟨r, hr, ?_⟩, ?_, ?_, ?_, honce _ hroom⟩
  · exact (hversion "operator" r hr).trans (congrArg (· % UInt64.size) hdue)
  · have hused : (history (.empty 2) actions).countP Entry.overtaken = 2 := by decide
    rw [hused] at hpending
    exact Nat.add_right_cancel (hpending.trans (Nat.zero_add 2).symm)
  · have hcreates : (history (.empty 2) actions).countP Entry.creates = 1 := by decide
    have hupdates : (history (.empty 2) actions).countP Entry.updates = 1 := by decide
    rw [hcreates, hupdates] at hwrites
    exact hwrites
  · obtain ⟨-, htold⟩ := hpasses later true s first [] rfl
    exact (htold "operator" hroom).1 (by decide)

end Action

end StatusRollup
