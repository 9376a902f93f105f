import StatusRollup.Config.Numeral
import StatusRollup.Config.Read
import StatusRollup.Proofs.Layers
import StatusRollup.Proofs.Slots
import StatusRollup.Wire.Config

/-!
# The two readers of a configuration

A configuration is read from its wire form, strictly, and from merged layers, generously. Whatever
the strict reader accepts, the generous one reads the same way (`Value.Refines`), for every type
that occurs in a list of a configuration. Numbers have to fit 64 bits with a sign, since a layer
holds no greater integers.

The agreement of two structures is that of their fields: the generous reader finds a value for a
field exactly if the strict one does (`Value.Found`), also where a key comes again or the structure
is written as an array.
-/

namespace StatusRollup

open Json (Slot readStruct readStr readBool readNat readUInt32 readUInt64 readList readEnum)

namespace Value

/-! ### Items and fields of layers -/

theorem ofItems?_eq_mapM (items : List Json) : ofItems? items = items.mapM ofJson? := by
  induction items with
  | nil => rfl
  | cons j js ih => rw [ofItems?, ih, List.mapM_cons]; rfl

/-- What the generous reader finds for a field of which the strict reader finds this slot. -/
inductive Found : Slot → Option Value → Prop
  /-- A value stands in a layer for the value in the text. -/
  | given {j : Json} {t : Value} (h : ofJson? j = some t) : Found (.given j) (some t)
  /-- The key is missing. -/
  | absent : Found .absent none
  /-- The array is too short. -/
  | cut : Found .cut none

theorem Found.eq_none {field : Option Value} (h : Found .absent field) : field = none := by
  cases h
  rfl

variable {α : Type} {names : List String} {fields : List (String × Json)} {items : List Json}
  {ts : List (String × Value)} {j : Json} {t : Value} {slot : Slot} {field : Option Value}
  {read : Json → Option α} {generous : Value → Option α} {a default : α}

/-- A key that comes once is found with its value. -/
theorem found_lookup {name : String} (h : ofFields? fields = some ts)
    (honce : (fields.map Prod.fst).count name ≤ 1) :
    Found ((fields.lookup name).elim .absent .given) (ts.lookup name) := by
  induction fields generalizing ts with
  | nil =>
    cases h
    exact .absent
  | cons f fields ih =>
    obtain ⟨key, j⟩ := f
    simp only [ofFields?, Option.bind_eq_bind, Option.bind_eq_some_iff] at h
    obtain ⟨t, ht, rest, hrest, h⟩ := h
    obtain rfl := Option.some.inj h
    rw [lookup_cons_eq]
    by_cases hname : name = key
    · subst hname
      rw [List.map_cons, List.count_cons_self] at honce
      -- the key does not come again, so neither the text nor the layer has more for it
      have hnone : fields.lookup name = none :=
        lookup_eq_none_of_not_mem (List.count_eq_zero.1 (by omega))
      have hrestNone : rest.lookup name = none := by
        have hfound := ih hrest (by omega)
        rw [hnone] at hfound
        exact hfound.eq_none
      rw [if_pos rfl, hrestNone, Option.isSome_none, if_neg Bool.false_ne_true, lookup_cons_eq,
        if_pos rfl]
      exact .given ht
    · rw [List.map_cons, List.count_cons_of_ne (Ne.symm hname)] at honce
      rw [if_neg hname]
      split
      · exact ih hrest honce
      · rw [lookup_cons_eq, if_neg hname]
        exact ih hrest honce

/-- An item is found with its value. -/
theorem found_getElem? {us : List Value} (h : items.mapM ofJson? = some us) (i : Nat) :
    Found (items[i]?.elim .cut .given) us[i]? := by
  have hitems := Json.mapM_eq_some_iff.1 h
  clear h
  induction hitems generalizing i with
  | nil => exact .cut
  | cons hj _ ih =>
    cases i with
    | zero => exact .given hj
    | succ i => exact ih i

/-- **Both readers find the same fields of a structure.** -/
theorem exists_found (hj : j.isStruct names = true) (ht : ofJson? j = some t) :
    ∃ field : String → Option Value,
      (∀ {α : Type} (read : (String → Option Value) → Option α),
        readStruct? names read t = read field) ∧
      ∀ name ∈ names, Found (j.slot names name) (field name) := by
  cases j with
  | obj fields =>
    obtain ⟨ts, hts, rfl⟩ := Option.map_eq_some_iff.1 ht
    exact ⟨fun name ↦ ts.lookup name, fun _ ↦ rfl,
      fun name hname ↦ found_lookup hts (Json.isStruct_obj_iff.1 hj name hname)⟩
  | arr items =>
    obtain ⟨us, hus, rfl⟩ := Option.map_eq_some_iff.1 ht
    rw [ofItems?_eq_mapM] at hus
    exact ⟨fun name ↦ us[names.idxOf name]?, fun _ ↦ rfl,
      fun name _ ↦ found_getElem? hus (names.idxOf name)⟩
  | _ => exact absurd hj Bool.false_ne_true

theorem readStruct_eq_some_iff {read : (String → Slot) → Option α} :
    readStruct names read j = some a ↔ j.isStruct names = true ∧ read (j.slot names) = some a := by
  rw [readStruct]
  split <;> simp_all

/-! ### Agreement -/

/-- What the strict reader reads as `a`, the generous reader of layers reads as `a`. -/
def Refines (read : Json → Option α) (generous : Value → Option α) (a : α) : Prop :=
  ∀ j t, ofJson? j = some t → read j = some a → generous t = some a

@[simp] theorem orDefault_some :
    orDefault default generous (some t) = generous t := by
  rw [orDefault]

theorem Found.required (hf : Found slot field) (hr : Refines read generous a)
    (h : slot.required read = some a) : field.bind generous = some a := by
  cases hf with
  | given ht =>
    rw [Slot.required_given] at h
    exact hr _ _ ht h
  | absent => exact absurd h nofun
  | cut => exact absurd h nofun

theorem Found.defaulted (hf : Found slot field) (hr : Refines read generous a)
    (h : slot.defaulted default read = some a) : orDefault default generous field = some a := by
  cases hf with
  | given ht =>
    rw [Slot.defaulted_given] at h
    exact hr _ _ ht h
  | absent => exact h
  | cut => exact h

theorem refines_readStr (s : String) : Refines readStr readStr? s := by
  intro j t ht h
  cases j with
  | str s' =>
    cases h
    cases ht
    rfl
  | _ => exact absurd h nofun

theorem refines_readBool (b : Bool) : Refines readBool readBool? b := by
  intro j t ht h
  cases j with
  | bool b' =>
    cases h
    cases ht
    rfl
  | _ => exact absurd h nofun

/-- A number of at most 63 bits stands in a layer as itself. -/
theorem ofJson?_ofNat {n : Nat} (h : (n : Int) ≤ Int64.maxValue.toInt) :
    ofJson? (.ofNat n) = some (int n) := by
  have hlow : Int64.minValue.toInt ≤ (n : Int) :=
    Int.le_trans (by decide) (Int.natCast_nonneg n)
  rw [Json.ofNat, ofJson?, Numeral.toValue?, if_pos ⟨hlow, h⟩]

theorem readUInt64?_int (n : UInt64) : readUInt64? (int n.toNat) = some n := by
  have hlt : (n.toNat : Int) < UInt64.size := Int.ofNat_lt.2 n.toNat_lt_size
  rw [readUInt64?, if_pos ⟨Int.natCast_nonneg _, hlt⟩, Int.toNat_natCast, UInt64.ofNat_toNat]

theorem refines_readUInt64 {n : UInt64} (hn : (n.toNat : Int) ≤ Int64.maxValue.toInt) :
    Refines readUInt64 readUInt64? n := by
  intro j t ht h
  obtain rfl := Json.readUInt64_eq_some_iff.1 h
  obtain rfl := Option.some.inj ((ofJson?_ofNat hn).symm.trans ht)
  exact readUInt64?_int n

theorem readUInt32?_int (n : UInt32) : readUInt32? (int n.toNat) = some n := by
  have hread := readUInt64?_int n.toUInt64
  rw [UInt32.toNat_toUInt64] at hread
  rw [readUInt32?, hread, Option.bind_some, UInt32.toNat_toUInt64, if_pos n.toNat_lt_size]
  simp

/-- A number of 32 bits fits 63. -/
theorem toNat_le_maxValue (n : UInt32) : (n.toNat : Int) ≤ Int64.maxValue.toInt :=
  Int.le_trans (Int.le_of_lt (Int.ofNat_lt.2 n.toNat_lt_size)) (by decide)

theorem refines_readUInt32 (n : UInt32) : Refines readUInt32 readUInt32? n := by
  intro j t ht h
  obtain rfl := Json.readUInt32_eq_some_iff.1 h
  obtain rfl := Option.some.inj ((ofJson?_ofNat (toNat_le_maxValue n)).symm.trans ht)
  exact readUInt32?_int n

theorem refines_readList {as : List α} (h : ∀ a ∈ as, Refines read generous a) :
    Refines (readList read) (readList? generous) as := by
  intro j t ht hj
  cases j with
  | arr items =>
    obtain ⟨us, hus, rfl⟩ := Option.map_eq_some_iff.1 ht
    rw [ofItems?_eq_mapM] at hus
    have hread := Json.mapM_eq_some_iff.1 hj
    have hlayer := Json.mapM_eq_some_iff.1 hus
    refine Json.mapM_eq_some_iff.2 ?_
    clear ht hj hus
    induction hread generalizing us with
    | nil =>
      cases hlayer
      exact .nil
    | cons hhead _ ih =>
      cases hlayer with
      | cons ht hts =>
        obtain ⟨ha, has⟩ := List.forall_mem_cons.1 h
        exact .cons (ha _ _ ht hhead) (ih has _ hts)
  | _ => exact absurd hj nofun

theorem refines_readEnum {members : List (String × α)} (hlower : ∀ m ∈ members, lower m.1 = m.1) :
    Refines (readEnum members) (readEnum? members) a := by
  have hlookup {s : String} (h : members.lookup s = some a) :
      members.lookup (lower s) = some a := by
    obtain ⟨before, after, hmembers, -⟩ := List.lookup_eq_some_iff.1 h
    have hs : lower s = s := hlower (s, a) (hmembers ▸ by simp)
    rwa [hs]
  intro j t ht h
  unfold readEnum at h
  split at h
  · cases ht
    exact hlookup h
  · cases ht
    exact hlookup h
  · exact absurd h nofun

end Value

open Value

theorem PatternKind.refines (k : PatternKind) :
    Refines PatternKind.ofJson? PatternKind.ofValue? k :=
  refines_readEnum (by decide)

/-- A rule is read alike, if its hold fits. -/
theorem RuleConfig.refines {c : RuleConfig} (h : (c.holdSecs.toNat : Int) ≤ Int64.maxValue.toInt) :
    Refines RuleConfig.ofJson? RuleConfig.ofValue? c := by
  intro j t ht hc
  obtain ⟨hj, hc⟩ := readStruct_eq_some_iff.1 hc
  obtain ⟨field, hread, hfound⟩ := exists_found hj ht
  simp only [Option.bind_eq_bind, Option.bind_eq_some_iff] at hc
  obtain ⟨pattern, hpattern, holdSecs, hhold, kind, hkind, hc⟩ := hc
  obtain rfl := Option.some.inj hc
  replace hpattern := (hfound "pattern" (by decide)).required (refines_readStr pattern) hpattern
  replace hhold := (hfound "hold_secs" (by decide)).required (refines_readUInt64 h) hhold
  replace hkind := (hfound "kind" (by decide)).defaulted (PatternKind.refines kind) hkind
  refine (hread _).trans ?_
  simp only [hpattern, hhold, hkind, Option.bind_eq_bind, Option.bind_some]

theorem ObjectRef.refines (r : ObjectRef) : Refines ObjectRef.ofJson? ObjectRef.ofValue? r := by
  intro j t ht hr
  obtain ⟨hj, hr⟩ := readStruct_eq_some_iff.1 hr
  obtain ⟨field, hread, hfound⟩ := exists_found hj ht
  simp only [Option.bind_eq_bind, Option.bind_eq_some_iff] at hr
  obtain ⟨group, hgroup, resource, hresource, scope, hscope, name, hname, hr⟩ := hr
  obtain rfl := Option.some.inj hr
  replace hgroup := (hfound "group" (by decide)).required (refines_readStr group) hgroup
  replace hresource := (hfound "resource" (by decide)).required (refines_readStr resource) hresource
  replace hscope := (hfound "namespace" (by decide)).defaulted (refines_readStr scope) hscope
  replace hname := (hfound "name" (by decide)).required (refines_readStr name) hname
  refine (hread _).trans ?_
  simp only [hgroup, hresource, hscope, hname, Option.bind_eq_bind, Option.bind_some]

/-! ### Tables, setting by setting -/

section Tables

variable {t : Value}

theorem HoldConfig.ofValue?_eq_some_iff {c : HoldConfig} (h : t.isTable = true) :
    ofValue? t = some c ↔
      orDefault default.defaultSecs readUInt64? (t.get? "default_hold_secs") = some c.defaultSecs ∧
      orDefault [] (readList? RuleConfig.ofValue?) (t.get? "rules") = some c.rules := by
  cases t with
  | table fs =>
    simp only [ofValue?, readStruct?, get?, Value.fields, Option.bind_eq_bind,
      Option.bind_eq_some_iff]
    constructor
    · rintro ⟨secs, hsecs, rules, hrules, hc⟩
      cases hc
      exact ⟨hsecs, hrules⟩
    · rintro ⟨hsecs, hrules⟩
      exact ⟨_, hsecs, _, hrules, rfl⟩
  | _ => exact absurd h Bool.false_ne_true

theorem SyncConfig.ofValue?_eq_some_iff {c : SyncConfig} (h : t.isTable = true) :
    ofValue? t = some c ↔
      orDefault default.maxRetries readUInt32? (t.get? "max_conflict_retries") =
        some c.maxRetries ∧
      orDefault default.emits readBool? (t.get? "emit_events") = some c.emits := by
  cases t with
  | table fs =>
    simp only [ofValue?, readStruct?, get?, Value.fields, Option.bind_eq_bind,
      Option.bind_eq_some_iff]
    constructor
    · rintro ⟨retries, hretries, emits, hemits, hc⟩
      cases hc
      exact ⟨hretries, hemits⟩
    · rintro ⟨hretries, hemits⟩
      exact ⟨_, hretries, _, hemits, rfl⟩
  | _ => exact absurd h Bool.false_ne_true

theorem LogConfig.ofValue?_eq_some_iff {c : LogConfig} (h : t.isTable = true) :
    ofValue? t = some c ↔
      orDefault default.level readStr? (t.get? "level") = some c.level := by
  cases t with
  | table fs =>
    simp only [ofValue?, readStruct?, get?, Value.fields, Option.bind_eq_bind,
      Option.bind_eq_some_iff]
    constructor
    · rintro ⟨level, hlevel, hc⟩
      cases hc
      exact hlevel
    · exact fun hlevel ↦ ⟨_, hlevel, rfl⟩
  | _ => exact absurd h Bool.false_ne_true

theorem Config.ofValue?_eq_some_iff {c : Config} (h : t.isTable = true) :
    ofValue? t = some c ↔
      orDefault defaultName readStr? (t.get? "record_name") = some c.recordName ∧
      orDefault .default HoldConfig.ofValue? (t.get? "inertia") = some c.hold ∧
      orDefault [] (readList? ObjectRef.ofValue?) (t.get? "related_objects") = some c.related ∧
      orDefault .default SyncConfig.ofValue? (t.get? "sync") = some c.sync ∧
      orDefault .default LogConfig.ofValue? (t.get? "logging") = some c.logging := by
  cases t with
  | table fs =>
    simp only [ofValue?, readStruct?, get?, Value.fields, Option.bind_eq_bind,
      Option.bind_eq_some_iff]
    constructor
    · rintro ⟨name, hname, hold, hhold, related, hrelated, sync, hsync, logging, hlogging, hc⟩
      cases hc
      exact ⟨hname, hhold, hrelated, hsync, hlogging⟩
    · rintro ⟨hname, hhold, hrelated, hsync, hlogging⟩
      exact ⟨_, hname, _, hhold, _, hrelated, _, hsync, _, hlogging, rfl⟩
  | _ => exact absurd h Bool.false_ne_true

end Tables

end StatusRollup
