import StatusRollup.Proofs.Pruning
import StatusRollup.Proofs.Timestamps
import StatusRollup.Wire.Status

/-!
# Everything that is written is read back

Every type that has a wire form is read back from it, and from the text of it
(`wire_forms_round_trip`). Strings may hold any characters, instants may lie anywhere in the
calendar and inside a leap second, optional values may be missing. A count fits the wire form up to
64 bits, so this bound stands as a hypothesis where one occurs.

What each part rests on:

* identifiers — the hyphens are taken out where they were put in (`Uuid.unhyphenate?_hyphenate`);
* instants — `Instant.read?_write`, about their text;
* structures — `Json.readStruct_obj`, and what is known of each field;
* configurations — the case of `Config.ofJson?_prune` in which nothing is deleted;
* texts — `Json.read?_write`, since every number of a wire form is an integer.
-/

namespace StatusRollup

open Json

/-! ### The text of an identifier -/

namespace Uuid

theorem digit?_digitChar : ∀ d : Fin 16, digit? (digitChar d) = some d := by
  decide

theorem digitChar_ne : ∀ d : Fin 16, digitChar d ≠ 'u' ∧ digitChar d ≠ '\x7b' := by
  decide

/-- The characters of all groups. -/
def total (ns : List Nat) : Nat := ns.foldr (· + ·) 0

theorem total_cons (n : Nat) (ns : List Nat) : total (n :: ns) = n + total ns := rfl

/-- The hyphens between groups are taken out again. -/
theorem unhyphenate?_hyphenate {ns : List Nat} {cs : List Char} (hne : ns ≠ [])
    (h : cs.length = total ns) : unhyphenate? (hyphenate cs ns) ns = some cs := by
  induction ns generalizing cs with
  | nil => exact absurd rfl hne
  | cons n ns ih =>
    rw [total_cons] at h
    cases ns with
    | nil =>
      have hlength : cs.length = n := h
      rw [hyphenate, unhyphenate?, List.take_of_length_le (Nat.le_of_eq hlength), if_pos hlength]
    | cons m ns =>
      have htake : (cs.take n).length = n := by
        rw [List.length_take, h, Nat.min_eq_left (Nat.le_add_right n _)]
      have hdrop : (cs.drop n).length = total (m :: ns) := by
        rw [List.length_drop, h, Nat.add_sub_cancel_left]
      rw [hyphenate, unhyphenate?, List.drop_left' htake, List.take_left' htake]
      · simp only [htake, if_pos, ih (List.cons_ne_nil m ns) hdrop, Option.map_some,
          List.take_append_drop]
      · exact List.cons_ne_nil m ns
      · exact List.cons_ne_nil m ns

/-- Between any two groups there is one hyphen. -/
theorem length_hyphenate {n : Nat} {ns : List Nat} {cs : List Char}
    (h : cs.length = total (n :: ns)) :
    (hyphenate cs (n :: ns)).length = cs.length + ns.length := by
  rw [total_cons] at h
  induction ns generalizing n cs with
  | nil =>
    have hlength : cs.length = n := h
    rw [hyphenate, List.take_of_length_le (Nat.le_of_eq hlength)]
    rfl
  | cons m ns ih =>
    have hdrop : (cs.drop n).length = m + total ns := by
      rw [List.length_drop, h, Nat.add_sub_cancel_left, total_cons]
    rw [hyphenate, List.length_append, List.length_cons, ih hdrop, List.length_take,
      List.length_drop, List.length_cons]
    · omega
    · exact List.cons_ne_nil m ns

/-- Only what begins with the name of the scheme or with a brace is wrapped. -/
theorem unwrap?_cons {c : Char} {cs : List Char} (h : c ≠ 'u' ∧ c ≠ '\x7b') :
    unwrap? (c :: cs) = some (c :: cs) := by
  have hscheme : "urn:uuid:".toList.isPrefixOf (c :: cs) = false := by
    rw [show "urn:uuid:".toList = 'u' :: "rn:uuid:".toList by decide, List.isPrefixOf_cons_cons,
      beq_false_of_ne h.1.symm, Bool.false_and]
  rw [unwrap?, if_neg (by rw [hscheme]; exact Bool.false_ne_true)]
  exact fun _ hcons ↦ h.2 (List.cons.inj hcons).1

/-- The characters of the digits are read as the digits. -/
theorem ofChars?_map (u : Uuid) : ofChars? (u.digits.map digitChar) = some u := by
  have hdigits : (u.digits.map digitChar).mapM digit? = some u.digits :=
    mapM_eq_some_iff.2 <| List.forall₂_map_left_iff.2 <|
      List.forall₂_same.2 fun d _ ↦ digit?_digitChar d
  rw [ofChars?, hdigits, Option.bind_some, dif_pos u.length_eq]

/-- **An identifier is read back from its written form.** That has hyphens and begins with a digit,
so it is taken neither for bare digits nor for one of the wrapped forms. -/
theorem read?_write (u : Uuid) : read? u.write = some u := by
  have hlength : (u.digits.map digitChar).length = total groups := by
    rw [List.length_map, u.length_eq]
    rfl
  have hwritten : (hyphenate (u.digits.map digitChar) groups).length = 36 := by
    rw [groups, length_hyphenate hlength, hlength]
    rfl
  have hunwrap : unwrap? (hyphenate (u.digits.map digitChar) groups) =
      some (hyphenate (u.digits.map digitChar) groups) := by
    obtain ⟨d, ds, hds⟩ := List.exists_cons_of_length_eq_add_one u.length_eq
    rw [hds]
    exact unwrap?_cons (digitChar_ne d)
  rw [read?, write, String.toList_ofList, if_neg (by rw [hwritten]; decide), hunwrap,
    Option.bind_some, unhyphenate?_hyphenate (show groups ≠ [] from List.cons_ne_nil 8 _) hlength,
    Option.bind_some, ofChars?_map]

end Uuid

/-! ### Names, instants and identifiers -/

namespace Status

@[simp] theorem ofJson?_toJson (s : Status) : ofJson? s.toJson = some s := by
  cases s <;> rfl

@[simp] theorem integral_toJson (s : Status) : s.toJson.integral = true := rfl

end Status

namespace Category

@[simp] theorem ofJson?_toJson (c : Category) : ofJson? c.toJson = some c := by
  cases c <;> rfl

@[simp] theorem integral_toJson (c : Category) : c.toJson.integral = true := rfl

end Category

namespace Severity

@[simp] theorem ofJson?_toJson (s : Severity) : ofJson? s.toJson = some s := by
  cases s <;> rfl

@[simp] theorem integral_toJson (s : Severity) : s.toJson.integral = true := rfl

end Severity

namespace Instant

@[simp] theorem ofJson?_toJson (t : Instant) : ofJson? t.toJson = some t := by
  rw [toJson, ofJson?, readStr, Option.bind_some, read?_write]

theorem toJson_ne_null (t : Instant) : t.toJson ≠ .null := by
  rw [toJson]
  exact Json.noConfusion

@[simp] theorem integral_toJson (t : Instant) : t.toJson.integral = true := rfl

end Instant

namespace Uuid

@[simp] theorem ofJson?_toJson (u : Uuid) : ofJson? u.toJson = some u := by
  rw [toJson, ofJson?, readStr, Option.bind_some, read?_write]

@[simp] theorem integral_toJson (u : Uuid) : u.toJson.integral = true := rfl

end Uuid

/-! ### Conditions, records and events -/

namespace Condition

theorem ofJson?_toJson (c : Condition) : ofJson? c.toJson = some c := by
  rw [toJson, ofJson?, readStruct_obj (by simp)]
  simp [List.lookup_cons, readStr]

theorem integral_toJson (c : Condition) : c.toJson.integral = true := by
  simp [toJson, integral, fieldsIntegral]

end Condition

namespace Composite

theorem ofJson?_toJson (c : Composite) : ofJson? c.toJson = some c := by
  rw [toJson, ofJson?, readStruct_obj (by simp)]
  have hsince : Slot.optional Instant.ofJson? (.given (ofOption Instant.toJson c.since)) =
      some c.since :=
    optional_ofOption Instant.toJson_ne_null Instant.ofJson?_toJson
  simp [List.lookup_cons, readStr, hsince]

theorem integral_toJson (c : Composite) : c.toJson.integral = true := by
  simp [toJson, integral, fieldsIntegral, integral_ofOption Instant.integral_toJson]

end Composite

namespace StoredCondition

theorem ofJson?_toJson (c : StoredCondition) : ofJson? c.toJson = some c := by
  rw [toJson, ofJson?, readStruct_obj (by simp)]
  simp [List.lookup_cons, readStr]

theorem integral_toJson (c : StoredCondition) : c.toJson.integral = true := by
  simp [toJson, integral, fieldsIntegral]

end StoredCondition

namespace Transition

theorem ofJson?_toJson (t : Transition) : ofJson? t.toJson = some t := by
  have hprevious : Slot.optional Status.ofJson? (.given (ofOption Status.toJson t.previous)) =
      some t.previous :=
    optional_ofOption (fun _ ↦ Json.noConfusion) Status.ofJson?_toJson
  rw [toJson, ofJson?, readStruct_obj (by simp)]
  simp [List.lookup_cons, readStr, hprevious]

theorem integral_toJson (t : Transition) : t.toJson.integral = true := by
  simp [toJson, integral, fieldsIntegral, integral_ofOption Status.integral_toJson]

end Transition

namespace ObjectRef

theorem ofJson?_toJson (r : ObjectRef) : ofJson? r.toJson = some r := by
  have h : ofJson? (r.toJson.prune fun _ ↦ false) = some (r.reset fun _ ↦ false) :=
    ofJson?_prune rfl rfl rfl r
  rwa [prune_none, reset_none] at h

theorem integral_toJson (r : ObjectRef) : r.toJson.integral = true := by
  simp [toJson, integral, fieldsIntegral]

end ObjectRef

namespace Record

theorem ofJson?_toJson (r : Record) : ofJson? r.toJson = some r := by
  have hconditions := readList_ofList fun c (_ : c ∈ r.conditions) ↦ c.ofJson?_toJson
  have hrelated := readList_ofList fun x (_ : x ∈ r.related) ↦ x.ofJson?_toJson
  rw [toJson, ofJson?, readStruct_obj (by simp)]
  simp [List.lookup_cons, readStr, hconditions, hrelated]

theorem integral_toJson (r : Record) : r.toJson.integral = true := by
  have hconditions := integral_ofList fun c (_ : c ∈ r.conditions) ↦ c.integral_toJson
  have hrelated := integral_ofList fun x (_ : x ∈ r.related) ↦ x.integral_toJson
  simp [toJson, integral, fieldsIntegral, hconditions, hrelated]

end Record

namespace Event

theorem ofJson?_toJson (tuples : Bool) {e : Event}
    (h : ∀ n, e = .relatedChanged n → n < UInt64.size) : ofJson? tuples e.toJson = some e := by
  cases e with
  | created name =>
    rw [toJson, ofJson?, ofFields?, readStruct_obj (by simp)]
    simp [readStr]
  | changed t =>
    -- a transition's fields are those of the event, without an object of their own
    rw [toJson, Transition.toJson, ofJson?, ofFields?, ← Transition.toJson,
      Transition.ofJson?_toJson, Option.map_some]
  | removed c =>
    rw [toJson, ofJson?, ofFields?, readStruct_obj (by simp)]
    simp
  | relatedChanged n =>
    have hcount := readNat_ofNat (h n rfl)
    rw [toJson, ofJson?, ofFields?, readStruct_obj (by simp)]
    simp [hcount]

theorem integral_toJson (e : Event) : e.toJson.integral = true := by
  cases e <;> simp [toJson, integral, fieldsIntegral, Transition.integral_toJson]

end Event

namespace Envelope

theorem ofJson?_toJson (tuples : Bool) {e : Envelope}
    (h : ∀ n, e.notice.event = .relatedChanged n → n < UInt64.size) :
    ofJson? tuples e.toJson = some e := by
  rw [toJson, ofJson?, readStruct_obj (by simp)]
  simp [List.lookup_cons, readStr, Event.ofJson?_toJson tuples h]

theorem integral_toJson (e : Envelope) : e.toJson.integral = true := by
  simp [toJson, integral, fieldsIntegral, Event.integral_toJson]

end Envelope

/-! ### Configurations -/

namespace RuleConfig

theorem ofJson?_toJson (c : RuleConfig) : ofJson? c.toJson = some c := by
  have h : ofJson? (c.toJson.prune fun _ ↦ false) = some (c.reset fun _ ↦ false) :=
    ofJson?_prune rfl rfl c
  rwa [prune_none, reset_none] at h

theorem integral_toJson (c : RuleConfig) : c.toJson.integral = true := by
  simp [toJson, integral, fieldsIntegral]

end RuleConfig

namespace HoldConfig

theorem ofJson?_toJson (c : HoldConfig) : ofJson? c.toJson = some c := by
  have h : ofJson? (c.toJson.prune fun _ ↦ false) = some (c.reset fun _ ↦ false) :=
    ofJson?_prune (fun _ ↦ rfl) (fun _ ↦ rfl) c
  rwa [prune_none, reset_none] at h

theorem integral_toJson (c : HoldConfig) : c.toJson.integral = true := by
  have hrules := integral_ofList fun rule (_ : rule ∈ c.rules) ↦ rule.integral_toJson
  simp [toJson, integral, fieldsIntegral, hrules]

end HoldConfig

namespace SyncConfig

theorem ofJson?_toJson (c : SyncConfig) : ofJson? c.toJson = some c := by
  have h : ofJson? (c.toJson.prune fun _ ↦ false) = some (c.reset fun _ ↦ false) :=
    ofJson?_prune c
  rwa [prune_none, reset_none] at h

theorem integral_toJson (c : SyncConfig) : c.toJson.integral = true := by
  simp [toJson, integral, fieldsIntegral]

end SyncConfig

namespace LogConfig

theorem ofJson?_toJson (c : LogConfig) : ofJson? c.toJson = some c := by
  have h : ofJson? (c.toJson.prune fun _ ↦ false) = some (c.reset fun _ ↦ false) :=
    ofJson?_prune c
  rwa [prune_none, reset_none] at h

theorem integral_toJson (c : LogConfig) : c.toJson.integral = true := by
  simp [toJson, integral, fieldsIntegral]

end LogConfig

namespace Config

theorem ofJson?_toJson (c : Config) : ofJson? c.toJson = some c := by
  have h : ofJson? (c.toJson.prune fun _ ↦ false) = some (c.reset fun _ ↦ false) :=
    ofJson?_prune (fun _ hdrop ↦ absurd hdrop Bool.false_ne_true) c
  rwa [prune_none, reset_none] at h

theorem integral_toJson (c : Config) : c.toJson.integral = true := by
  have hrelated := integral_ofList fun r (_ : r ∈ c.related) ↦ r.integral_toJson
  simp [toJson, integral, fieldsIntegral, HoldConfig.integral_toJson, hrelated,
    SyncConfig.integral_toJson, LogConfig.integral_toJson]

end Config

/-! ### All of them -/

/-- **Every wire form is read back**, as a value and as a text. An event can be read on its own,
when its fields may also come as an array, or as a part of an envelope. -/
theorem wire_forms_round_trip :
    (∀ c : Condition, RoundTrips Condition.toJson Condition.ofJson? c) ∧
    (∀ c : Composite, RoundTrips Composite.toJson Composite.ofJson? c) ∧
    (∀ c : StoredCondition, RoundTrips StoredCondition.toJson StoredCondition.ofJson? c) ∧
    (∀ t : Transition, RoundTrips Transition.toJson Transition.ofJson? t) ∧
    (∀ r : ObjectRef, RoundTrips ObjectRef.toJson ObjectRef.ofJson? r) ∧
    (∀ r : Record, RoundTrips Record.toJson Record.ofJson? r) ∧
    (∀ (tuples : Bool) (e : Event), (∀ n, e = .relatedChanged n → n < UInt64.size) →
      RoundTrips Event.toJson (Event.ofJson? tuples) e) ∧
    (∀ (tuples : Bool) (e : Envelope),
      (∀ n, e.notice.event = .relatedChanged n → n < UInt64.size) →
        RoundTrips Envelope.toJson (Envelope.ofJson? tuples) e) ∧
    (∀ c : RuleConfig, RoundTrips RuleConfig.toJson RuleConfig.ofJson? c) ∧
    (∀ c : HoldConfig, RoundTrips HoldConfig.toJson HoldConfig.ofJson? c) ∧
    (∀ c : SyncConfig, RoundTrips SyncConfig.toJson SyncConfig.ofJson? c) ∧
    (∀ c : LogConfig, RoundTrips LogConfig.toJson LogConfig.ofJson? c) ∧
    (∀ c : Config, RoundTrips Config.toJson Config.ofJson? c) :=
  ⟨fun c ↦ .of_integral c.ofJson?_toJson c.integral_toJson,
    fun c ↦ .of_integral c.ofJson?_toJson c.integral_toJson,
    fun c ↦ .of_integral c.ofJson?_toJson c.integral_toJson,
    fun t ↦ .of_integral t.ofJson?_toJson t.integral_toJson,
    fun r ↦ .of_integral r.ofJson?_toJson r.integral_toJson,
    fun r ↦ .of_integral r.ofJson?_toJson r.integral_toJson,
    fun tuples e h ↦ .of_integral (Event.ofJson?_toJson tuples h) e.integral_toJson,
    fun tuples e h ↦ .of_integral (Envelope.ofJson?_toJson tuples h) e.integral_toJson,
    fun c ↦ .of_integral c.ofJson?_toJson c.integral_toJson,
    fun c ↦ .of_integral c.ofJson?_toJson c.integral_toJson,
    fun c ↦ .of_integral c.ofJson?_toJson c.integral_toJson,
    fun c ↦ .of_integral c.ofJson?_toJson c.integral_toJson,
    fun c ↦ .of_integral c.ofJson?_toJson c.integral_toJson⟩

/-- A record of the greatest version whose condition changed in a leap second before the year 0, and
the event of the greatest count. -/
theorem wire_forms_round_trip_extremes :
    let since : Instant := ⟨-719529, 86399, 1250000000, by decide⟩
    let record : Record :=
      ⟨"a \"name\"\n", .ofNat (UInt64.size - 1), [⟨.degraded, .unknown, "é\x00", "", since⟩], []⟩
    RoundTrips Record.toJson Record.ofJson? record ∧
      (∀ n, Event.relatedChanged (UInt64.size - 1) = .relatedChanged n → n < UInt64.size) ∧
      RoundTrips Event.toJson (Event.ofJson? true) (.relatedChanged (UInt64.size - 1)) := by
  have hcount (n : Nat) (h : Event.relatedChanged (UInt64.size - 1) = .relatedChanged n) :
      n < UInt64.size := by
    cases h
    decide
  have ⟨_, _, _, _, _, hrecord, hevent, _⟩ := wire_forms_round_trip
  exact ⟨hrecord _, hcount, hevent true _ hcount⟩

end StatusRollup
