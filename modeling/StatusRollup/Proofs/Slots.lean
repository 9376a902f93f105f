import Mathlib.Data.List.Forall2
import Mathlib.Data.List.Nodup
import StatusRollup.Proofs.JsonText
import StatusRollup.Wire

/-!
# What a reader finds in a written structure

A structure is written as an object whose keys are all different. Its reader then finds every
field's value under the field's key (`readStruct_obj`), and each kind of value is read back from
what writes it: numbers within their bound, lists item by item, optional values other than `null`.

`RoundTrips` is what all of this is for: a value is read back from its wire form and from the text
of that form. Only the first is about the type; the second follows, because every number in a wire
form is an integer (`RoundTrips.of_integral`).
-/

namespace StatusRollup.Json

variable {α : Type} {write : α → Json} {read : Json → Option α} {a : α}

/-- A value is read back from its wire form and from the text of that form. -/
def RoundTrips (write : α → Json) (read : Json → Option α) (a : α) : Prop :=
  read (write a) = some a ∧ (Json.read? (write a).write).bind read = some a

theorem RoundTrips.of_integral (hread : read (write a) = some a)
    (hintegral : (write a).integral = true) : RoundTrips write read a := by
  refine ⟨hread, ?_⟩
  rw [read?_write hintegral, Option.bind_some, hread]

/-! ### Structures -/

theorem isStruct_obj_iff {names : List String} {fields : List (String × Json)} :
    isStruct names (obj fields) = true ↔
      ∀ name ∈ names, (fields.map Prod.fst).count name ≤ 1 := by
  have hcount (name : String) : (fields.filter fun f ↦ f.1 == name).length =
      (fields.map Prod.fst).count name := by
    rw [List.count, List.countP_map, List.countP_eq_length_filter]
    rfl
  simp only [isStruct, hcount, List.all_eq_true, decide_eq_true_eq]

/-- **The reader of a structure finds the value of each key**, if no key is repeated. -/
theorem readStruct_obj {names : List String} {fields : List (String × Json)}
    (h : (fields.map Prod.fst).Nodup) (read : (String → Slot) → Option α) :
    readStruct names read (obj fields) =
      read fun name ↦ (fields.lookup name).elim .absent .given := by
  rw [readStruct, if_pos (isStruct_obj_iff.2 fun name _ ↦ List.nodup_iff_count_le_one.1 h name)]
  rfl

@[simp] theorem Slot.required_given {j : Json} : Slot.required read (.given j) = read j := by
  rw [Slot.required]

@[simp] theorem Slot.defaulted_given {default : α} {j : Json} :
    Slot.defaulted default read (.given j) = read j := by
  rw [Slot.defaulted]

/-! ### Numbers -/

/-- A number is read from nothing else than the integer that is written of it. -/
theorem readNat_eq_some_iff {n bound : Nat} {j : Json} :
    readNat bound j = some n ↔ n < bound ∧ j = ofNat n := by
  constructor
  · intro h
    unfold readNat at h
    split at h
    · next m =>
      split at h
      · next hm =>
        obtain rfl := Option.some.inj h
        exact ⟨by omega, by rw [ofNat, Int.toNat_of_nonneg hm.1]⟩
      · exact absurd h nofun
    · exact absurd h nofun
  · rintro ⟨hn, rfl⟩
    rw [ofNat, readNat, if_pos ⟨Int.natCast_nonneg n, Int.ofNat_lt.2 hn⟩, Int.toNat_natCast]

theorem readNat_ofNat {n bound : Nat} (h : n < bound) : readNat bound (ofNat n) = some n :=
  readNat_eq_some_iff.2 ⟨h, rfl⟩

theorem readUInt64_eq_some_iff {n : UInt64} {j : Json} :
    readUInt64 j = some n ↔ j = ofNat n.toNat := by
  rw [readUInt64, Option.map_eq_some_iff]
  constructor
  · rintro ⟨m, hm, rfl⟩
    obtain ⟨hlt, rfl⟩ := readNat_eq_some_iff.1 hm
    rw [UInt64.toNat_ofNat_of_lt' hlt]
  · rintro rfl
    exact ⟨n.toNat, readNat_ofNat n.toNat_lt_size, UInt64.ofNat_toNat⟩

theorem readUInt32_eq_some_iff {n : UInt32} {j : Json} :
    readUInt32 j = some n ↔ j = ofNat n.toNat := by
  rw [readUInt32, Option.map_eq_some_iff]
  constructor
  · rintro ⟨m, hm, rfl⟩
    obtain ⟨hlt, rfl⟩ := readNat_eq_some_iff.1 hm
    rw [UInt32.toNat_ofNat_of_lt' hlt]
  · rintro rfl
    exact ⟨n.toNat, readNat_ofNat n.toNat_lt_size, UInt32.ofNat_toNat⟩

@[simp] theorem readUInt64_ofNat (n : UInt64) : readUInt64 (ofNat n.toNat) = some n :=
  readUInt64_eq_some_iff.2 rfl

@[simp] theorem readUInt32_ofNat (n : UInt32) : readUInt32 (ofNat n.toNat) = some n :=
  readUInt32_eq_some_iff.2 rfl

/-! ### Lists and optional values -/

/-- A list is read item by item. -/
theorem mapM_eq_some_iff {β : Type} {f : α → Option β} {as : List α} {bs : List β} :
    as.mapM f = some bs ↔ List.Forall₂ (fun a b ↦ f a = some b) as bs := by
  induction as generalizing bs with
  | nil => simp [eq_comm]
  | cons a as ih =>
    rw [List.forall₂_cons_left_iff]
    simp only [List.mapM_cons, Option.bind_eq_bind, Option.bind_eq_some_iff, ih,
      Option.pure_def, Option.some.injEq, exists_and_left]
    grind

theorem readList_ofList {as : List α} (h : ∀ a ∈ as, read (write a) = some a) :
    readList read (ofList write as) = some as :=
  mapM_eq_some_iff.2 (List.forall₂_map_left_iff.2 (List.forall₂_same.2 h))

/-- An optional value is read back, if what is written of a value is not `null`. -/
theorem optional_ofOption {o : Option α} (hnull : ∀ a, write a ≠ null)
    (h : ∀ a, read (write a) = some a) :
    Slot.optional read (.given (ofOption write o)) = some o := by
  cases o with
  | none => rfl
  | some a =>
    show Slot.optional read (.given (write a)) = _
    rw [Slot.optional, h, Option.map_some]
    exact hnull a

/-! ### Parts of a value -/

/-- **Induction over values.** What holds of scalars, and of an array or an object if it holds of
all that is in it, holds of every value. -/
@[elab_as_elim]
theorem induction {P : Json → Prop} (scalar : ∀ j, j.depth = 0 → P j)
    (arr : ∀ items, (∀ j ∈ items, P j) → P (.arr items))
    (obj : ∀ fields, (∀ f ∈ fields, P f.2) → P (.obj fields)) (j : Json) : P j :=
  @Json.rec P (fun items ↦ ∀ j ∈ items, P j) (fun fields ↦ ∀ f ∈ fields, P f.2) (fun f ↦ P f.2)
    (scalar _ rfl) (fun _ ↦ scalar _ rfl) (fun _ ↦ scalar _ rfl) (fun _ ↦ scalar _ rfl)
    arr obj (scalar _ rfl)
    (List.forall_mem_nil _) (fun _ _ hj hjs ↦ List.forall_mem_cons.2 ⟨hj, hjs⟩)
    (List.forall_mem_nil _) (fun _ _ hf hfs ↦ List.forall_mem_cons.2 ⟨hf, hfs⟩)
    (fun _ _ hj ↦ hj) j

theorem itemsIntegral_iff {items : List Json} :
    itemsIntegral items = true ↔ ∀ j ∈ items, j.integral = true := by
  induction items with
  | nil => simp [itemsIntegral]
  | cons j js ih => simp [itemsIntegral, ih]

theorem fieldsIntegral_iff {fields : List (String × Json)} :
    fieldsIntegral fields = true ↔ ∀ f ∈ fields, f.2.integral = true := by
  induction fields with
  | nil => simp [fieldsIntegral]
  | cons f fields ih => simp [fieldsIntegral, ih]

theorem itemsDepth_le_iff {items : List Json} {n : Nat} :
    itemsDepth items ≤ n ↔ ∀ j ∈ items, j.depth ≤ n := by
  induction items with
  | nil => simp [itemsDepth]
  | cons j js ih => rw [itemsDepth, Nat.max_le, ih, List.forall_mem_cons]

theorem fieldsDepth_le_iff {fields : List (String × Json)} {n : Nat} :
    fieldsDepth fields ≤ n ↔ ∀ f ∈ fields, f.2.depth ≤ n := by
  induction fields with
  | nil => simp [fieldsDepth]
  | cons f fields ih => rw [fieldsDepth, Nat.max_le, ih, List.forall_mem_cons]

@[simp] theorem integral_ofNat (n : Nat) : (ofNat n).integral = true := rfl

theorem integral_ofList {as : List α} (h : ∀ a ∈ as, (write a).integral = true) :
    (ofList write as).integral = true := by
  rw [ofList, integral, itemsIntegral_iff]
  exact List.forall_mem_map.2 h

theorem integral_ofOption {o : Option α} (h : ∀ a, (write a).integral = true) :
    (ofOption write o).integral = true := by
  cases o with
  | none => rfl
  | some a => exact h a

theorem depth_ofList_le {as : List α} {n : Nat} (h : ∀ a ∈ as, (write a).depth ≤ n) :
    (ofList write as).depth ≤ n + 1 :=
  Nat.succ_le_succ (itemsDepth_le_iff.2 (List.forall_mem_map.2 h))

end StatusRollup.Json
