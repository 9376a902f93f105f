import StatusRollup.Config.Value
import StatusRollup.Proofs.Slots
import StatusRollup.Wire.Config

/-!
# Configurations with keys left out

`Json.prune` deletes keys from a document, each told by its path, and `Config.reset` puts the
settings that the paths lead to back to their defaults. Reading a configuration from which keys were
deleted gives the one in which they are reset (`Config.ofJson?_prune`), whatever the set of paths,
as long as it leaves the keys alone that a rule or a reference cannot do without.

The reader of a structure finds every slot as it was written, or absent (`readStruct_prune`), so
each type takes a few lines; lists hand the paths on to their items (`readList_prune`). With no path
at all nothing is deleted and nothing is reset, which makes the round trips of the configuration
types a special case.
-/

namespace StatusRollup

open Value (PathStep)

/-- The paths below a step, out of the paths that begin with it. -/
def under (step : PathStep) (drop : List PathStep → Bool) : List PathStep → Bool :=
  fun path ↦ drop (step :: path)

/-- Resets the items of a list, each at the paths below its index. -/
def resetItems {α : Type} (reset : (List PathStep → Bool) → α → α) (drop : List PathStep → Bool)
    (as : List α) : List α :=
  as.mapIdx fun i a ↦ reset (under (.item i) drop) a

theorem resetItems_none {α : Type} {reset : (List PathStep → Bool) → α → α}
    (h : ∀ a, reset (fun _ ↦ false) a = a) (as : List α) :
    resetItems reset (fun _ ↦ false) as = as := by
  have hitem : (fun (i : Nat) a ↦ reset (under (.item i) fun _ ↦ false) a) = fun _ a ↦ a := by
    funext i a
    exact h a
  rw [resetItems, hitem, List.mapIdx_eq_zipIdx_map]
  simp

namespace Json

mutual

/-- The value without the fields whose paths are dropped. -/
def prune (drop : List PathStep → Bool) : Json → Json
  | arr items => arr (pruneItems drop 0 items)
  | obj fields => obj (pruneFields drop fields)
  | null => null
  | bool b => bool b
  | num n => num n
  | str s => str s
  | unreadable => unreadable

/-- The items, the first of which has this index. -/
def pruneItems (drop : List PathStep → Bool) (i : Nat) : List Json → List Json
  | [] => []
  | j :: js => prune (under (.item i) drop) j :: pruneItems drop (i + 1) js

/-- The fields that are not dropped, each without what is dropped from it. -/
def pruneFields (drop : List PathStep → Bool) : List (String × Json) → List (String × Json)
  | [] => []
  | (key, j) :: rest =>
    if drop [.key key] then pruneFields drop rest
    else (key, prune (under (.key key) drop) j) :: pruneFields drop rest

end

variable {α : Type} {drop : List PathStep → Bool} {fields : List (String × Json)}
  {write : α → Json} {read : Json → Option α} {reset : (List PathStep → Bool) → α → α}

/-! ### What pruning keeps -/

theorem prune_of_depth_eq_zero {j : Json} (h : j.depth = 0) : j.prune drop = j := by
  cases j with
  | arr items => exact absurd h (Nat.succ_ne_zero _)
  | obj fields => exact absurd h (Nat.succ_ne_zero _)
  | _ => rfl

/-- Every item of a pruned list is an item of the list, pruned. -/
theorem mem_pruneItems {i : Nat} {items : List Json} {j : Json}
    (h : j ∈ pruneItems drop i items) :
    ∃ k : Nat, ∃ j' ∈ items, j = j'.prune (under (.item k) drop) := by
  induction items generalizing i with
  | nil => exact absurd h List.not_mem_nil
  | cons j' js ih =>
    rcases List.mem_cons.1 h with rfl | h
    · exact ⟨i, j', List.mem_cons_self, rfl⟩
    · obtain ⟨k, j'', hmem, rfl⟩ := ih h
      exact ⟨k, j'', List.mem_cons_of_mem j' hmem, rfl⟩

/-- Every field of a pruned object is a field of the object, pruned. -/
theorem mem_pruneFields {f : String × Json} (h : f ∈ pruneFields drop fields) :
    ∃ f' ∈ fields, f = (f'.1, f'.2.prune (under (.key f'.1) drop)) := by
  induction fields with
  | nil => exact absurd h List.not_mem_nil
  | cons f' fields ih =>
    have hrest (h : f ∈ pruneFields drop fields) :
        ∃ f'' ∈ f' :: fields, f = (f''.1, f''.2.prune (under (.key f''.1) drop)) := by
      obtain ⟨f'', hmem, rfl⟩ := ih h
      exact ⟨f'', List.mem_cons_of_mem f' hmem, rfl⟩
    rw [pruneFields] at h
    split at h
    · exact hrest h
    · rcases List.mem_cons.1 h with rfl | h
      · exact ⟨f', List.mem_cons_self, rfl⟩
      · exact hrest h

/-- **What a value has because all that is in it has it, it keeps when it is pruned.** -/
theorem of_prune {P : Json → Prop} (harr : ∀ items, P (arr items) ↔ ∀ j ∈ items, P j)
    (hobj : ∀ fields, P (obj fields) ↔ ∀ f ∈ fields, P f.2) {j : Json} (h : P j) :
    P (j.prune drop) := by
  induction j using Json.induction generalizing drop with
  | scalar j hdepth => rwa [prune_of_depth_eq_zero hdepth]
  | arr items ih =>
    refine (harr _).2 fun j hj ↦ ?_
    obtain ⟨k, j', hj', rfl⟩ := mem_pruneItems hj
    exact ih j' hj' ((harr items).1 h j' hj')
  | obj fields ih =>
    refine (hobj _).2 fun f hf ↦ ?_
    obtain ⟨f', hf', rfl⟩ := mem_pruneFields hf
    exact ih f' hf' ((hobj fields).1 h f' hf')

theorem integral_prune {j : Json} (h : j.integral = true) : (j.prune drop).integral = true :=
  of_prune (P := fun j ↦ j.integral = true) (fun _ ↦ itemsIntegral_iff)
    (fun _ ↦ fieldsIntegral_iff) h

/-- Pruning does not deepen a value. -/
theorem depth_prune_le (drop : List PathStep → Bool) (j : Json) :
    (j.prune drop).depth ≤ j.depth := by
  induction j using Json.induction generalizing drop with
  | scalar j hdepth => exact Nat.le_of_eq (congrArg depth (prune_of_depth_eq_zero hdepth))
  | arr items ih =>
    refine Nat.succ_le_succ (itemsDepth_le_iff.2 fun j hj ↦ ?_)
    obtain ⟨k, j', hj', rfl⟩ := mem_pruneItems hj
    exact Nat.le_trans (ih j' hj' _) (itemsDepth_le_iff.1 (Nat.le_refl _) j' hj')
  | obj fields ih =>
    refine Nat.succ_le_succ (fieldsDepth_le_iff.2 fun f hf ↦ ?_)
    obtain ⟨f', hf', rfl⟩ := mem_pruneFields hf
    exact Nat.le_trans (ih f' hf' _) (fieldsDepth_le_iff.1 (Nat.le_refl _) f' hf')

/-- Without a path nothing is deleted. -/
@[simp] theorem prune_none (j : Json) : j.prune (fun _ ↦ false) = j := by
  induction j using Json.induction with
  | scalar j hdepth => exact prune_of_depth_eq_zero hdepth
  | arr items ih =>
    have hitems (i : Nat) : pruneItems (fun _ ↦ false) i items = items := by
      induction items generalizing i with
      | nil => rfl
      | cons j js ihs =>
        obtain ⟨hj, hjs⟩ := List.forall_mem_cons.1 ih
        show j.prune (fun _ ↦ false) :: pruneItems (fun _ ↦ false) (i + 1) js = _
        rw [hj, ihs hjs]
    exact congrArg arr (hitems 0)
  | obj fields ih =>
    have hfields : pruneFields (fun _ ↦ false) fields = fields := by
      induction fields with
      | nil => rfl
      | cons f fields ihs =>
        obtain ⟨hf, hfields⟩ := List.forall_mem_cons.1 ih
        show (f.1, f.2.prune fun _ ↦ false) :: pruneFields (fun _ ↦ false) fields = _
        rw [hf, ihs hfields]
    exact congrArg obj hfields

/-! ### Reading what is left -/

/-- A key's value is found unless its path is dropped. -/
theorem lookup_pruneFields (drop : List PathStep → Bool) (fields : List (String × Json))
    (name : String) :
    (pruneFields drop fields).lookup name =
      if drop [.key name] then none
      else (fields.lookup name).map (prune (under (.key name) drop)) := by
  induction fields with
  | nil => simp [pruneFields]
  | cons field fields ih =>
    obtain ⟨key, j⟩ := field
    rw [pruneFields, List.lookup_cons]
    by_cases hname : name = key
    · subst hname
      by_cases hdrop : drop [.key name]
      · rw [if_pos hdrop, ih, if_pos hdrop, if_pos hdrop]
      · rw [if_neg hdrop, if_neg hdrop, List.lookup_cons_self, beq_self_eq_true]
        rfl
    · have hne : (name == key) = false := beq_false_of_ne hname
      rw [hne]
      split
      · exact ih
      · rw [List.lookup_cons, hne]
        exact ih

/-- No key comes in by pruning. -/
theorem keys_pruneFields_sublist (drop : List PathStep → Bool) (fields : List (String × Json)) :
    ((pruneFields drop fields).map Prod.fst).Sublist (fields.map Prod.fst) := by
  induction fields with
  | nil => exact List.Sublist.slnil
  | cons field fields ih =>
    rw [pruneFields]
    split
    · exact ih.cons _
    · exact ih.cons_cons _

/-- **The reader of a pruned structure finds each key's value pruned, or nothing.** -/
theorem readStruct_prune {names : List String} (h : (fields.map Prod.fst).Nodup)
    (read : (String → Slot) → Option α) :
    readStruct names read ((obj fields).prune drop) =
      read fun name ↦
        if drop [.key name] then .absent
        else ((fields.lookup name).map (prune (under (.key name) drop))).elim .absent .given := by
  rw [prune, readStruct_obj (h.sublist (keys_pruneFields_sublist drop fields))]
  congr 1
  funext name
  rw [lookup_pruneFields]
  split <;> rfl

@[simp] theorem prune_str (s : String) : (str s).prune drop = str s := rfl

@[simp] theorem prune_bool (b : Bool) : (bool b).prune drop = bool b := rfl

@[simp] theorem prune_ofNat (n : Nat) : (ofNat n).prune drop = ofNat n := rfl

@[simp] theorem Slot.defaulted_ite {default : α} {p : Prop} [Decidable p] {j : Json} :
    Slot.defaulted default read (if p then .absent else .given j) =
      if p then some default else read j := by
  split <;> rfl

/-- Items are read one by one, each reset at the paths below its index. -/
theorem mapM_pruneItems {i : Nat} {as : List α}
    (h : ∀ k : Nat, ∀ a ∈ as,
      read ((write a).prune (under (.item k) drop)) = some (reset (under (.item k) drop) a)) :
    (pruneItems drop i (as.map write)).mapM read =
      some (as.mapIdx fun k a ↦ reset (under (.item (i + k : Nat)) drop) a) := by
  induction as generalizing i with
  | nil => rfl
  | cons a as ih =>
    rw [List.map_cons, pruneItems, List.mapM_cons, h _ a List.mem_cons_self,
      ih fun k b hb ↦ h k b (List.mem_cons_of_mem a hb), List.mapIdx_cons]
    simp [Nat.add_comm, Nat.add_left_comm]

/-- **A list is read with each item reset** at the paths below its index. -/
theorem readList_prune {as : List α}
    (h : ∀ k : Nat, ∀ a ∈ as,
      read ((write a).prune (under (.item k) drop)) = some (reset (under (.item k) drop) a)) :
    readList read ((ofList write as).prune drop) =
      some (resetItems reset drop as) := by
  rw [ofList, prune, readList, mapM_pruneItems h, resetItems]
  simp

end Json

namespace PatternKind

@[simp] theorem ofJson?_toJson (k : PatternKind) : ofJson? k.toJson = some k := by
  cases k <;> rfl

@[simp] theorem integral_toJson (k : PatternKind) : k.toJson.integral = true := rfl

end PatternKind

open Json

variable {drop : List PathStep → Bool}

namespace ObjectRef

/-- The reference with its namespace left out, if that is dropped. -/
def reset (drop : List PathStep → Bool) (r : ObjectRef) : ObjectRef :=
  { r with scope := if drop [.key "namespace"] then "" else r.scope }

theorem ofJson?_prune (hgroup : drop [.key "group"] = false)
    (hresource : drop [.key "resource"] = false) (hname : drop [.key "name"] = false)
    (r : ObjectRef) : ofJson? (r.toJson.prune drop) = some (r.reset drop) := by
  rw [toJson, ofJson?, readStruct_prune (by simp)]
  simp [List.lookup_cons, hgroup, hresource, hname, readStr, reset,
    ← apply_ite some]

theorem reset_none (r : ObjectRef) : r.reset (fun _ ↦ false) = r := rfl

end ObjectRef

namespace RuleConfig

/-- The rule with its kind left out, if that is dropped. -/
def reset (drop : List PathStep → Bool) (c : RuleConfig) : RuleConfig :=
  { c with kind := if drop [.key "kind"] then defaultKind else c.kind }

theorem ofJson?_prune (hpattern : drop [.key "pattern"] = false)
    (hhold : drop [.key "hold_secs"] = false) (c : RuleConfig) :
    ofJson? (c.toJson.prune drop) = some (c.reset drop) := by
  have hkind : c.kind.toJson.prune (under (.key "kind") drop) = c.kind.toJson := rfl
  rw [toJson, ofJson?, readStruct_prune (by simp)]
  simp [List.lookup_cons, hpattern, hhold, hkind, readStr, reset, ← apply_ite some]

theorem reset_none (c : RuleConfig) : c.reset (fun _ ↦ false) = c := rfl

end RuleConfig

namespace HoldConfig

/-- The holds with what is dropped left out. -/
def reset (drop : List PathStep → Bool) (c : HoldConfig) : HoldConfig where
  defaultSecs := if drop [.key "default_hold_secs"] then default.defaultSecs else c.defaultSecs
  rules :=
    if drop [.key "rules"] then []
    else resetItems RuleConfig.reset (under (.key "rules") drop) c.rules

theorem ofJson?_prune (hpattern : ∀ i : Nat, drop [.key "rules", .item i, .key "pattern"] = false)
    (hhold : ∀ i : Nat, drop [.key "rules", .item i, .key "hold_secs"] = false) (c : HoldConfig) :
    ofJson? (c.toJson.prune drop) = some (c.reset drop) := by
  have hrules : readList RuleConfig.ofJson?
      ((ofList RuleConfig.toJson c.rules).prune (under (.key "rules") drop)) =
        some (resetItems RuleConfig.reset (under (.key "rules") drop) c.rules) :=
    readList_prune fun i rule _ ↦ RuleConfig.ofJson?_prune (hpattern i) (hhold i) rule
  rw [toJson, ofJson?, readStruct_prune (by simp)]
  simp [List.lookup_cons, hrules, reset, ← apply_ite some]

theorem reset_none (c : HoldConfig) : c.reset (fun _ ↦ false) = c :=
  congrArg (HoldConfig.mk c.defaultSecs) (resetItems_none RuleConfig.reset_none c.rules)

end HoldConfig

namespace SyncConfig

/-- The behaviour of passes with what is dropped left out. -/
def reset (drop : List PathStep → Bool) (c : SyncConfig) : SyncConfig where
  maxRetries := if drop [.key "max_conflict_retries"] then default.maxRetries else c.maxRetries
  emits := if drop [.key "emit_events"] then default.emits else c.emits

theorem ofJson?_prune (c : SyncConfig) : ofJson? (c.toJson.prune drop) = some (c.reset drop) := by
  rw [toJson, ofJson?, readStruct_prune (by simp)]
  simp [List.lookup_cons, readBool, reset, ← apply_ite some]

theorem reset_none (c : SyncConfig) : c.reset (fun _ ↦ false) = c := rfl

end SyncConfig

namespace LogConfig

/-- The behaviour of the log with what is dropped left out. -/
def reset (drop : List PathStep → Bool) (c : LogConfig) : LogConfig where
  level := if drop [.key "level"] then default.level else c.level

theorem ofJson?_prune (c : LogConfig) : ofJson? (c.toJson.prune drop) = some (c.reset drop) := by
  rw [toJson, ofJson?, readStruct_prune (by simp)]
  simp [readStr, reset, ← apply_ite some]

theorem reset_none (c : LogConfig) : c.reset (fun _ ↦ false) = c := rfl

end LogConfig

namespace Config

/-- The paths of the keys that have a default. -/
def isDefaulted : List PathStep → Bool
  | [.key name] => fields.contains name
  | [.key "inertia", .key name] => HoldConfig.fields.contains name
  | [.key "inertia", .key "rules", .item _, .key name] => name == "kind"
  | [.key "related_objects", .item _, .key name] => name == "namespace"
  | [.key "sync", .key name] => SyncConfig.fields.contains name
  | [.key "logging", .key name] => LogConfig.fields.contains name
  | _ => false

/-- The configuration with what is dropped left out: every setting that a dropped path leads to is
back at its default. -/
def reset (drop : List PathStep → Bool) (c : Config) : Config where
  recordName := if drop [.key "record_name"] then defaultName else c.recordName
  hold := if drop [.key "inertia"] then .default else c.hold.reset (under (.key "inertia") drop)
  related :=
    if drop [.key "related_objects"] then []
    else resetItems ObjectRef.reset (under (.key "related_objects") drop) c.related
  sync := if drop [.key "sync"] then .default else c.sync.reset (under (.key "sync") drop)
  logging :=
    if drop [.key "logging"] then .default else c.logging.reset (under (.key "logging") drop)

theorem reset_none (c : Config) : c.reset (fun _ ↦ false) = c := by
  show Config.mk c.recordName (c.hold.reset fun _ ↦ false)
    (resetItems ObjectRef.reset (fun _ ↦ false) c.related) c.sync c.logging = c
  rw [c.hold.reset_none, resetItems_none ObjectRef.reset_none]

/-- **Reading what is left of a configuration gives it with the rest reset**, if only keys with a
default were deleted. -/
theorem ofJson?_prune (h : ∀ path, drop path = true → isDefaulted path = true) (c : Config) :
    ofJson? (c.toJson.prune drop) = some (c.reset drop) := by
  -- what has no default is not dropped, so rules and references keep what they cannot do without
  have hkept {path : List PathStep} (hpath : isDefaulted path = false) : drop path = false :=
    eq_false_of_ne_true fun hdrop ↦ Bool.false_ne_true (hpath.symm.trans (h path hdrop))
  have hhold : HoldConfig.ofJson? (c.hold.toJson.prune (under (.key "inertia") drop)) =
      some (c.hold.reset (under (.key "inertia") drop)) := by
    refine HoldConfig.ofJson?_prune (fun i ↦ ?_) (fun i ↦ ?_) c.hold <;> exact hkept rfl
  have hrelated : readList ObjectRef.ofJson?
      ((ofList ObjectRef.toJson c.related).prune (under (.key "related_objects") drop)) =
        some (resetItems ObjectRef.reset (under (.key "related_objects") drop) c.related) := by
    refine readList_prune fun i r _ ↦ ObjectRef.ofJson?_prune ?_ ?_ ?_ r <;> exact hkept rfl
  rw [toJson, ofJson?, readStruct_prune (by simp)]
  simp [List.lookup_cons, readStr, hhold, hrelated, SyncConfig.ofJson?_prune,
    LogConfig.ofJson?_prune, reset, ← apply_ite some]

end Config

end StatusRollup
