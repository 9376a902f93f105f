import Mathlib.Data.List.Nodup
import StatusRollup.Config.Path

/-!
# What merging does to one place

A value of a layer changes one place of the tree and leaves every other place alone. Places are told
by the keys that lead to them (`Value.at?`).

* `get?_mergeFields` — a table merged into a value gives each key what it has for it, over what was
  there (`layered`); a key that it does not have keeps what was there.
* `at?_setPath`, `at?_setPath_of_not_prefix` — a value set under a path is found there, and whatever
  is neither above nor below it is as before. Nothing has to be known of what was there: a value
  that is no table has no places below it, so none are lost when a table takes its stead.
* `setAll_eq_mergeFields` — a layer whose keys are plain names is merged like a table.
-/

namespace StatusRollup.Value

variable {t value : Value} {old : Option Value} {key k : String} {fs : List (String × Value)}

/-! ### Tables -/

/-- The value is a table. -/
def isTable : Value → Bool
  | table _ => true
  | _ => false

theorem exists_eq_table (h : t.isTable = true) : ∃ fs, t = table fs := by
  cases t with
  | table fs => exact ⟨fs, rfl⟩
  | _ => exact absurd h Bool.false_ne_true

theorem lookup_cons_eq {β : Type} (key : String) (b : β) (bs : List (String × β)) (k : String) :
    ((key, b) :: bs).lookup k = if k = key then some b else bs.lookup k := by
  rw [List.lookup_cons]
  split
  · next h => rw [if_pos (beq_iff_eq.1 h)]
  · next h => rw [if_neg (beq_eq_false_iff_ne.1 h)]

theorem lookup_eq_none_of_not_mem {β : Type} {bs : List (String × β)}
    (h : k ∉ bs.map Prod.fst) : bs.lookup k = none :=
  List.lookup_eq_none_iff.2 fun b hb ↦
    bne_iff_ne.2 fun hk ↦ h (List.mem_map.2 ⟨b, hb, hk.symm⟩)

/-- Where no key is repeated, every entry is found under its key. -/
theorem lookup_eq_some_iff_mem {β : Type} {bs : List (String × β)} {b : β}
    (h : (bs.map Prod.fst).Nodup) : bs.lookup k = some b ↔ (k, b) ∈ bs := by
  induction bs with
  | nil => exact ⟨nofun, fun hb ↦ absurd hb List.not_mem_nil⟩
  | cons x bs ih =>
    obtain ⟨key, b'⟩ := x
    obtain ⟨hnew, hnodup⟩ := List.nodup_cons.1 h
    rw [lookup_cons_eq, List.mem_cons]
    by_cases hk : k = key
    · subst hk
      have hout : (k, b) ∉ bs := fun hb ↦ hnew (List.mem_map.2 ⟨(k, b), hb, rfl⟩)
      rw [if_pos rfl, Option.some.injEq, or_iff_left hout, Prod.mk.injEq, eq_comm]
      exact (and_iff_right rfl).symm
    · rw [if_neg hk, ih hnodup]
      exact (or_iff_right fun hb ↦ hk (Prod.mk.inj hb).1).symm

theorem lookup_put (key : String) (value : Value) (fs : List (String × Value)) (k : String) :
    (put key value fs).lookup k = if k = key then some value else fs.lookup k := by
  induction fs with
  | nil => exact lookup_cons_eq key value [] k
  | cons f fs ih =>
    obtain ⟨name, v⟩ := f
    rw [put]
    by_cases hname : name = key
    · rw [if_pos hname, lookup_cons_eq, lookup_cons_eq, hname]
      split <;> rfl
    · rw [if_neg hname, lookup_cons_eq, lookup_cons_eq, ih]
      grind

/-- What a table has after a key was set in it. -/
theorem get?_put (key : String) (value t : Value) (k : String) :
    (table (put key value t.fields)).get? k = if k = key then some value else t.get? k :=
  lookup_put key value t.fields k

/-! ### Merging -/

/-- What a place holds after a layer that has something for it, or nothing. -/
def layered (old new : Option Value) : Option Value :=
  match new with
  | some value => some (mergeInto old value)
  | none => old

/-- What is no table replaces what was there. -/
theorem mergeInto_of_not_table (h : value.isTable = false) : mergeInto old value = value := by
  cases value <;> first | rfl | exact absurd h.symm Bool.false_ne_true

/-- **A merged table gives each of its keys what it has for it.** Its keys are in lower case, and
none is repeated. -/
theorem get?_mergeFields (hlower : ∀ f ∈ fs, lowerKey f.1 = f.1) (hnodup : (fs.map Prod.fst).Nodup)
    (t : Value) (k : String) :
    (mergeFields t fs).get? k = layered (t.get? k) (fs.lookup k) := by
  induction fs generalizing t with
  | nil => rfl
  | cons f fs ih =>
    obtain ⟨key, value⟩ := f
    obtain ⟨hkey, hlower⟩ := List.forall_mem_cons.1 hlower
    obtain ⟨hnew, hnodup⟩ := List.nodup_cons.1 hnodup
    replace hkey : lowerKey key = key := hkey
    rw [mergeFields, hkey, ih hlower hnodup, get?_put, lookup_cons_eq]
    by_cases hk : k = key
    · subst hk
      -- no later entry has the key, so what is put there stays
      rw [lookup_eq_none_of_not_mem hnew, if_pos rfl, if_pos rfl]
      rfl
    · rw [if_neg hk, if_neg hk]

theorem isTable_mergeFields (h : t.isTable = true) : (mergeFields t fs).isTable = true := by
  induction fs generalizing t with
  | nil => exact h
  | cons f fs ih => exact ih rfl

/-! ### Places -/

/-- What the keys lead to, from the root on. -/
def at? (t : Value) : List String → Option Value
  | [] => some t
  | key :: keys => (t.get? key).bind fun t ↦ t.at? keys

/-- What stands two keys down. -/
theorem at?_of_get? {t t' : Value} {name : String} (h : t.get? name = some t') (key : String) :
    t.at? [name, key] = t'.get? key := by
  rw [at?, h, Option.bind_some, at?]
  cases t'.get? key <;> rfl

theorem at?_singleton (t : Value) (key : String) : t.at? [key] = t.get? key := by
  rw [at?]
  cases t.get? key <;> rfl

theorem get?_setPath_key (name : String) (rest : List PathStep) (k : String) :
    (setPath value (.key name :: rest) (some t)).get? k =
      if k = lowerKey name then some (setPath value rest (t.get? k)) else t.get? k := by
  rw [setPath, Option.getD_some, get?_put]
  split
  · next h => rw [h]; rfl
  · rfl

/-- What the keys lead to, where there may be nothing at the root. -/
theorem bind_at?_cons (old : Option Value) (key : String) (keys : List String) :
    (old.bind fun t ↦ t.at? (key :: keys)) =
      ((old.getD null).fields.lookup key).bind fun t ↦ t.at? keys := by
  cases old <;> rfl

/-- **A value that is set is found in its place**, over what was there. -/
theorem at?_setPath {keys : List String} (h : ∀ k ∈ keys, lowerKey k = k) :
    (setPath value (keys.map .key) old).at? keys =
      some (mergeInto (old.bind fun t ↦ t.at? keys) value) := by
  induction keys generalizing old with
  | nil =>
    cases old <;> rfl
  | cons key keys ih =>
    obtain ⟨hkey, h⟩ := List.forall_mem_cons.1 h
    rw [bind_at?_cons, ← ih h, List.map_cons, setPath, hkey, at?, get?, fields, lookup_put,
      if_pos rfl, Option.bind_some]

/-- **Setting a value leaves every other place alone**, that is every place that is neither above
nor below the one that is set. -/
theorem at?_setPath_of_not_prefix {keys others : List String} (h : ∀ k ∈ keys, lowerKey k = k)
    (habove : ¬others <+: keys) (hbelow : ¬keys <+: others) :
    (setPath value (keys.map .key) old).at? others = old.bind fun t ↦ t.at? others := by
  induction keys generalizing others old with
  | nil => exact absurd (List.nil_prefix) hbelow
  | cons key keys ih =>
    cases others with
    | nil => exact absurd (List.nil_prefix) habove
    | cons other others =>
      obtain ⟨hkey, h⟩ := List.forall_mem_cons.1 h
      rw [bind_at?_cons, List.map_cons, setPath, hkey, at?, get?, fields, lookup_put]
      by_cases hother : other = key
      · rw [if_pos hother, Option.bind_some, hother]
        refine ih h (fun hp ↦ habove ?_) fun hp ↦ hbelow ?_
        · exact List.cons_prefix_cons.2 ⟨hother, hp⟩
        · exact List.cons_prefix_cons.2 ⟨hother.symm, hp⟩
      · rw [if_neg hother]

/-! ### Layers of plain names -/

/-- A layer of plain names in lower case is merged like a table. -/
theorem setAll_eq_mergeFields (hpath : ∀ f ∈ fs, path f.1 = [.key f.1]) (t : Value) :
    setAll t fs = mergeFields t fs := by
  induction fs generalizing t with
  | nil => rfl
  | cons f fs ih =>
    obtain ⟨hf, hpath⟩ := List.forall_mem_cons.1 hpath
    show setAll (setPath f.2 (path f.1) (some t)) fs = _
    rw [hf, ih hpath]
    rfl

end StatusRollup.Value
