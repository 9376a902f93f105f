import StatusRollup.Config.Load
import StatusRollup.Proofs.Pruning
import StatusRollup.Proofs.Reading
import StatusRollup.Proofs.WireForms

/-!
# Loading a file is decoding it

A configuration that is written to a file is loaded from it as it is decoded from it, also when keys
that have a default were deleted (`Config.load_prune`). The defaults come about in two ways:
decoding fills them in key by key, loading puts a layer with all of them below the file. That both
give the same rests on three facts.

* `Value.orDefault_layered` — they agree on one key: where it is missing, the layer of defaults
  holds what decoding fills in, and where it is given, its value replaces the default or, if it is a
  section, is merged into it.
* `HoldConfig.ofValue?_mergeInto` and its siblings — so they agree on a section that was merged into
  its defaults, and so on the field that holds it (`Config.IsPlain.orDefault_get?_mergeInto`).
* `Config.ofValue?_merge` — and on the whole, for every document with plain keys that can be
  decoded. A key is plain if it is in lower case and no longer path, since keys of a file are paths
  and do not distinguish case, while decoding takes them as they are.

Numbers have to fit 64 bits with a sign. Greater ones are approximated by a layer, and decoding
takes them exactly.
-/

namespace StatusRollup

open Json (Slot)

namespace Value

variable {α : Type} {names : List String} {fields : List (String × Json)}
  {ts ds : List (String × Value)} {j : Json} {t : Value} {slot : Slot} {field old : Option Value}
  {read : Json → Option α} {generous : Value → Option α} {a default : α}

/-! ### Layers over defaults -/

/-- Only an object becomes a table. -/
theorem isTable_eq_false_of_ofJson? (hj : ∀ fields, j ≠ .obj fields) (h : ofJson? j = some t) :
    t.isTable = false := by
  cases j with
  | obj fields => exact absurd rfl (hj fields)
  | num n =>
    cases n with
    | int n =>
      rw [ofJson?, Numeral.toValue?] at h
      split at h
      · cases h
        rfl
      · obtain ⟨x, -, rfl⟩ := Option.map_eq_some_iff.1 h
        rfl
    | decimal =>
      obtain ⟨x, -, rfl⟩ := Option.map_eq_some_iff.1 h
      rfl
  | arr items =>
    obtain ⟨us, -, rfl⟩ := Option.map_eq_some_iff.1 h
    rfl
  | unreadable => exact absurd h.symm (Option.some_ne_none t)
  | _ =>
    cases h
    rfl

/-- What is no object is read from a layer as it is, whatever was there before. -/
theorem Refines.mergeInto (hr : Refines read generous a)
    (hscalar : ∀ fields, read (.obj fields) = none) (ht : ofJson? j = some t)
    (h : read j = some a) : generous (mergeInto old t) = some a := by
  have hj (fields : List (String × Json)) : j ≠ .obj fields := by
    rintro rfl
    exact absurd (h.symm.trans (hscalar fields)) (Option.some_ne_none a)
  rw [mergeInto_of_not_table (isTable_eq_false_of_ofJson? hj ht)]
  exact hr j t ht h

/-- **The two default mechanisms agree on a field.** The strict reader takes the default for a
missing key; the generous one finds it in the layer below, or takes it, too. -/
theorem orDefault_layered {name : String} (hts : ofFields? fields = some ts)
    (honce : (fields.map Prod.fst).count name ≤ 1)
    (hread : ∀ j t, (name, j) ∈ fields → ofJson? j = some t → read j = some a →
      generous (mergeInto old t) = some a)
    (hold : orDefault default generous old = some default)
    (h : Slot.defaulted default read ((fields.lookup name).elim .absent .given) = some a) :
    orDefault default generous (layered old (ts.lookup name)) = some a := by
  have hfound := found_lookup hts honce
  cases hlookup : fields.lookup name with
  | none =>
    rw [hlookup] at hfound h
    -- nothing stands for a missing key, so what is below it shows through
    rw [hfound.eq_none]
    obtain rfl := Option.some.inj h
    exact hold
  | some j =>
    obtain ⟨before, after, hfields, -⟩ := List.lookup_eq_some_iff.1 hlookup
    have hmem : (name, j) ∈ fields := hfields ▸ by simp
    rw [hlookup, Option.elim_some] at hfound h
    rw [Json.Slot.defaulted_given] at h
    generalize ts.lookup name = field at hfound ⊢
    cases hfound with
    | given ht => exact hread j _ hmem ht h

/-- The fields that a layer has of an object: no key is repeated, and each value is that of a value
under its key. -/
theorem mem_ofFields? (h : ofFields? fields = some ts) :
    (ts.map Prod.fst).Nodup ∧ ∀ f ∈ ts, ∃ j, (f.1, j) ∈ fields ∧ ofJson? j = some f.2 := by
  induction fields generalizing ts with
  | nil =>
    cases h
    exact ⟨List.nodup_nil, List.forall_mem_nil _⟩
  | cons f fields ih =>
    obtain ⟨key, j⟩ := f
    simp only [ofFields?, Option.bind_eq_bind, Option.bind_eq_some_iff] at h
    obtain ⟨t, ht, rest, hrest, h⟩ := h
    obtain rfl := Option.some.inj h
    -- a key that comes again has its later value, so this one is left out
    obtain ⟨hnodup, hvalues⟩ := ih hrest
    have hold (f : String × Value) (hf : f ∈ rest) :
        ∃ j', (f.1, j') ∈ (key, j) :: fields ∧ ofJson? j' = some f.2 := by
      obtain ⟨j', hj', hvalue⟩ := hvalues f hf
      exact ⟨j', List.mem_cons_of_mem _ hj', hvalue⟩
    split
    · exact ⟨hnodup, hold⟩
    · next hnew =>
      refine ⟨List.nodup_cons.2 ⟨fun hmem ↦ hnew ?_, hnodup⟩, fun f hf ↦ ?_⟩
      · obtain ⟨f, hf, hkey⟩ := List.mem_map.1 hmem
        exact List.lookup_isSome_iff.2 ⟨f, hf, beq_iff_eq.2 hkey.symm⟩
      · rcases List.mem_cons.1 hf with rfl | hf
        · exact ⟨j, List.mem_cons_self, ht⟩
        · exact hold f hf

/-- A table merged over what was there. -/
theorem get?_mergeInto_table (hlower : ∀ f ∈ fields, lowerKey f.1 = f.1)
    (hts : ofFields? fields = some ts) (old : Option Value) (k : String) :
    (mergeInto old (table ts)).get? k = layered (old.bind fun t ↦ t.get? k) (ts.lookup k) := by
  obtain ⟨hnodup, hvalues⟩ := mem_ofFields? hts
  have hts' (f : String × Value) (hf : f ∈ ts) : lowerKey f.1 = f.1 := by
    obtain ⟨j, hj, -⟩ := hvalues f hf
    exact hlower (f.1, j) hj
  rw [Value.mergeInto, get?_mergeFields hts' hnodup]
  cases old <;> rfl

/-- The two default mechanisms agree on a field of a table that is merged over another one, if the
field is read from what is no object. -/
theorem orDefault_get?_mergeInto {name : String} (hlower : ∀ f ∈ fields, lowerKey f.1 = f.1)
    (hts : ofFields? fields = some ts) (honce : (fields.map Prod.fst).count name ≤ 1)
    (hr : Refines read generous a) (hscalar : ∀ fields, read (.obj fields) = none)
    (hold : orDefault default generous (old.bind fun t ↦ t.get? name) = some default)
    (h : Slot.defaulted default read ((fields.lookup name).elim .absent .given) = some a) :
    orDefault default generous ((mergeInto old (table ts)).get? name) = some a := by
  rw [get?_mergeInto_table hlower hts]
  exact orDefault_layered hts honce (fun _ _ _ ↦ hr.mergeInto hscalar) hold h

end Value

open Value

/-! ### Sections -/

section Sections

variable {fields : List (String × Json)} {ts : List (String × Value)}

/-- The holds fit a layer. -/
def HoldConfig.Fits (c : HoldConfig) : Prop :=
  (c.defaultSecs.toNat : Int) ≤ Int64.maxValue.toInt ∧
    ∀ rule ∈ c.rules, (rule.holdSecs.toNat : Int) ≤ Int64.maxValue.toInt

theorem HoldConfig.ofValue?_mergeInto {c : HoldConfig} (hfits : c.Fits)
    (hlower : ∀ f ∈ fields, lowerKey f.1 = f.1) (hts : Value.ofFields? fields = some ts)
    (hc : ofJson? (.obj fields) = some c) :
    ofValue? (mergeInto (Config.defaultLayer.lookup "inertia") (table ts)) = some c := by
  obtain ⟨hj, hc⟩ := readStruct_eq_some_iff.1 hc
  simp only [Option.bind_eq_bind, Option.bind_eq_some_iff] at hc
  obtain ⟨secs, hsecs, rules, hrules, hc⟩ := hc
  obtain rfl := Option.some.inj hc
  have honce := Json.isStruct_obj_iff.1 hj
  have htable : (mergeInto (Config.defaultLayer.lookup "inertia") (table ts)).isTable = true :=
    isTable_mergeFields rfl
  have hdefault : ((Config.defaultLayer.lookup "inertia").bind fun t ↦
      t.get? "default_hold_secs") = some (int default.defaultSecs.toNat) := rfl
  refine (ofValue?_eq_some_iff htable).2 ⟨?_, ?_⟩
  · refine orDefault_get?_mergeInto hlower hts (honce _ (by decide)) (refines_readUInt64 hfits.1)
      (fun _ ↦ rfl) ?_ hsecs
    rw [hdefault, orDefault, readUInt64?_int]
  · have hrules' : Refines _ (readList? RuleConfig.ofValue?) rules :=
      refines_readList fun rule hrule ↦ RuleConfig.refines (hfits.2 rule hrule)
    exact orDefault_get?_mergeInto hlower hts (honce _ (by decide)) hrules' (fun _ ↦ rfl) rfl hrules

theorem SyncConfig.ofValue?_mergeInto {c : SyncConfig} (hlower : ∀ f ∈ fields, lowerKey f.1 = f.1)
    (hts : Value.ofFields? fields = some ts) (hc : ofJson? (.obj fields) = some c) :
    ofValue? (mergeInto (Config.defaultLayer.lookup "sync") (table ts)) = some c := by
  obtain ⟨hj, hc⟩ := readStruct_eq_some_iff.1 hc
  simp only [Option.bind_eq_bind, Option.bind_eq_some_iff] at hc
  obtain ⟨retries, hretries, emits, hemits, hc⟩ := hc
  obtain rfl := Option.some.inj hc
  have honce := Json.isStruct_obj_iff.1 hj
  have htable : (mergeInto (Config.defaultLayer.lookup "sync") (table ts)).isTable = true :=
    isTable_mergeFields rfl
  have hdefault : ((Config.defaultLayer.lookup "sync").bind fun t ↦
      t.get? "max_conflict_retries") = some (int default.maxRetries.toNat) := rfl
  refine (ofValue?_eq_some_iff htable).2 ⟨?_, ?_⟩
  · refine orDefault_get?_mergeInto hlower hts (honce _ (by decide)) (refines_readUInt32 retries)
      (fun _ ↦ rfl) ?_ hretries
    rw [hdefault, orDefault, readUInt32?_int]
  · exact orDefault_get?_mergeInto hlower hts (honce _ (by decide)) (refines_readBool emits)
      (fun _ ↦ rfl) rfl hemits

theorem LogConfig.ofValue?_mergeInto {c : LogConfig} (hlower : ∀ f ∈ fields, lowerKey f.1 = f.1)
    (hts : Value.ofFields? fields = some ts) (hc : ofJson? (.obj fields) = some c) :
    ofValue? (mergeInto (Config.defaultLayer.lookup "logging") (table ts)) = some c := by
  obtain ⟨hj, hc⟩ := readStruct_eq_some_iff.1 hc
  simp only [Option.bind_eq_bind, Option.bind_eq_some_iff] at hc
  obtain ⟨level, hlevel, hc⟩ := hc
  obtain rfl := Option.some.inj hc
  have honce := Json.isStruct_obj_iff.1 hj
  have htable : (mergeInto (Config.defaultLayer.lookup "logging") (table ts)).isTable = true :=
    isTable_mergeFields rfl
  exact (ofValue?_eq_some_iff htable).2 <| orDefault_get?_mergeInto hlower hts
    (honce _ (by decide)) (refines_readStr level) (fun _ ↦ rfl) rfl hlevel

end Sections

namespace Config

/-- The sections. -/
def sections : List String := ["inertia", "sync", "logging"]

/-- A document whose keys are plain: each key of the whole is a path of one name, and sections are
objects, all in lower case. -/
structure IsPlain (fields : List (String × Json)) : Prop where
  /-- The keys of the whole. -/
  keys : ∀ f ∈ fields, path f.1 = [.key f.1] ∧ lowerKey f.1 = f.1
  /-- The keys of the sections. -/
  sections : ∀ f ∈ fields, f.1 ∈ sections →
    ∃ inner, f.2 = .obj inner ∧ ∀ g ∈ inner, lowerKey g.1 = g.1

variable {fields : List (String × Json)} {ts : List (String × Value)} {c : Config}

/-- The two default mechanisms agree on a section if they agree on every table of it that is merged
into its defaults. -/
theorem IsPlain.orDefault_get?_mergeInto {α : Type} {read : Json → Option α}
    {generous : Value → Option α} {a default : α} {old : Option Value} {name : String}
    (hplain : IsPlain fields) (hname : name ∈ Config.sections)
    (hts : Value.ofFields? fields = some ts) (honce : (fields.map Prod.fst).count name ≤ 1)
    (hmerged : ∀ inner us, (∀ g ∈ inner, lowerKey g.1 = g.1) → Value.ofFields? inner = some us →
      read (.obj inner) = some a →
        generous (mergeInto (old.bind fun t ↦ t.get? name) (table us)) = some a)
    (hold : orDefault default generous (old.bind fun t ↦ t.get? name) = some default)
    (h : Slot.defaulted default read ((fields.lookup name).elim .absent .given) = some a) :
    orDefault default generous ((mergeInto old (table ts)).get? name) = some a := by
  rw [get?_mergeInto_table (fun f hf ↦ (hplain.keys f hf).2) hts]
  refine orDefault_layered hts honce (fun j t hj ht h ↦ ?_) hold h
  obtain ⟨inner, rfl, hlower⟩ := hplain.sections _ hj hname
  obtain ⟨us, hus, rfl⟩ := Option.map_eq_some_iff.1 ht
  exact hmerged inner us hlower hus h

/-- **Layers and decoding agree on every plain document** that can be decoded: the defaults that the
layers put below it are those that decoding fills in. -/
theorem ofValue?_merge (hplain : IsPlain fields) (hfits : c.hold.Fits)
    (hts : Value.ofFields? fields = some ts) (hc : ofJson? (.obj fields) = some c) :
    ofValue? (merge [defaultLayer, ts, []]) = some c := by
  obtain ⟨hj, hc⟩ := readStruct_eq_some_iff.1 hc
  simp only [Option.bind_eq_bind, Option.bind_eq_some_iff] at hc
  obtain ⟨name, hname, hold, hhold, related, hrelated, sync, hsync, logging, hlogging, hc⟩ := hc
  obtain rfl := Option.some.inj hc
  have honce := Json.isStruct_obj_iff.1 hj
  have hlower (f : String × Json) (hf : f ∈ fields) : lowerKey f.1 = f.1 := (hplain.keys f hf).2
  have hmerge : merge [defaultLayer, ts, []] =
      mergeInto (some (table defaultLayer)) (table ts) := by
    have hpath (f : String × Value) (hf : f ∈ ts) : path f.1 = [.key f.1] := by
      obtain ⟨j, hj, -⟩ := (mem_ofFields? hts).2 f hf
      exact (hplain.keys (f.1, j) hj).1
    exact setAll_eq_mergeFields hpath (table defaultLayer)
  have htable : (mergeInto (some (table defaultLayer)) (table ts)).isTable = true :=
    isTable_mergeFields rfl
  rw [hmerge]
  refine (ofValue?_eq_some_iff htable).2 ⟨?_, ?_, ?_, ?_, ?_⟩
  · exact orDefault_get?_mergeInto hlower hts (honce _ (by decide)) (refines_readStr name)
      (fun _ ↦ rfl) rfl hname
  · exact hplain.orDefault_get?_mergeInto (by decide) hts (honce _ (by decide))
      (fun _ _ ↦ HoldConfig.ofValue?_mergeInto hfits) rfl hhold
  · exact orDefault_get?_mergeInto hlower hts (honce _ (by decide))
      (refines_readList fun r _ ↦ r.refines) (fun _ ↦ rfl) rfl hrelated
  · exact hplain.orDefault_get?_mergeInto (by decide) hts (honce _ (by decide))
      (fun _ _ ↦ SyncConfig.ofValue?_mergeInto) rfl hsync
  · exact hplain.orDefault_get?_mergeInto (by decide) hts (honce _ (by decide))
      (fun _ _ ↦ LogConfig.ofValue?_mergeInto) rfl hlogging

/-- The text of a file with a byte order mark is no value as long as the mark stands. -/
theorem read?_of_mark {text : String} {rest : List Char} (h : text.toList = '\ufeff' :: rest) :
    Json.read? text = none := by
  have hvalue (fuel : Nat) : Json.readValue? (fuel + 1) ('\ufeff' :: rest) = none := rfl
  rw [Json.read?, h, Json.skipSpace_cons rfl, hvalue]

/-- The layer of a text that holds an object: the values of its fields. -/
theorem fileLayer?_eq {text : String} (hread : Json.read? text = some (.obj fields)) :
    fileLayer? text =
      if maxDepth < (Json.obj fields).depth then none else Value.ofFields? fields := by
  rw [fileLayer?]
  split
  · next h => exact absurd (hread.symm.trans (read?_of_mark h)) (Option.some_ne_none _)
  · simp only [hread, Option.bind_eq_bind, Option.bind_some, Value.ofJson?]
    split
    · rfl
    · cases Value.ofFields? fields <;> rfl

/-- Without a variable that belongs to it the layer of the environment is empty. -/
theorem envLayer_eq_nil {env : List (String × String)} (h : ∀ a ∈ env, envPath? a.1 = none) :
    envLayer env = [] := by
  refine List.filterMap_eq_nil_iff.2 fun a ha ↦ ?_
  show (envPath? a.1).map _ = none
  rw [h a ha, Option.map_none]

/-- A file that is found and holds a JSON object is a layer of the object's values. -/
theorem optionalFileLayer_eq {requested : String} {source : FileSource}
    (hfound : isFound requested source = true)
    (hread : Json.read? source.content = some (.obj fields))
    (hdepth : (Json.obj fields).depth ≤ maxDepth) (hts : Value.ofFields? fields = some ts) :
    optionalFileLayer (some (requested, source)) = .ok ts := by
  rw [optionalFileLayer, if_pos hfound, fileLayer?_eq hread, if_neg (Nat.not_lt.2 hdepth), hts]

/-- **A plain document is loaded as it is decoded.** -/
theorem load_eq_decode {requested : String} {source : FileSource} {env : List (String × String)}
    (hfound : isFound requested source = true)
    (hread : Json.read? source.content = some (.obj fields)) (hplain : IsPlain fields)
    (hdepth : (Json.obj fields).depth ≤ maxDepth) (hts : Value.ofFields? fields = some ts)
    (henv : ∀ a ∈ env, envPath? a.1 = none) (hfits : c.hold.Fits)
    (hc : ofJson? (.obj fields) = some c) : load (some (requested, source)) env = .ok c := by
  rw [load, optionalFileLayer_eq hfound hread hdepth hts, envLayer_eq_nil henv]
  simp only [ofValue?_merge hplain hfits hts hc]

end Config

/-! ### What is written of a configuration -/

namespace Value

theorem isSome_ofItems?_iff {items : List Json} :
    (ofItems? items).isSome = true ↔ ∀ j ∈ items, (ofJson? j).isSome = true := by
  induction items with
  | nil => simp [ofItems?]
  | cons j js ih =>
    rw [List.forall_mem_cons, ← ih, ofItems?]
    cases ofJson? j <;> cases ofItems? js <;> simp

theorem isSome_ofFields?_iff {fields : List (String × Json)} :
    (ofFields? fields).isSome = true ↔ ∀ f ∈ fields, (ofJson? f.2).isSome = true := by
  induction fields with
  | nil => simp [ofFields?]
  | cons f fields ih =>
    rw [List.forall_mem_cons, ← ih, ofFields?]
    cases ofJson? f.2 <;> cases ofFields? fields <;> simp

theorem isSome_ofJson?_arr {items : List Json} :
    (ofJson? (.arr items)).isSome = true ↔ ∀ j ∈ items, (ofJson? j).isSome = true := by
  rw [ofJson?, Option.isSome_map, isSome_ofItems?_iff]

theorem isSome_ofJson?_obj {fields : List (String × Json)} :
    (ofJson? (.obj fields)).isSome = true ↔ ∀ f ∈ fields, (ofJson? f.2).isSome = true := by
  rw [ofJson?, Option.isSome_map, isSome_ofFields?_iff]

theorem isSome_ofJson?_ofList {as : List α} {write : α → Json}
    (h : ∀ a ∈ as, (ofJson? (write a)).isSome = true) :
    (ofJson? (Json.ofList write as)).isSome = true := by
  rw [Json.ofList, isSome_ofJson?_arr]
  exact List.forall_mem_map.2 h

end Value

namespace HoldConfig

variable {drop : List PathStep → Bool} {c : HoldConfig}

theorem fits_default : HoldConfig.default.Fits := ⟨by decide, List.forall_mem_nil _⟩

theorem Fits.reset (h : c.Fits) : (c.reset drop).Fits := by
  refine ⟨?_, fun rule hrule ↦ ?_⟩
  · rw [HoldConfig.reset]
    split
    · exact fits_default.1
    · exact h.1
  · simp only [HoldConfig.reset, resetItems] at hrule
    split at hrule
    · exact absurd hrule List.not_mem_nil
    · obtain ⟨i, hi, rfl⟩ := List.mem_mapIdx.1 hrule
      exact h.2 c.rules[i] (List.getElem_mem hi)

theorem isSome_ofJson?_toJson (h : c.Fits) : (Value.ofJson? c.toJson).isSome = true := by
  have hrule (rule : RuleConfig) (hrule : rule ∈ c.rules) :
      (Value.ofJson? rule.toJson).isSome = true := by
    rw [RuleConfig.toJson, isSome_ofJson?_obj]
    simp [ofJson?_ofNat (h.2 rule hrule), Value.ofJson?, PatternKind.toJson]
  have hrules := isSome_ofJson?_ofList hrule
  rw [toJson, isSome_ofJson?_obj]
  simp [ofJson?_ofNat h.1, hrules]

end HoldConfig

namespace Config

variable {drop : List PathStep → Bool} {c : Config}

theorem fits_reset (h : c.hold.Fits) : (c.reset drop).hold.Fits := by
  simp only [reset]
  split
  · exact HoldConfig.fits_default
  · exact h.reset

/-- A written configuration has a value in a layer. -/
theorem isSome_ofJson?_toJson (h : c.hold.Fits) : (Value.ofJson? c.toJson).isSome = true := by
  have hrelated (r : ObjectRef) : (Value.ofJson? r.toJson).isSome = true := by
    rw [ObjectRef.toJson, isSome_ofJson?_obj]
    simp [Value.ofJson?]
  have hsync : (Value.ofJson? c.sync.toJson).isSome = true := by
    rw [SyncConfig.toJson, isSome_ofJson?_obj]
    simp [ofJson?_ofNat (toNat_le_maxValue c.sync.maxRetries), Value.ofJson?]
  have hlogging : (Value.ofJson? c.logging.toJson).isSome = true := rfl
  have hrelatedList := isSome_ofJson?_ofList fun r (_ : r ∈ c.related) ↦ hrelated r
  have hname : (Value.ofJson? (.str c.recordName)).isSome = true := rfl
  rw [toJson, isSome_ofJson?_obj]
  simp [HoldConfig.isSome_ofJson?_toJson h, hrelatedList, hsync, hlogging, hname]

theorem depth_toJson_le (c : Config) : c.toJson.depth ≤ 4 := by
  have hrules : (Json.ofList RuleConfig.toJson c.hold.rules).depth ≤ 2 :=
    Json.depth_ofList_le fun _ _ ↦ Nat.le_refl 1
  have hrelated : (Json.ofList ObjectRef.toJson c.related).depth ≤ 2 :=
    Json.depth_ofList_le fun _ _ ↦ Nat.le_refl 1
  have hhold : c.hold.toJson.depth ≤ 3 := by
    show max 0 (max (Json.ofList RuleConfig.toJson c.hold.rules).depth 0) + 1 ≤ 3
    omega
  show max 0 (max c.hold.toJson.depth
    (max (Json.ofList ObjectRef.toJson c.related).depth (max 1 (max 1 0)))) + 1 ≤ 4
  omega

/-- What is left of a plain section is a plain section. -/
theorem lower_prune {inner : List (String × Json)}
    (h : ∀ key ∈ inner.map Prod.fst, lowerKey key = key) :
    ∃ left, (Json.obj inner).prune drop = .obj left ∧ ∀ g ∈ left, lowerKey g.1 = g.1 := by
  refine ⟨_, rfl, fun g hg ↦ ?_⟩
  obtain ⟨g', hg', rfl⟩ := Json.mem_pruneFields hg
  exact h g'.1 (List.mem_map_of_mem hg')

/-- What is left of a written configuration is plain. -/
theorem isPlain_prune (drop : List PathStep → Bool) (c : Config) :
    ∃ left, c.toJson.prune drop = .obj left ∧ IsPlain left := by
  have hplain : ∀ key ∈ fields, path key = [.key key] ∧ lowerKey key = key := by decide
  have hhold : ∀ key ∈ HoldConfig.fields, lowerKey key = key := by decide
  have hsync : ∀ key ∈ SyncConfig.fields, lowerKey key = key := by decide
  have hlogging : ∀ key ∈ LogConfig.fields, lowerKey key = key := by decide
  refine ⟨_, rfl, fun f hf ↦ ?_, fun f hf hsection ↦ ?_⟩
  · obtain ⟨f', hf', rfl⟩ := Json.mem_pruneFields hf
    exact hplain f'.1 (List.mem_map_of_mem hf')
  · obtain ⟨f', hf', rfl⟩ := Json.mem_pruneFields hf
    simp only [List.mem_cons, List.not_mem_nil, or_false] at hf'
    rcases hf' with rfl | rfl | rfl | rfl | rfl
    · exact absurd hsection (show "record_name" ∉ sections by decide)
    · exact lower_prune hhold
    · exact absurd hsection (show "related_objects" ∉ sections by decide)
    · exact lower_prune hsync
    · exact lower_prune hlogging

/-- **A file that holds what is left of a written configuration is loaded as it is decoded**: both
give the configuration with every deleted key back at its default. This is so for the compact text,
and for every other text of the same document. -/
theorem load_prune (hfits : c.hold.Fits)
    (hdrop : ∀ path, drop path = true → isDefaulted path = true) :
    Json.read? (c.toJson.prune drop).write = some (c.toJson.prune drop) ∧
      ∀ source : FileSource, Json.read? source.content = some (c.toJson.prune drop) →
        (Json.read? source.content).bind ofJson? = some (c.reset drop) ∧
        ∀ requested env, isFound requested source = true → (∀ a ∈ env, envPath? a.1 = none) →
          load (some (requested, source)) env = .ok (c.reset drop) := by
  have hdecode := ofJson?_prune hdrop c
  refine ⟨Json.read?_write (Json.integral_prune c.integral_toJson), fun source hread ↦ ⟨?_, ?_⟩⟩
  · rw [hread, Option.bind_some, hdecode]
  · intro requested env hfound henv
    obtain ⟨fields, hfields, hplain⟩ := isPlain_prune drop c
    have hdepth : (Json.obj fields).depth ≤ maxDepth := by
      rw [← hfields]
      exact Nat.le_trans (Json.depth_prune_le drop _) (Nat.le_trans c.depth_toJson_le (by decide))
    -- numbers that fit a layer are all that is needed for a value, and pruning brings in no others
    have hvalue : (Value.ofFields? fields).isSome = true := by
      have hpruned : (Value.ofJson? (c.toJson.prune drop)).isSome = true :=
        Json.of_prune (P := fun j ↦ (Value.ofJson? j).isSome = true)
          (fun _ ↦ Value.isSome_ofJson?_arr) (fun _ ↦ Value.isSome_ofJson?_obj)
          (isSome_ofJson?_toJson hfits)
      rwa [hfields, Value.ofJson?, Option.isSome_map] at hpruned
    obtain ⟨ts, hts⟩ := Option.isSome_iff_exists.1 hvalue
    rw [hfields] at hread hdecode
    exact load_eq_decode hfound hread hplain hdepth hts henv (fits_reset hfits) hdecode

/-- A file without a switch, a whole section and the kind of a rule, asked for without its ending.
-/
theorem load_prune_partly :
    let c : Config := ⟨"op", ⟨7, [⟨"^Db", 3, .exact⟩]⟩, [], ⟨2, false⟩, ⟨"debug"⟩⟩
    let dropped : List (List PathStep) :=
      [[.key "sync", .key "emit_events"], [.key "logging"],
        [.key "inertia", .key "rules", .item 0, .key "kind"]]
    let drop : List PathStep → Bool := fun path ↦ dropped.contains path
    c.hold.Fits ∧ (∀ path, drop path = true → isDefaulted path = true) ∧
      load (some ("status", ⟨"status.json", (c.toJson.prune drop).write⟩)) [] =
        .ok ⟨"op", ⟨7, [⟨"^Db", 3, .regex⟩]⟩, [], ⟨2, true⟩, ⟨"info"⟩⟩ := by
  intro c dropped drop
  have hfits : c.hold.Fits := by
    refine ⟨by decide, fun rule hrule ↦ ?_⟩
    rw [List.mem_singleton.1 hrule]
    decide
  have hdrop (path : List PathStep) (h : drop path = true) : isDefaulted path = true := by
    have hall : ∀ path ∈ dropped, isDefaulted path = true := by decide
    exact hall path (List.contains_iff_mem.1 h)
  obtain ⟨htext, hload⟩ := load_prune hfits hdrop
  refine ⟨hfits, hdrop, ?_⟩
  exact (hload ⟨"status.json", _⟩ htext).2 "status" [] (by decide) (List.forall_mem_nil _)

end Config

end StatusRollup
