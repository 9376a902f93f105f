import StatusRollup.Proofs.Loading

/-!
# The environment overrides single settings

Five settings have a variable of their own (`Setting.envName`). A variable sets the setting that it
names and nothing else, and it wins over the file (`Config.load_overrides`): what is loaded has for
each assigned setting the value that this variable alone gives, and for everything else what the
file alone gives. Loading fails only if one of the variables fails alone.

* `Setting.exists_envPath?` — the name of a variable, in lower case, without the prefix and with
  points for double underscores, is the path of the setting.
* `at?_setAll_envLayer`, `at?_setAll_envLayer_of_not_prefix` — so the layer of the environment
  changes the places of the assigned settings, and no other place that is not above or below one of
  them.
* `Config.ofValue?_eq_some_iff_settings` — and a configuration is read from the places of the
  settings and of the two lists, each on its own, if the sections are tables.

The last condition is why the file has to give its sections as tables (`Config.GivesTables`): an
array or a scalar in the place of a section would be replaced as a whole by the first variable that
belongs to it. The defaults are tables, and no variable makes them anything else.
-/

namespace StatusRollup

open Value (PathStep path lowerKey table isTable setPath setAll mergeInto orDefault readList?)
open Config (load envPath? envValue envLayer sections optionalFileLayer defaultLayer)

/-- A setting that a variable of its own overrides. -/
inductive Setting where
  /-- The name of the record. -/
  | recordName
  /-- The hold without a rule. -/
  | defaultSecs
  /-- How many times an overtaken write is tried again. -/
  | maxRetries
  /-- Events are published. -/
  | emits
  /-- What is logged. -/
  | level
  deriving DecidableEq

namespace Setting

/-- The values of a setting. -/
def Val : Setting → Type
  | recordName => String
  | defaultSecs => UInt64
  | maxRetries => UInt32
  | emits => Bool
  | level => String

/-- The value in a configuration. -/
def get (c : Config) : (s : Setting) → s.Val
  | recordName => c.recordName
  | defaultSecs => c.hold.defaultSecs
  | maxRetries => c.sync.maxRetries
  | emits => c.sync.emits
  | level => c.logging.level

/-- The variable that overrides the setting. -/
def envName : Setting → String
  | recordName => "OPSTATUS_RECORD_NAME"
  | defaultSecs => "OPSTATUS_INERTIA__DEFAULT_HOLD_SECS"
  | maxRetries => "OPSTATUS_SYNC__MAX_CONFLICT_RETRIES"
  | emits => "OPSTATUS_SYNC__EMIT_EVENTS"
  | level => "OPSTATUS_LOGGING__LEVEL"

/-- The keys that lead to the setting in merged layers. -/
def keys : Setting → List String
  | recordName => ["record_name"]
  | defaultSecs => ["inertia", "default_hold_secs"]
  | maxRetries => ["sync", "max_conflict_retries"]
  | emits => ["sync", "emit_events"]
  | level => ["logging", "level"]

/-- How the setting is read from a layer. -/
def read : (s : Setting) → Value → Option s.Val
  | recordName => Value.readStr?
  | defaultSecs => Value.readUInt64?
  | maxRetries => Value.readUInt32?
  | emits => Value.readBool?
  | level => Value.readStr?

theorem keys_lower (s : Setting) : ∀ k ∈ s.keys, lowerKey k = k := by
  cases s <;> decide

/-- No setting lies above another one. -/
theorem not_prefix {s s' : Setting} (h : s ≠ s') : ¬s.keys <+: s'.keys := by
  revert h
  cases s <;> cases s' <;> decide

/-- The variable of a setting names the setting's place. -/
theorem exists_envPath? (s : Setting) :
    ∃ text, envPath? s.envName = some text ∧ path text = s.keys.map .key := by
  cases s
  · exact ⟨"record_name", by decide, by decide⟩
  · exact ⟨"inertia.default_hold_secs", by decide, by decide⟩
  · exact ⟨"sync.max_conflict_retries", by decide, by decide⟩
  · exact ⟨"sync.emit_events", by decide, by decide⟩
  · exact ⟨"logging.level", by decide, by decide⟩

theorem envName_injective {s s' : Setting} (h : s.envName = s'.envName) : s = s' := by
  revert h
  cases s <;> cases s' <;> decide

end Setting

/-! ### Configurations, setting by setting -/

namespace Value

/-- The sections are tables. -/
structure Sectioned (t : Value) : Prop where
  /-- So is the whole. -/
  isTable : t.isTable = true
  /-- Each section is there. -/
  sections : ∀ name ∈ sections, ∃ fs, t.get? name = some (table fs)

end Value

open Value

namespace Config

/-- **A configuration is read from its settings and its two lists**, each from its own place. -/
theorem ofValue?_eq_some_iff_settings {t : Value} (h : t.Sectioned) {c : Config} :
    ofValue? t = some c ↔
      (∀ s : Setting, orDefault (s.get .default) s.read (t.at? s.keys) = some (s.get c)) ∧
      orDefault [] (readList? RuleConfig.ofValue?) (t.at? ["inertia", "rules"]) =
        some c.hold.rules ∧
      orDefault [] (readList? ObjectRef.ofValue?) (t.at? ["related_objects"]) = some c.related := by
  obtain ⟨inertia, hinertia⟩ := h.sections "inertia" (by decide)
  obtain ⟨sync, hsync⟩ := h.sections "sync" (by decide)
  obtain ⟨logging, hlogging⟩ := h.sections "logging" (by decide)
  rw [ofValue?_eq_some_iff h.isTable, hinertia, hsync, hlogging, orDefault_some, orDefault_some,
    orDefault_some, HoldConfig.ofValue?_eq_some_iff (t := table inertia) rfl,
    SyncConfig.ofValue?_eq_some_iff (t := table sync) rfl,
    LogConfig.ofValue?_eq_some_iff (t := table logging) rfl]
  -- a place in a section is one of the whole
  rw [← at?_of_get? hinertia, ← at?_of_get? hinertia, ← at?_of_get? hsync, ← at?_of_get? hsync,
    ← at?_of_get? hlogging, ← at?_singleton, ← at?_singleton]
  constructor
  · rintro ⟨hname, ⟨hsecs, hrules⟩, hrelated, ⟨hretries, hemits⟩, hlevel⟩
    refine ⟨fun s ↦ ?_, hrules, hrelated⟩
    cases s with
    | recordName => exact hname
    | defaultSecs => exact hsecs
    | maxRetries => exact hretries
    | emits => exact hemits
    | level => exact hlevel
  · rintro ⟨hsettings, hrules, hrelated⟩
    exact ⟨hsettings .recordName, ⟨hsettings .defaultSecs, hrules⟩, hrelated,
      ⟨hsettings .maxRetries, hsettings .emits⟩, hsettings .level⟩

end Config

/-! ### Sections stay tables -/

namespace Value

variable {t value : Value}

/-- A value that is set under this path leaves a section a table: it is one itself, where the path
names a section, and the path goes on with a key, where it goes on below one. -/
def KeepsSections (value : Value) : List PathStep → Prop
  | [.key name] => lowerKey name ∈ sections → value.isTable = true
  | .key name :: .item _ :: _ => lowerKey name ∉ sections
  | _ => True

theorem Sectioned.setPath {name : String} {rest : List PathStep} (ht : t.Sectioned)
    (h : KeepsSections value (.key name :: rest)) :
    (setPath value (.key name :: rest) (some t)).Sectioned := by
  refine ⟨rfl, fun section' hsection ↦ ?_⟩
  obtain ⟨fs, hfs⟩ := ht.sections section' hsection
  rw [get?_setPath_key, hfs]
  split
  · next hname =>
    subst hname
    cases rest with
    | nil =>
      -- the section is set as a whole, to a table
      obtain ⟨vs, rfl⟩ := exists_eq_table (h hsection)
      exact (exists_eq_table (isTable_mergeFields rfl)).imp fun _ ↦ congrArg some
    | cons step rest =>
      cases step with
      | key => exact ⟨_, rfl⟩
      | item => exact absurd hsection h
  · exact ⟨fs, rfl⟩

/-- Every written path begins with a key. -/
theorem exists_path_eq (text : String) : ∃ name rest, path text = .key name :: rest := by
  rw [path, readPath?]
  cases readName? text.toList with
  | none => exact ⟨text, [], rfl⟩
  | some found =>
    cases hsteps : readSteps? found.2.length found.2 with
    | none => exact ⟨text, [], by simp [hsteps]⟩
    | some steps => exact ⟨found.1, steps, by simp [hsteps]⟩

theorem isTable_setAll {entries : List (String × Value)} (ht : t.isTable = true) :
    (setAll t entries).isTable = true := by
  induction entries generalizing t with
  | nil => exact ht
  | cons e entries ih =>
    obtain ⟨name, rest, hpath⟩ := exists_path_eq e.1
    refine ih ?_
    show (Value.setPath e.2 (path e.1) (some t)).isTable = true
    rw [hpath]
    rfl

theorem Sectioned.setAll {entries : List (String × Value)} (ht : t.Sectioned)
    (h : ∀ e ∈ entries, KeepsSections e.2 (path e.1)) : (setAll t entries).Sectioned := by
  induction entries generalizing t with
  | nil => exact ht
  | cons e entries ih =>
    obtain ⟨he, h⟩ := List.forall_mem_cons.1 h
    obtain ⟨name, rest, hpath⟩ := exists_path_eq e.1
    rw [hpath] at he
    refine ih ?_ h
    show (Value.setPath e.2 (path e.1) (some t)).Sectioned
    rw [hpath]
    exact ht.setPath he

end Value

/-! ### One variable after the other -/

section Environment

variable {t : Value} {env : List (String × String)} {a : String × String} {s : Setting}

/-- No variable belongs to the environment's layer but those of the settings, and none is
repeated. -/
structure OnlySettings (env : List (String × String)) : Prop where
  /-- Each name occurs once. -/
  nodup : (env.map Prod.fst).Nodup
  /-- Which names there are. -/
  names : ∀ a ∈ env, envPath? a.1 ≠ none → ∃ s : Setting, a.1 = s.envName

theorem OnlySettings.tail (h : OnlySettings (a :: env)) : OnlySettings env :=
  ⟨(List.nodup_cons.1 h.nodup).2, fun b hb ↦ h.names b (List.mem_cons_of_mem a hb)⟩

/-- What belongs to the layer is of a setting, by its name and by its path. -/
theorem OnlySettings.exists_setting {text : String} (h : OnlySettings env) (ha : a ∈ env)
    (htext : envPath? a.1 = some text) :
    ∃ s : Setting, a.1 = s.envName ∧ path text = s.keys.map .key := by
  obtain ⟨s, hs⟩ := h.names a ha (by rw [htext]; exact Option.some_ne_none text)
  obtain ⟨text', htext', hkeys⟩ := s.exists_envPath?
  rw [← hs] at htext'
  obtain rfl := Option.some.inj (htext.symm.trans htext')
  exact ⟨s, hs, hkeys⟩

/-- **The value of a variable** is a truth value, an integer, a number or the text itself. -/
theorem envValue_cases (v : String) :
    (∃ b, envValue v = .bool b ∧ Value.lower v = if b then "true" else "false") ∨
      (∃ n, envValue v = .int n ∧ Config.readInt? v = some n) ∨
      (∃ x, envValue v = .float x ∧ Binary64.read? v = some x) ∨
      envValue v = .str v := by
  rw [envValue]
  split
  · next h => exact .inl ⟨true, rfl, h⟩
  · next h => exact .inl ⟨false, rfl, h⟩
  · cases Config.readInt? v with
    | some n => exact .inr (.inl ⟨n, rfl, rfl⟩)
    | none =>
      cases Binary64.read? v with
      | some x => exact .inr (.inr (.inl ⟨x, rfl, rfl⟩))
      | none => exact .inr (.inr (.inr rfl))

/-- A variable's value is no table. -/
theorem isTable_envValue (v : String) : (envValue v).isTable = false := by
  rcases envValue_cases v with ⟨b, h, -⟩ | ⟨n, h, -⟩ | ⟨x, h, -⟩ | h <;> rw [h] <;> rfl

theorem envLayer_cons (a : String × String) (env : List (String × String)) :
    envLayer (a :: env) =
      ((envPath? a.1).map fun path ↦ (path, envValue a.2)).toList ++ envLayer env := by
  simp only [envLayer, List.filterMap_cons]
  cases envPath? a.1 <;> rfl

/-- What a first variable does: it sets the value of its setting, or does not belong to the layer.
-/
theorem setAll_envLayer_cons (h : OnlySettings (a :: env)) (t : Value) :
    (∃ s : Setting, a.1 = s.envName ∧ setAll t (envLayer (a :: env)) =
      setAll (setPath (envValue a.2) (s.keys.map .key) (some t)) (envLayer env)) ∨
    (∀ s : Setting, a.1 ≠ s.envName) ∧
      setAll t (envLayer (a :: env)) = setAll t (envLayer env) := by
  obtain ⟨name, v⟩ := a
  cases hpath : envPath? name with
  | none =>
    refine .inr ⟨fun s hs ↦ ?_, ?_⟩
    · obtain ⟨text, htext, -⟩ := s.exists_envPath?
      rw [← hs] at htext
      exact absurd (htext.symm.trans hpath) (Option.some_ne_none text)
    · rw [envLayer_cons, hpath]
      rfl
  | some text =>
    obtain ⟨s, hs, hkeys⟩ := h.exists_setting List.mem_cons_self hpath
    refine .inl ⟨s, hs, ?_⟩
    rw [envLayer_cons, hpath, ← hkeys]
    rfl

/-- **A setting has the value of its variable**, or is as before where there is none. -/
theorem at?_setAll_envLayer (h : OnlySettings env) (s : Setting) (t : Value) :
    (setAll t (envLayer env)).at? s.keys =
      ((env.lookup s.envName).map envValue).or (t.at? s.keys) := by
  induction env generalizing t with
  | nil => rfl
  | cons a env ih =>
    obtain ⟨name, v⟩ := a
    obtain ⟨hnew, -⟩ := List.nodup_cons.1 h.nodup
    rw [lookup_cons_eq]
    rcases setAll_envLayer_cons h t with ⟨s', hname, hset⟩ | ⟨hname, hset⟩
    · replace hname : name = s'.envName := hname
      rw [hset, ih h.tail]
      by_cases hs : s = s'
      · subst hs
        -- the variable does not come again, so what it sets stays
        rw [if_pos hname.symm, ← hname, lookup_eq_none_of_not_mem hnew]
        exact (at?_setPath s.keys_lower).trans
          (congrArg some (mergeInto_of_not_table (isTable_envValue v)))
      · have hne : s.envName ≠ name := fun hn ↦ hs (Setting.envName_injective (hn.trans hname))
        rw [if_neg hne, at?_setPath_of_not_prefix s'.keys_lower (Setting.not_prefix hs)
          (Setting.not_prefix (Ne.symm hs))]
        rfl
    · rw [hset, ih h.tail, if_neg (Ne.symm (hname s))]

/-- **What no setting lies above or below is as before.** -/
theorem at?_setAll_envLayer_of_not_prefix (h : OnlySettings env) {keys : List String}
    (hkeys : ∀ s : Setting, ¬keys <+: s.keys ∧ ¬s.keys <+: keys) (t : Value) :
    (setAll t (envLayer env)).at? keys = t.at? keys := by
  induction env generalizing t with
  | nil => rfl
  | cons a env ih =>
    rcases setAll_envLayer_cons h t with ⟨s, -, hset⟩ | ⟨-, hset⟩
    · rw [hset, ih h.tail, at?_setPath_of_not_prefix s.keys_lower (hkeys s).1 (hkeys s).2]
      rfl
    · rw [hset, ih h.tail]

/-- Sections stay tables, whatever the variables say. -/
theorem sectioned_setAll_envLayer (h : OnlySettings env) (ht : t.Sectioned) :
    (setAll t (envLayer env)).Sectioned := by
  refine ht.setAll fun e he ↦ ?_
  obtain ⟨⟨name, v⟩, ha, he⟩ := List.mem_filterMap.1 he
  obtain ⟨text, htext, rfl⟩ := Option.map_eq_some_iff.1 he
  obtain ⟨s, -, hkeys⟩ := h.exists_setting ha htext
  rw [hkeys]
  cases s with
  | recordName => exact fun hsection ↦ absurd hsection (by decide)
  | _ => trivial

end Environment

/-! ### Loading under overrides -/

namespace Config

variable {file : Option (String × FileSource)} {layer : List (String × Value)}
  {env : List (String × String)} {c : Config}

/-- The defaults are sectioned, and so is what a file makes of them that keeps sections. -/
theorem sectioned_merge (h : ∀ e ∈ layer, KeepsSections e.2 (path e.1)) :
    (merge [defaultLayer, layer]).Sectioned := by
  have hdefaults : (table defaultLayer).Sectioned := by
    refine ⟨rfl, fun name hname ↦ ?_⟩
    simp only [sections, List.mem_cons, List.not_mem_nil, or_false] at hname
    rcases hname with rfl | rfl | rfl <;> exact ⟨_, rfl⟩
  exact hdefaults.setAll h

/-- The environment is set over what the file makes of the defaults. -/
theorem load_eq_ok_iff_ofValue? (hlayer : optionalFileLayer file = .ok layer) :
    load file env = .ok c ↔
      ofValue? (setAll (merge [defaultLayer, layer]) (envLayer env)) = some c := by
  have hmerge : merge [defaultLayer, layer, envLayer env] =
      setAll (merge [defaultLayer, layer]) (envLayer env) := rfl
  rw [load, hlayer, ← hmerge]
  dsimp only
  cases ofValue? (merge [defaultLayer, layer, envLayer env]) <;> simp

/-- **What is loaded, setting by setting.** A setting with a variable is read from it, every other
one from the file over the defaults, and so are the two lists. -/
theorem load_eq_ok_iff (hlayer : optionalFileLayer file = .ok layer)
    (hsections : ∀ e ∈ layer, KeepsSections e.2 (path e.1)) (henv : OnlySettings env) :
    load file env = .ok c ↔
      (∀ s : Setting, orDefault (s.get .default) s.read
        (((env.lookup s.envName).map envValue).or ((merge [defaultLayer, layer]).at? s.keys)) =
          some (s.get c)) ∧
      orDefault [] (readList? RuleConfig.ofValue?)
        ((merge [defaultLayer, layer]).at? ["inertia", "rules"]) = some c.hold.rules ∧
      orDefault [] (readList? ObjectRef.ofValue?)
        ((merge [defaultLayer, layer]).at? ["related_objects"]) = some c.related := by
  have hrules : ∀ s : Setting, ¬["inertia", "rules"] <+: s.keys ∧
      ¬s.keys <+: ["inertia", "rules"] := by
    intro s
    cases s <;> decide
  have hrelated : ∀ s : Setting, ¬["related_objects"] <+: s.keys ∧
      ¬s.keys <+: ["related_objects"] := by
    intro s
    cases s <;> decide
  have hsectioned := sectioned_setAll_envLayer henv (sectioned_merge hsections)
  rw [load_eq_ok_iff_ofValue? hlayer, ofValue?_eq_some_iff_settings hsectioned,
    at?_setAll_envLayer_of_not_prefix henv hrules, at?_setAll_envLayer_of_not_prefix henv hrelated]
  simp only [at?_setAll_envLayer henv]

theorem load_none_nil : load none [] = .ok default := rfl

/-- The file, if there is one, gives its sections as tables, whatever else it gives. -/
def GivesTables (file : Option (String × FileSource)) : Prop :=
  ∀ layer, optionalFileLayer file = .ok layer → ∀ e ∈ layer, KeepsSections e.2 (path e.1)

/-- A file that holds a plain document gives its sections as tables. -/
theorem givesTables_of_isPlain {requested : String} {source : FileSource}
    {fields : List (String × Json)} (hread : Json.read? source.content = some (.obj fields))
    (hplain : IsPlain fields) : GivesTables (some (requested, source)) := by
  intro layer hlayer e he
  have hts : Value.ofFields? fields = some layer := by
    rw [optionalFileLayer, fileLayer?_eq hread] at hlayer
    split at hlayer
    · split at hlayer
      · next hlayer' =>
        cases hlayer
        split at hlayer'
        · exact absurd hlayer'.symm (Option.some_ne_none layer)
        · exact hlayer'
      · cases hlayer
    · cases hlayer
      exact absurd he List.not_mem_nil
  obtain ⟨j, hj, hvalue⟩ := (mem_ofFields? hts).2 e he
  obtain ⟨hpath, hlower⟩ := hplain.keys (e.1, j) hj
  rw [hpath]
  intro hsection
  rw [hlower] at hsection
  obtain ⟨inner, rfl, -⟩ := hplain.sections (e.1, j) hj hsection
  obtain ⟨us, -, hus⟩ := Option.map_eq_some_iff.1 hvalue
  rw [← hus]
  rfl

/-- **Overrides and nothing else.** What is loaded under overrides differs from what is loaded
without them in the settings that have a variable, and there it says what the variable says. -/
theorem load_eq_ok_iff_of_load (hfile : load file [] = .ok c) (hsections : GivesTables file)
    (henv : OnlySettings env) {c' : Config} :
    load file env = .ok c' ↔
      (∀ (s : Setting) v, env.lookup s.envName = some v → s.read (envValue v) = some (s.get c')) ∧
      (∀ s : Setting, env.lookup s.envName = none → s.get c' = s.get c) ∧
      c'.hold.rules = c.hold.rules ∧ c'.related = c.related := by
  cases hlayer : optionalFileLayer file with
  | error e =>
    rw [load, hlayer] at hfile
    cases hfile
  | ok layer =>
    have hnone : OnlySettings [] := ⟨List.nodup_nil, List.forall_mem_nil _⟩
    obtain ⟨hsettings, hrules, hrelated⟩ :=
      (load_eq_ok_iff hlayer (hsections layer hlayer) hnone).1 hfile
    rw [load_eq_ok_iff hlayer (hsections layer hlayer) henv, hrules, hrelated, Option.some.injEq,
      Option.some.injEq, eq_comm (a := c.hold.rules), eq_comm (a := c.related),
      ← and_assoc (b := ∀ s : Setting, _)]
    refine and_congr ⟨fun h ↦ ⟨fun s v hv ↦ ?_, fun s hv ↦ ?_⟩, fun h s ↦ ?_⟩ Iff.rfl
    · have hs := h s
      rwa [hv] at hs
    · have hs := h s
      rw [hv] at hs
      exact Option.some.inj (hs.symm.trans (hsettings s))
    · cases hv : env.lookup s.envName with
      | some v => exact h.1 s v hv
      | none =>
        rw [h.2 s hv]
        exact hsettings s

/-- It is loaded if every variable can be read. -/
theorem exists_load_iff (hfile : load file [] = .ok c) (hsections : GivesTables file)
    (henv : OnlySettings env) :
    (∃ c', load file env = .ok c') ↔
      ∀ (s : Setting) v, env.lookup s.envName = some v → ∃ a, s.read (envValue v) = some a := by
  constructor
  · rintro ⟨c', hc'⟩ s v hv
    exact ⟨_, ((load_eq_ok_iff_of_load hfile hsections henv).1 hc').1 s v hv⟩
  · intro h
    -- each setting has a value of its own: what the variable gives, or what was loaded without it
    have hvalue (s : Setting) : ∃ a : s.Val,
        (∀ v, env.lookup s.envName = some v → s.read (envValue v) = some a) ∧
          (env.lookup s.envName = none → a = s.get c) := by
      cases hv : env.lookup s.envName with
      | some v =>
        obtain ⟨a, ha⟩ := h s v hv
        refine ⟨a, fun v' hv' ↦ ?_, fun hnone ↦ absurd hnone (Option.some_ne_none v)⟩
        rwa [← Option.some.inj hv']
      | none => exact ⟨_, fun v hv' ↦ absurd hv'.symm (Option.some_ne_none v), fun _ ↦ rfl⟩
    choose a hread hkept using hvalue
    refine ⟨⟨a .recordName, ⟨a .defaultSecs, c.hold.rules⟩, c.related, ⟨a .maxRetries, a .emits⟩,
      ⟨a .level⟩⟩,
      (load_eq_ok_iff_of_load hfile hsections henv).2 ⟨fun s ↦ ?_, fun s ↦ ?_, rfl, rfl⟩⟩
    · have hs := hread s
      cases s <;> exact hs
    · have hs := hkept s
      cases s <;> exact hs

/-- What is loaded when one setting has a variable and nothing else is given. -/
theorem load_none_singleton (s : Setting) (v : String) :
    ((∃ c₁, load none [(s.envName, v)] = .ok c₁) ↔ ∃ a, s.read (envValue v) = some a) ∧
      ∀ c₁, load none [(s.envName, v)] = .ok c₁ → s.read (envValue v) = some (s.get c₁) := by
  have hsections : GivesTables none := by
    rintro layer hlayer e he
    cases hlayer
    exact absurd he List.not_mem_nil
  have henv : OnlySettings [(s.envName, v)] :=
    ⟨List.nodup_singleton _, fun a ha _ ↦ ⟨s, congrArg Prod.fst (List.mem_singleton.1 ha)⟩⟩
  have hlookup : [(s.envName, v)].lookup s.envName = some v := List.lookup_cons_self
  refine ⟨(exists_load_iff load_none_nil hsections henv).trans ⟨fun h ↦ h s v hlookup, ?_⟩, ?_⟩
  · intro h s' v' hv
    obtain ⟨hname, rfl⟩ := Prod.mk.inj
      (List.mem_singleton.1 ((lookup_eq_some_iff_mem henv.nodup).1 hv))
    obtain rfl := Setting.envName_injective hname
    exact h
  · intro c₁ hc₁
    exact ((load_eq_ok_iff_of_load load_none_nil hsections henv).1 hc₁).1 s v hlookup

/-- **Overrides are per setting and win over the file.** -/
theorem load_overrides (hfile : load file [] = .ok c) (hsections : GivesTables file)
    (henv : OnlySettings env) :
    ((∃ c', load file env = .ok c') ↔
      ∀ (s : Setting) v, (s.envName, v) ∈ env → ∃ c₁, load none [(s.envName, v)] = .ok c₁) ∧
    ∀ c', load file env = .ok c' →
      (∀ (s : Setting) v c₁, (s.envName, v) ∈ env → load none [(s.envName, v)] = .ok c₁ →
        s.get c' = s.get c₁) ∧
      (∀ s : Setting, (∀ v, (s.envName, v) ∉ env) → s.get c' = s.get c) ∧
      c'.hold.rules = c.hold.rules ∧ c'.related = c.related := by
  constructor
  · rw [exists_load_iff hfile hsections henv]
    refine forall_congr' fun s ↦ forall_congr' fun v ↦ ?_
    rw [lookup_eq_some_iff_mem henv.nodup, (load_none_singleton s v).1]
  · intro c' hc'
    obtain ⟨hread, hkept, hlists⟩ := (load_eq_ok_iff_of_load hfile hsections henv).1 hc'
    refine ⟨fun s v c₁ hv hc₁ ↦ ?_, fun s hnone ↦ ?_, hlists⟩
    · have hv := hread s v ((lookup_eq_some_iff_mem henv.nodup).2 hv)
      exact Option.some.inj (hv.symm.trans ((load_none_singleton s v).2 c₁ hc₁))
    · refine hkept s (Option.eq_none_iff_forall_ne_some.2 fun v hv ↦ hnone v ?_)
      exact (lookup_eq_some_iff_mem henv.nodup).1 hv

/-- A switch and the name are overridden: the name in the file does not shine through, and the rest
of the section that the switch is in stays. -/
theorem load_overrides_switch :
    let file : Option (String × FileSource) := some ("s.json", ⟨"s.json",
      (Json.obj [("record_name", .str "a"),
        ("sync", .obj [("max_conflict_retries", .ofNat 9)])]).write⟩)
    let env : List (String × String) :=
      [("PATH", "/bin"), ("OPSTATUS_SYNC__EMIT_EVENTS", "off"), ("OPSTATUS_RECORD_NAME", "b")]
    load file [] = .ok { default with recordName := "a", sync := ⟨9, true⟩ } ∧
      GivesTables file ∧ OnlySettings env ∧
      ∃ c, load file env = .ok c ∧ c.recordName = "b" ∧ c.sync = ⟨9, false⟩ := by
  intro file env
  let inner : List (String × Json) := [("max_conflict_retries", .ofNat 9)]
  let fields : List (String × Json) := [("record_name", .str "a"), ("sync", .obj inner)]
  have hread : Json.read? (Json.obj fields).write = some (.obj fields) := Json.read?_write rfl
  have hplain : IsPlain fields := by
    have hkeys : ∀ key ∈ fields.map Prod.fst, path key = [.key key] ∧ lowerKey key = key := by
      decide
    refine ⟨fun f hf ↦ hkeys f.1 (List.mem_map_of_mem hf), fun f hf hsection ↦ ?_⟩
    simp only [fields, List.mem_cons, List.not_mem_nil, or_false] at hf
    rcases hf with rfl | rfl
    · exact absurd hsection (show "record_name" ∉ sections by decide)
    · exact ⟨inner, rfl, List.forall_mem_singleton.2 (by decide)⟩
  have hfile : load file [] = .ok { default with recordName := "a", sync := ⟨9, true⟩ } :=
    load_eq_decode (by decide) hread hplain (by decide) rfl (List.forall_mem_nil _)
      HoldConfig.fits_default rfl
  have hsections : GivesTables file := givesTables_of_isPlain hread hplain
  have henv : OnlySettings env := by
    refine ⟨by decide, fun a ha hpath ↦ ?_⟩
    simp only [env, List.mem_cons, List.not_mem_nil, or_false] at ha
    rcases ha with rfl | rfl | rfl
    · exact absurd (show envPath? "PATH" = none by decide) hpath
    · exact ⟨.emits, rfl⟩
    · exact ⟨.recordName, rfl⟩
  have hemits : Setting.emits.read (envValue "off") = some false := rfl
  have hname : Setting.recordName.read (envValue "b") = some "b" := rfl
  obtain ⟨hexists, hvalues⟩ := load_overrides hfile hsections henv
  obtain ⟨c, hc⟩ := hexists.2 fun s v hv ↦ (load_none_singleton s v).1.2 <| by
    simp only [env, List.mem_cons, List.not_mem_nil, or_false, Prod.mk.injEq] at hv
    rcases hv with ⟨hs, -⟩ | ⟨hs, rfl⟩ | ⟨hs, rfl⟩
    · exact absurd hs (by cases s <;> decide)
    · obtain rfl := Setting.envName_injective (show s.envName = Setting.emits.envName from hs)
      exact ⟨_, hemits⟩
    · obtain rfl := Setting.envName_injective (show s.envName = Setting.recordName.envName from hs)
      exact ⟨_, hname⟩
  obtain ⟨hassigned, hother, -⟩ := hvalues c hc
  have hvalue {s : Setting} {v : String} {a : s.Val} (hv : (s.envName, v) ∈ env)
      (hread : s.read (envValue v) = some a) : s.get c = a := by
    obtain ⟨c₁, hc₁⟩ := (load_none_singleton s v).1.2 ⟨a, hread⟩
    rw [hassigned s v c₁ hv hc₁]
    exact Option.some.inj (((load_none_singleton s v).2 c₁ hc₁).symm.trans hread)
  have hc_name : c.recordName = "b" :=
    hvalue (s := .recordName) (by simp [env, Setting.envName]) hname
  have hc_emits : c.sync.emits = false :=
    hvalue (s := .emits) (by simp [env, Setting.envName]) hemits
  have hc_retries : c.sync.maxRetries = 9 :=
    hother .maxRetries fun v hv ↦ by simp [env, Setting.envName] at hv
  exact ⟨hfile, hsections, henv, c, hc, hc_name,
    congr (congrArg SyncConfig.mk hc_retries) hc_emits⟩

end Config

end StatusRollup
