import StatusRollup.Proofs.Overrides

/-!
# Texts out of the environment

The value of a variable is read as a truth value, an integer or a number wherever that is possible,
whatever it is the value of. A setting that is a text then gets what was read, written out again
(`Config.envText`). So such a variable is never refused and changes nothing but its setting
(`Config.load_text`), but the setting need not have the spelling of the variable:
`Config.load_respells` has a name that comes out of a file as it is and out of the environment
without its zeros.

* `envText_eq_self_iff` — which texts keep their spelling (`Config.KeepsSpelling`). For integers
  this is a matter of the first characters, since a number has one way of being written.
* `envValue_eq_str` — a text that neither begins like a number nor is one of five words stays a
  text.
-/

namespace StatusRollup.Config

open Value (lower setPath setAll table get? readStr? orDefault isTable)

variable {v : String} {n : Int} {c : Config} {file : Option (String × FileSource)}
  {env : List (String × String)}

/-! ### What a variable is read as -/

/-- What a setting that is a text gets from a variable: what was read, written out again. -/
def envText (v : String) : String := (envValue v).readStr?.getD v

/-- Whatever was read can be written out. -/
theorem readStr?_envValue (v : String) : (envValue v).readStr? = some (envText v) := by
  rw [envText]
  rcases envValue_cases v with ⟨b, h, -⟩ | ⟨n, h, -⟩ | ⟨x, h, -⟩ | h <;> rw [h] <;> rfl

/-! ### Integers -/

/-- An integer is read off digits, perhaps after a sign. -/
theorem exists_digits_of_readInt? (h : readInt? v = some n) :
    ∃ ds, ds ≠ [] ∧ (∀ c ∈ ds, c.isDigit = true) ∧
      (v.toList = '-' :: ds ∧ n = -(Text.valueOf ds : Int) ∨
        v.toList = '+' :: ds ∧ n = Text.valueOf ds ∨ v.toList = ds ∧ n = Text.valueOf ds) := by
  have hdigits {ds : List Char} {m low high : Int}
      (h : (if ds.isEmpty ∨ !ds.all Char.isDigit ∨ m < low ∨ high < m then none
        else some m) = some n) : ds ≠ [] ∧ (∀ c ∈ ds, c.isDigit = true) ∧ n = m := by
    split at h
    · cases h
    · next hds =>
      rw [not_or, not_or] at hds
      refine ⟨fun hnil ↦ hds.1 (hnil ▸ rfl), ?_, (Option.some.inj h).symm⟩
      simpa using hds.2.1
  rw [readInt?] at h
  split at h
  next negative ds hsplit =>
    obtain ⟨hne, hall, rfl⟩ := hdigits h
    refine ⟨ds, hne, hall, ?_⟩
    split at hsplit
    · next hv =>
      cases hsplit
      exact .inl ⟨hv, rfl⟩
    · next hv =>
      cases hsplit
      exact .inr (.inl ⟨hv, rfl⟩)
    · cases hsplit
      exact .inr (.inr ⟨rfl, rfl⟩)

/-- The text has no character that an integer can do without: no plus sign, no zeros in front, and
zero has no sign. -/
def IsUnpadded (v : String) : Prop :=
  v = "0" ∨ ∀ start ∈ ["+", "0", "-0"], ¬start.toList <+: v.toList

/-- Digits without a sign are unpadded unless there are zeros in front. -/
theorem isUnpadded_digits_iff {ds : List Char} (hds : ∀ c ∈ ds, c.isDigit = true)
    (hv : v.toList = ds) : IsUnpadded v ↔ ds = ['0'] ∨ ds.head? ≠ some '0' := by
  have hzero : v = "0" ↔ ds = ['0'] := by
    rw [← hv, ← String.toList_inj]
    rfl
  have hsign {c : Char} {cs : List Char} (hc : c.isDigit = false) : ¬c :: cs <+: ds := by
    rintro ⟨rest, rfl⟩
    exact Bool.false_ne_true (hc.symm.trans (hds c List.mem_cons_self))
  have hhead : ¬['0'] <+: ds ↔ ds.head? ≠ some '0' :=
    not_congr List.singleton_prefix_iff_head?_eq_some
  rw [IsUnpadded, hzero, hv, List.forall_mem_cons, List.forall_mem_cons, List.forall_mem_singleton]
  exact or_congr_right ⟨fun h ↦ hhead.1 h.2.1,
    fun h ↦ ⟨hsign (by decide), hhead.2 h, hsign (by decide)⟩⟩

/-- Digits after a minus sign are unpadded unless they begin with a zero. -/
theorem isUnpadded_minus_iff {ds : List Char} (hv : v.toList = '-' :: ds) :
    IsUnpadded v ↔ ds.head? ≠ some '0' := by
  have hzero : v ≠ "0" := by
    rintro rfl
    exact absurd hv (by simp)
  rw [IsUnpadded, hv, or_iff_right hzero, List.forall_mem_cons, List.forall_mem_cons,
    List.forall_mem_singleton]
  simp [List.singleton_prefix_iff_head?_eq_some]

/-- A negative integer is written with the digits of its magnitude, if these do not begin with a
zero. A minus sign before nothing but zeros is dropped. -/
theorem toString_neg_eq_iff {ds : List Char} (hne : ds ≠ []) (hds : ∀ c ∈ ds, c.isDigit = true)
    (hv : v.toList = '-' :: ds) :
    toString (-(Text.valueOf ds : Int)) = v ↔ IsUnpadded v := by
  have hunique := Text.toDigits_valueOf_iff hne hds
  rw [isUnpadded_minus_iff hv, ← String.toList_inj, hv]
  cases hvalue : Text.valueOf ds with
  | zero =>
    rw [hvalue] at hunique
    have hzero : (toString (-((0 : Nat) : Int))).toList = ['0'] := by decide
    refine iff_of_false (fun h ↦ ?_) fun hhead ↦ hhead ?_
    · cases hzero.symm.trans h
    · rw [← hunique.2 (.inr hhead)]
      rfl
  | succ m =>
    have hnonzero : ds ≠ ['0'] := by
      rintro rfl
      exact Nat.succ_ne_zero m (hvalue.symm.trans rfl)
    have hwritten : (toString (-((m + 1 : Nat) : Int))).toList = '-' :: Nat.toDigits 10 (m + 1) :=
      Json.toList_writeNumeral_negSucc m
    rw [hvalue, or_iff_right hnonzero] at hunique
    rw [hwritten, List.cons_inj_right, hunique]

/-- A plus sign is never written. -/
theorem toString_ne_of_plus {ds : List Char} (m : Nat) (hv : v.toList = '+' :: ds) :
    toString (m : Int) ≠ v := by
  rintro rfl
  have hmem : '+' ∈ Nat.toDigits 10 m := by
    rw [← Json.toList_writeNumeral_ofNat]
    exact hv ▸ List.mem_cons_self
  exact absurd (Text.isDigit_of_mem_toDigits hmem) (by decide)

theorem not_isUnpadded_plus {ds : List Char} (hv : v.toList = '+' :: ds) : ¬IsUnpadded v := by
  rintro (rfl | hstart)
  · exact absurd hv (by simp)
  · exact hstart "+" (by decide) (hv ▸ ⟨ds, rfl⟩)

/-- **An integer is written out as it was read exactly if it is unpadded.** -/
theorem toString_eq_iff (h : readInt? v = some n) : toString n = v ↔ IsUnpadded v := by
  obtain ⟨ds, hne, hds, ⟨hv, rfl⟩ | ⟨hv, rfl⟩ | ⟨hv, rfl⟩⟩ := exists_digits_of_readInt? h
  · exact toString_neg_eq_iff hne hds hv
  · exact iff_of_false (toString_ne_of_plus _ hv) (not_isUnpadded_plus hv)
  · rw [isUnpadded_digits_iff hds hv, ← Text.toDigits_valueOf_iff hne hds, ← String.toList_inj, hv]
    exact iff_of_eq (congrArg (· = ds) (Json.toList_writeNumeral_ofNat _))

/-! ### Which texts keep their spelling -/

/-- The text has the spelling in which what it is read as is written out. A truth value is in lower
case, an integer is unpadded, any other number has its fewest digits and no exponent. What is read
as none of these is left alone. -/
def KeepsSpelling (v : String) : Prop :=
  match envValue v with
  | .bool _ => lower v = v
  | .int _ => IsUnpadded v
  | .float x => x.write = v
  | _ => True

/-- **A text setting has the spelling of its variable exactly if that is the written one.** -/
theorem envText_eq_self_iff : envText v = v ↔ KeepsSpelling v := by
  rw [envText, KeepsSpelling]
  rcases envValue_cases v with ⟨b, h, hlower⟩ | ⟨n, h, hread⟩ | ⟨x, h, -⟩ | h
  · rw [h, hlower]
    exact Iff.rfl
  · rw [h]
    exact toString_eq_iff hread
  · rw [h]
    exact Iff.rfl
  · rw [h]
    exact iff_of_true rfl trivial

/-- The text does not begin the way a number does. -/
def BeginsOtherwise (v : String) : Prop :=
  ∀ first ∈ v.toList.head?, first.isDigit = false ∧ first ∉ ['+', '-', '.']

theorem readInt?_eq_none (h : BeginsOtherwise v) : readInt? v = none := by
  refine Option.eq_none_iff_forall_ne_some.2 fun n hn ↦ ?_
  obtain ⟨ds, hne, hds, ⟨hv, -⟩ | ⟨hv, -⟩ | ⟨hv, -⟩⟩ := exists_digits_of_readInt? hn
  · exact (h '-' (by rw [hv]; rfl)).2 (by decide)
  · exact (h '+' (by rw [hv]; rfl)).2 (by decide)
  · obtain ⟨d, ds, rfl⟩ := List.exists_cons_of_ne_nil hne
    have hd := (h d (by rw [hv]; rfl)).1
    exact Bool.false_ne_true (hd.symm.trans (hds d List.mem_cons_self))

theorem readDecimal?_eq_none {negative : Bool} (h : BeginsOtherwise v) :
    Binary64.readDecimal? negative v.toList = none := by
  rw [BeginsOtherwise] at h
  cases hv : v.toList with
  | nil => rfl
  | cons first rest =>
    obtain ⟨hdigit, hsign⟩ := h first (by rw [hv]; rfl)
    have hpoint : first ≠ '.' := by
      rintro rfl
      exact hsign (by decide)
    simp [Binary64.readDecimal?, hdigit, hpoint]

theorem read?_eq_none (h : BeginsOtherwise v) (hword : lower v ∉ ["inf", "infinity", "nan"]) :
    Binary64.read? v = none := by
  rw [Binary64.read?]
  split
  · next hv => exact absurd (h '-' (by rw [hv]; rfl)).2 (by decide)
  · next hv => exact absurd (h '+' (by rw [hv]; rfl)).2 (by decide)
  · rw [Binary64.readMagnitude?]
    split
    · next hlower => exact absurd (by simp [lower, hlower]) hword
    · next hlower => exact absurd (by simp [lower, hlower]) hword
    · next hlower => exact absurd (by simp [lower, hlower]) hword
    · exact readDecimal?_eq_none h

/-- **A text that is no word for a value and does not begin like a number stays a text.** -/
theorem envValue_eq_str (h : BeginsOtherwise v)
    (hword : lower v ∉ ["true", "false", "inf", "infinity", "nan"]) : envValue v = .str v := by
  rw [envValue]
  split
  · next hlower => exact absurd (by simp [hlower]) hword
  · next hlower => exact absurd (by simp [hlower]) hword
  · have hnumber : lower v ∉ ["inf", "infinity", "nan"] :=
      fun hmem ↦ hword (List.mem_cons_of_mem _ (List.mem_cons_of_mem _ hmem))
    rw [readInt?_eq_none h, read?_eq_none h hnumber]
    rfl

/-! ### Loading -/

/-- The variable has this value, and no other one belongs to the layer of the environment. -/
def HasOnly (env : List (String × String)) (name v : String) : Prop :=
  (env.filter fun a ↦ (envPath? a.1).isSome) = [(name, v)]

/-- What does not belong to the layer adds nothing to it. -/
theorem envLayer_filter (env : List (String × String)) :
    envLayer (env.filter fun a ↦ (envPath? a.1).isSome) = envLayer env := by
  induction env with
  | nil => rfl
  | cons a env ih =>
    rw [envLayer_cons, ← ih, List.filter_cons]
    split
    · rw [envLayer_cons]
    · next h =>
      rw [Option.not_isSome_iff_eq_none.1 h]
      rfl

/-- The variable of a setting sets its place. -/
theorem setAll_envLayer_of_hasOnly {s : Setting} (h : HasOnly env s.envName v) (t : Value) :
    setAll t (envLayer env) = setPath (envValue v) (s.keys.map .key) (some t) := by
  obtain ⟨text, htext, hkeys⟩ := s.exists_envPath?
  rw [← envLayer_filter, show env.filter _ = _ from h, envLayer_cons, htext, ← hkeys]
  rfl

/-- What a file makes of the defaults is a table, and what is loaded is read from it. -/
theorem exists_merged (hfile : load file [] = .ok c) :
    ∃ t : Value, t.isTable = true ∧ ofValue? t = some c ∧
      ∀ env c', load file env = .ok c' ↔ ofValue? (setAll t (envLayer env)) = some c' := by
  cases hlayer : optionalFileLayer file with
  | error e =>
    rw [load, hlayer] at hfile
    cases hfile
  | ok layer =>
    have hmerge : merge [defaultLayer, layer] = setAll (setAll (table []) defaultLayer) layer := rfl
    have htable : (merge [defaultLayer, layer]).isTable = true := by
      rw [hmerge]
      exact Value.isTable_setAll (Value.isTable_setAll rfl)
    have hread := (load_eq_ok_iff_ofValue? hlayer).1 hfile
    rw [show envLayer [] = [] from rfl, setAll, List.foldl_nil] at hread
    exact ⟨merge [defaultLayer, layer], htable, hread,
      fun env c' ↦ load_eq_ok_iff_ofValue? hlayer⟩

/-- The name of the record is read from its variable, and everything else as before. -/
theorem ofValue?_setPath_recordName {t : Value} (ht : t.isTable = true) (hc : ofValue? t = some c) :
    ofValue? (setPath (envValue v) (Setting.recordName.keys.map .key) (some t)) =
      some { c with recordName := envText v } := by
  obtain ⟨-, hhold, hrelated, hsync, hlogging⟩ := (ofValue?_eq_some_iff ht).1 hc
  have hplace (name : String) :
      (setPath (envValue v) (Setting.recordName.keys.map .key) (some t)).get? name =
        if name = "record_name" then some (envValue v) else t.get? name := by
    refine (Value.get?_setPath_key "record_name" [] name).trans ?_
    rw [setPath, Value.mergeInto_of_not_table (isTable_envValue v),
      show Value.lowerKey "record_name" = "record_name" by decide]
  rw [ofValue?_eq_some_iff rfl, hplace, hplace, hplace, hplace, hplace, if_pos rfl,
    if_neg (by decide), if_neg (by decide), if_neg (by decide), if_neg (by decide),
    Value.orDefault_some]
  exact ⟨readStr?_envValue v, hhold, hrelated, hsync, hlogging⟩

/-- The level of the log is read from its variable, and everything else as before. Whatever stands
in the place of the section is made a table. -/
theorem ofValue?_setPath_level {t : Value} (ht : t.isTable = true) (hc : ofValue? t = some c) :
    ofValue? (setPath (envValue v) (Setting.level.keys.map .key) (some t)) =
      some { c with logging := ⟨envText v⟩ } := by
  obtain ⟨hname, hhold, hrelated, hsync, -⟩ := (ofValue?_eq_some_iff ht).1 hc
  have hplace (name : String) :
      (setPath (envValue v) (Setting.level.keys.map .key) (some t)).get? name =
        if name = "logging" then some (setPath (envValue v) [.key "level"] (t.get? name))
        else t.get? name := by
    refine (Value.get?_setPath_key "logging" [.key "level"] name).trans ?_
    rw [show Value.lowerKey "logging" = "logging" by decide]
  have hlevel : (setPath (envValue v) [.key "level"] (t.get? "logging")).get? "level" =
      some (envValue v) := by
    have hkeys : ∀ k ∈ ["level"], Value.lowerKey k = k := by decide
    rw [← Value.at?_singleton]
    refine (Value.at?_setPath hkeys).trans ?_
    rw [Value.mergeInto_of_not_table (isTable_envValue v)]
  rw [ofValue?_eq_some_iff rfl, hplace, hplace, hplace, hplace, hplace, if_neg (by decide),
    if_neg (by decide), if_neg (by decide), if_neg (by decide), if_pos rfl, Value.orDefault_some,
    LogConfig.ofValue?_eq_some_iff rfl, hlevel, Value.orDefault_some]
  exact ⟨hname, hhold, hrelated, hsync, readStr?_envValue v⟩

/-- **A text setting is loaded from any variable**, over any file that is loaded without it, and
nothing else changes. It has the text of the variable exactly if that keeps its spelling, as every
text does that is no word for a value and does not begin like a number. -/
theorem load_text (hfile : load file [] = .ok c) (v : String) :
    (∀ env, HasOnly env "OPSTATUS_RECORD_NAME" v →
      load file env = .ok { c with recordName := envText v }) ∧
    (∀ env, HasOnly env "OPSTATUS_LOGGING__LEVEL" v →
      load file env = .ok { c with logging := ⟨envText v⟩ }) ∧
    (envText v = v ↔ KeepsSpelling v) ∧
    (BeginsOtherwise v → lower v ∉ ["true", "false", "inf", "infinity", "nan"] →
      envText v = v) := by
  obtain ⟨t, ht, hc, hload⟩ := exists_merged hfile
  refine ⟨fun env henv ↦ ?_, fun env henv ↦ ?_, envText_eq_self_iff, fun hbegins hword ↦ ?_⟩
  · rw [hload, setAll_envLayer_of_hasOnly (s := .recordName) henv]
    exact ofValue?_setPath_recordName ht hc
  · rw [hload, setAll_envLayer_of_hasOnly (s := .level) henv]
    exact ofValue?_setPath_level ht hc
  · rw [envText, envValue_eq_str hbegins hword]
    rfl

/-- A file whose section for the log is an array. Its level gives way to a variable, which becomes a
truth value in lower case; another name comes through as it is, beside a variable of another
program. -/
theorem load_text_over_array :
    let file : Option (String × FileSource) := some ("s.json", ⟨"s.json",
      (Json.obj [("logging", .arr [.str "debug"])]).write⟩)
    load file [] = .ok { default with logging := ⟨"debug"⟩ } ∧
    load file [("OPSTATUS_LOGGING__LEVEL", "TRUE")] = .ok { default with logging := ⟨"true"⟩ } ∧
    HasOnly [("PATH", "/bin"), ("OPSTATUS_RECORD_NAME", "edge-7")] "OPSTATUS_RECORD_NAME" "edge-7" ∧
    load file [("PATH", "/bin"), ("OPSTATUS_RECORD_NAME", "edge-7")] =
      .ok { default with recordName := "edge-7", logging := ⟨"debug"⟩ } := by
  intro file
  have hread : Json.read? (Json.obj [("logging", .arr [.str "debug"])]).write =
      some (.obj [("logging", .arr [.str "debug"])]) :=
    Json.read?_write rfl
  have hlayer : optionalFileLayer file = .ok [("logging", .array [.str "debug"])] :=
    optionalFileLayer_eq (by decide) hread (by decide) rfl
  have hfile : load file [] = .ok { default with logging := ⟨"debug"⟩ } := by
    rw [load, hlayer]
    rfl
  have hlevel : HasOnly [("OPSTATUS_LOGGING__LEVEL", "TRUE")] "OPSTATUS_LOGGING__LEVEL" "TRUE" := by
    unfold HasOnly
    decide
  have hname : HasOnly [("PATH", "/bin"), ("OPSTATUS_RECORD_NAME", "edge-7")]
      "OPSTATUS_RECORD_NAME" "edge-7" := by
    unfold HasOnly
    decide
  have hbegins : BeginsOtherwise "edge-7" := by
    intro first hfirst
    obtain rfl : 'e' = first := Option.some.inj hfirst
    exact ⟨rfl, by decide⟩
  obtain ⟨-, hload, -⟩ := load_text hfile "TRUE"
  obtain ⟨hload', -, -, hkeeps⟩ := load_text hfile "edge-7"
  refine ⟨hfile, hload _ hlevel, hname, ?_⟩
  rw [hload' _ hname, hkeeps hbegins (by decide)]

/-- **A name may come out of the environment in another spelling.** Out of a file the same name
comes as it is. -/
theorem load_respells :
    load none [("OPSTATUS_RECORD_NAME", "007")] = .ok { default with recordName := "7" } ∧
      load (some ("s.json", ⟨"s.json", (Json.obj [("record_name", .str "007")]).write⟩)) [] =
        .ok { default with recordName := "007" } := by
  have hread : Json.read? (Json.obj [("record_name", .str "007")]).write =
      some (.obj [("record_name", .str "007")]) :=
    Json.read?_write rfl
  have hlayer : optionalFileLayer (some ("s.json", ⟨"s.json",
      (Json.obj [("record_name", .str "007")]).write⟩)) = .ok [("record_name", .str "007")] :=
    optionalFileLayer_eq (by decide) hread (by decide) rfl
  refine ⟨rfl, ?_⟩
  rw [load, hlayer]
  rfl

end StatusRollup.Config
