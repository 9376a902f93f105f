import Mathlib.Data.List.Basic
import StatusRollup.Config
import StatusRollup.Proofs.Categories
import StatusRollup.Proofs.Holds

/-!
# Policies built from rules

The policy of a configuration can be built in several ways (`HoldConfig.Way`): from the holds, with
the settings, rule after rule by the maker of each kind of pattern, and from the patterns at once if
all of them are regular expressions. They come to the same (`HoldConfig.ways_agree`), since what
they come to can be said without building anything (`HoldConfig.Builds`).

* Which patterns cannot be read, and which condition types a pattern covers, is up to its kind
  (`PatternKind.Refuses`, `PatternKind.Covers`). A maker of rules does what is configured if it
  fails where the pattern is refused and its rule accepts what the pattern covers
  (`RuleConfig.Yields`).
* The first bad pattern is reported, and the first rule that covers a type decides its hold. Both
  are a matter of the first element of a list with some property (`IsFirst`), and both are kept when
  a rule is put in front of others (`Builds.cons`, `Builds.cons_error`). So they hold for any maker
  that does what is configured (`builds_mapM`), and every way has such a maker.
* A policy reaches an aggregate through the holds of the types at hand and in no other way
  (`aggregate_eq_of_holdFor_eq`). So policies that hold every type equally long aggregate alike.
-/

namespace StatusRollup

open Pattern

/-! ### The first of a list -/

/-- An element is **the first** of a list with a property: it has the property, and no element
before it does. -/
inductive IsFirst {α : Type} (p : α → Prop) : List α → α → Prop where
  /-- It stands in front. -/
  | head {x : α} {xs : List α} (h : p x) : IsFirst p (x :: xs) x
  /-- What stands in front does not have the property. -/
  | tail {x y : α} {xs : List α} (hy : ¬p y) (h : IsFirst p xs x) : IsFirst p (y :: xs) x

namespace IsFirst

variable {α : Type} {p : α → Prop} {xs : List α} {x y : α}

theorem mem_and_holds (h : IsFirst p xs x) : x ∈ xs ∧ p x := by
  induction h with
  | head h => exact ⟨List.mem_cons_self, h⟩
  | tail _ _ ih => exact ⟨List.mem_cons_of_mem _ ih.1, ih.2⟩

theorem unique (hx : IsFirst p xs x) (hy : IsFirst p xs y) : x = y := by
  induction hx with
  | head h =>
    cases hy with
    | head _ => rfl
    | tail hnot _ => exact absurd h hnot
  | tail hnot _ ih =>
    cases hy with
    | head h => exact absurd h hnot
    | tail _ hy => exact ih hy

/-- Some element is the first with a property, if any element has the property. -/
theorem exists_of_mem (hx : x ∈ xs) (h : p x) : ∃ y, IsFirst p xs y := by
  induction xs with
  | nil => exact absurd hx List.not_mem_nil
  | cons z zs ih =>
    by_cases hz : p z
    · exact ⟨z, .head hz⟩
    · have hmem : x ∈ zs := (List.mem_cons.1 hx).resolve_left fun heq ↦ hz (heq ▸ h)
      obtain ⟨y, hy⟩ := ih hmem
      exact ⟨y, .tail hz hy⟩

end IsFirst

/-! ### What a pattern means -/

namespace PatternKind

/-- A pattern of a kind cannot be read, for a reason that is told of globs only. There is no exact
pattern that cannot be read. -/
inductive Refuses : PatternKind → String → Option String → Prop where
  /-- The glob is malformed. -/
  | glob {pattern : String} {e : GlobError} (h : Glob.parse pattern = .error e) :
    Refuses .glob pattern (some ("error parsing glob '" ++ pattern ++ "': " ++ e.message))
  /-- The regular expression is malformed, has no meaning or is too large. -/
  | regex {pattern : String} (h : Regex.compile? pattern = none) : Refuses .regex pattern none

/-- A pattern of a kind **covers** a condition type. -/
inductive Covers : PatternKind → String → String → Prop where
  /-- The pattern is the type. -/
  | exact {type : String} : Covers .exact type type
  /-- The glob matches the whole type. -/
  | glob {pattern type : String} {tokens : List GlobToken} (h : Glob.parse pattern = .ok tokens)
    (hmatch : Glob.accepts tokens type = true) : Covers .glob pattern type
  /-- The regular expression matches some part of the type. -/
  | regex {pattern type : String} {r : Regex} (h : Regex.compile? pattern = some r)
    (hmatch : r.occursIn type = true) : Covers .regex pattern type

variable {kind : PatternKind} {pattern type : String} {reason reason' : Option String}

theorem covers_exact_iff : Covers .exact pattern type ↔ pattern = type := by
  constructor
  · intro hcovers
    cases hcovers with
    | exact => rfl
  · rintro rfl
    exact .exact

theorem covers_glob_iff {tokens : List GlobToken} (h : Glob.parse pattern = .ok tokens) :
    Covers .glob pattern type ↔ Glob.accepts tokens type = true := by
  constructor
  · intro hcovers
    cases hcovers with
    | glob h' hmatch =>
      obtain rfl := Except.ok.inj (h.symm.trans h')
      exact hmatch
  · exact .glob h

theorem covers_regex_iff {r : Regex} (h : Regex.compile? pattern = some r) :
    Covers .regex pattern type ↔ r.occursIn type = true := by
  constructor
  · intro hcovers
    cases hcovers with
    | regex h' hmatch =>
      obtain rfl := Option.some.inj (h.symm.trans h')
      exact hmatch
  · exact .regex h

/-- A pattern is refused for one reason. -/
theorem Refuses.unique (h : kind.Refuses pattern reason) (h' : kind.Refuses pattern reason') :
    reason = reason' := by
  cases h with
  | glob h =>
    cases h' with
    | glob h' => rw [Except.error.inj (h.symm.trans h')]
  | regex _ =>
    cases h' with
    | regex _ => rfl

end PatternKind

namespace Matcher

variable {kind : PatternKind} {pattern : String} {reason : Option String}

theorem compile_of_refuses (h : kind.Refuses pattern reason) :
    compile kind pattern = .error (.invalidPattern pattern reason) := by
  cases h with
  | glob h => simp only [compile, glob?, h]
  | regex h => simp only [compile, regex?, h]

/-- A pattern that is not refused becomes a matcher, which accepts what the pattern covers. -/
theorem exists_compile_of_not_refuses (h : ¬∃ reason, kind.Refuses pattern reason) :
    ∃ m, compile kind pattern = .ok m ∧
      ∀ type, m.accepts type = true ↔ kind.Covers pattern type := by
  cases kind with
  | exact =>
    refine ⟨.exact pattern, rfl, fun type ↦ ?_⟩
    rw [accepts, beq_iff_eq, PatternKind.covers_exact_iff]
  | glob =>
    cases hparse : Glob.parse pattern with
    | error e => exact absurd ⟨_, .glob hparse⟩ h
    | ok tokens =>
      refine ⟨.glob pattern tokens, ?_, fun type ↦ (PatternKind.covers_glob_iff hparse).symm⟩
      simp only [compile, glob?, hparse]
  | regex =>
    cases hcompile : Regex.compile? pattern with
    | none => exact absurd ⟨_, .regex hcompile⟩ h
    | some r =>
      refine ⟨.regex r, ?_, fun type ↦ (PatternKind.covers_regex_iff hcompile).symm⟩
      simp only [compile, regex?, hcompile]

end Matcher

namespace RuleConfig

variable {r : RuleConfig}

/-- The pattern of the rule cannot be read. -/
def IsBad (r : RuleConfig) : Prop := ∃ reason, r.kind.Refuses r.pattern reason

/-- The rule is about a condition type. -/
def Covers (r : RuleConfig) (type : String) : Prop := r.kind.Covers r.pattern type

/-- The hold of the rule. -/
def hold (r : RuleConfig) : Duration := .ofSeconds r.holdSecs.toNat

/-- The rule made by the maker of its kind of pattern. -/
def made (r : RuleConfig) : Except Failure Rule :=
  match r.kind with
  | .exact => .ok (.exact r.pattern r.hold)
  | .glob => Rule.glob? r.pattern r.hold
  | .regex => Rule.regex? r.pattern r.hold

/-! ### What becomes of one rule -/

/-- What a maker of rules **yields** if it does what is configured. -/
inductive Yields (r : RuleConfig) : Except Failure Rule → Prop where
  /-- A bad pattern is reported. -/
  | refused {reason : Option String} (h : r.kind.Refuses r.pattern reason) :
    r.Yields (.error (.invalidPattern r.pattern reason))
  /-- Any other becomes a rule for the types that it covers. -/
  | read {rule : Rule} (good : ¬r.IsBad) (hold : rule.hold = r.hold)
    (covers : ∀ type, rule.accepts type = true ↔ r.Covers type) : r.Yields (.ok rule)

theorem yields_compile : r.Yields (Rule.compile r.kind r.pattern r.hold) := by
  rw [Rule.compile]
  by_cases hbad : r.IsBad
  · obtain ⟨reason, h⟩ := hbad
    rw [Matcher.compile_of_refuses h]
    exact .refused h
  · obtain ⟨m, hm, hcovers⟩ := Matcher.exists_compile_of_not_refuses hbad
    rw [hm]
    exact .read hbad rfl hcovers

theorem made_eq_compile : r.made = Rule.compile r.kind r.pattern r.hold := by
  rw [made]
  split <;> next h => rw [h]; rfl

end RuleConfig

/-! ### What becomes of all rules -/

theorem Policy.holdFor_cons {d : Duration} {rule : Rule} {rules : List Rule} {type : String} :
    Policy.holdFor ⟨d, rule :: rules⟩ type =
      if rule.accepts type then rule.hold else Policy.holdFor ⟨d, rules⟩ type := by
  rw [Policy.holdFor, List.find?_cons]
  cases rule.accepts type <;> rfl

namespace HoldConfig

variable {c : HoldConfig} {d : UInt64} {r : RuleConfig} {rs : List RuleConfig} {rule : Rule}
  {rules : List Rule} {built : Except Failure Policy}

/-- The policy of rules that are made one after another. -/
def assembled (c : HoldConfig) : Except Failure Policy :=
  (c.rules.mapM RuleConfig.made).map fun rules ↦ ⟨.ofSeconds c.defaultSecs.toNat, rules⟩

/-- The rules as patterns with their holds. -/
def patterns (c : HoldConfig) : List (String × Duration) := c.rules.map fun r ↦ (r.pattern, r.hold)

/-- What building the policy of a configuration **comes to**. -/
inductive Builds (c : HoldConfig) : Except Failure Policy → Prop where
  /-- The first bad pattern is reported. -/
  | refused {r : RuleConfig} {reason : Option String} (first : IsFirst RuleConfig.IsBad c.rules r)
    (why : r.kind.Refuses r.pattern reason) :
    c.Builds (.error (.invalidPattern r.pattern reason))
  /-- If there is none, the first rule that covers a type decides its hold. -/
  | built {p : Policy} (good : ∀ r ∈ c.rules, ¬r.IsBad)
    (covered : ∀ type r, IsFirst (fun r ↦ r.Covers type) c.rules r →
      p.holdFor type = .ofSeconds r.holdSecs.toNat)
    (uncovered : ∀ type, (∀ r ∈ c.rules, ¬r.Covers type) →
      p.holdFor type = .ofSeconds c.defaultSecs.toNat) : c.Builds (.ok p)

theorem Builds.exists_error_iff (h : c.Builds built) :
    (∃ e, built = .error e) ↔ ∃ r ∈ c.rules, r.IsBad := by
  cases h with
  | refused first _ => exact iff_of_true ⟨_, rfl⟩ ⟨_, first.mem_and_holds⟩
  | built good _ _ =>
    refine iff_of_false ?_ fun ⟨r, hr, hbad⟩ ↦ good r hr hbad
    rintro ⟨e, he⟩
    cases he

/-- A rule in front of others decides about the types that it covers, and the others about the
rest. -/
theorem Builds.cons (hrule : r.Yields (.ok rule))
    (h : (HoldConfig.mk d rs).Builds (.ok ⟨.ofSeconds d.toNat, rules⟩)) :
    (HoldConfig.mk d (r :: rs)).Builds (.ok ⟨.ofSeconds d.toNat, rule :: rules⟩) := by
  cases hrule with
  | read hgood hhold hcovers =>
    cases h with
    | built good covered uncovered =>
      refine .built (List.forall_mem_cons.2 ⟨hgood, good⟩) (fun type r' hfirst ↦ ?_)
        fun type hnone ↦ ?_
      · rw [Policy.holdFor_cons]
        cases hfirst with
        | head h => rw [if_pos ((hcovers type).2 h), hhold, RuleConfig.hold]
        | tail hnot h => rw [if_neg (mt (hcovers type).1 hnot), covered type r' h]
      · obtain ⟨hnot, hrest⟩ := List.forall_mem_cons.1 hnone
        rw [Policy.holdFor_cons, if_neg (mt (hcovers type).1 hnot), uncovered type hrest]

/-- A good rule in front of others does not keep a bad one from being reported. -/
theorem Builds.cons_error {e : Failure} (hrule : r.Yields (.ok rule))
    (h : (HoldConfig.mk d rs).Builds (.error e)) :
    (HoldConfig.mk d (r :: rs)).Builds (.error e) := by
  cases hrule with
  | read hgood _ _ =>
    cases h with
    | refused first why => exact .refused (.tail hgood first) why

/-- **A maker that does what is configured for each rule builds what is configured.** -/
theorem builds_mapM {make : RuleConfig → Except Failure Rule}
    (hmake : ∀ r ∈ rs, r.Yields (make r)) :
    (HoldConfig.mk d rs).Builds ((rs.mapM make).map fun rules ↦ ⟨.ofSeconds d.toNat, rules⟩) := by
  induction rs with
  | nil =>
    refine .built (fun r hr ↦ absurd hr List.not_mem_nil) (fun type r hfirst ↦ ?_) fun _ _ ↦ rfl
    cases hfirst
  | cons r rs ih =>
    obtain ⟨hr, hrs⟩ := List.forall_mem_cons.1 hmake
    have ih := ih hrs
    rw [List.mapM_cons]
    generalize make r = made at hr
    cases made with
    | error e =>
      -- a failure in front is reported whatever becomes of the rules behind it
      cases hr with
      | refused h => exact .refused (.head ⟨_, h⟩) h
    | ok rule =>
      generalize rs.mapM make = rest at ih
      cases rest with
      | error e => exact .cons_error hr ih
      | ok rules => exact .cons hr ih

/-! ### The ways to build a policy -/

/-- A **way** to build the policy of a configuration. -/
inductive Way (c : HoldConfig) : Except Failure Policy → Prop where
  /-- From the holds. -/
  | policy : c.Way c.policy
  /-- As that of settings, from any configuration that has these holds. -/
  | settings {config : Config} {registered : Bool} (h : config.hold = c) :
    c.Way ((Settings.ofConfig config registered).map (·.policy))
  /-- Rule after rule, by the maker of each kind. -/
  | assembled : c.Way c.assembled
  /-- From patterns at once, if all of them are regular expressions. -/
  | patterns (h : ∀ r ∈ c.rules, r.kind = .regex) :
    c.Way (Policy.ofPatterns (.ofSeconds c.defaultSecs.toNat) c.patterns)

theorem builds_policy : c.Builds c.policy := builds_mapM fun _ _ ↦ RuleConfig.yields_compile

theorem Way.builds (h : c.Way built) : c.Builds built := by
  cases h with
  | policy => exact builds_policy
  | @settings config registered h =>
    have hpolicy : (Settings.ofConfig config registered).map (·.policy) = config.hold.policy := by
      rw [Settings.ofConfig]
      cases config.hold.policy <;> rfl
    rw [hpolicy, h]
    exact builds_policy
  | assembled =>
    refine builds_mapM fun r _ ↦ ?_
    rw [RuleConfig.made_eq_compile]
    exact RuleConfig.yields_compile
  | patterns hregex =>
    rw [Policy.ofPatterns, HoldConfig.patterns, List.mapM_map]
    refine builds_mapM fun r hr ↦ ?_
    show r.Yields (Rule.compile .regex r.pattern r.hold)
    rw [← hregex r hr]
    exact RuleConfig.yields_compile

end HoldConfig

/-! ### What follows for aggregates -/

section Aggregates

variable {k : Category} {p q : Policy} {now : Instant} {xs : List Condition}

theorem Policy.outlasted_congr {x : Condition} (h : p.holdFor x.type = q.holdFor x.type) :
    p.outlasted now x = q.outlasted now x := by
  rw [outlasted, outlasted, h]

theorem Category.escalating_congr (h : ∀ x ∈ xs, p.holdFor x.type = q.holdFor x.type) :
    k.escalating (some p) now xs = k.escalating (some q) now xs := by
  refine List.filter_congr fun x hx ↦ ?_
  rw [Policy.outlasted_congr (h x (List.mem_filter.1 hx).1)]

/-- **Policies that hold the conditions equally long aggregate them alike.** -/
theorem aggregate_eq_of_holdFor_eq (h : ∀ x ∈ xs, p.holdFor x.type = q.holdFor x.type) :
    aggregate p now xs = aggregate q now xs := by
  rw [aggregate, aggregate]
  refine List.filterMap_congr fun k _ ↦ Category.composite?_congr ?_
  rw [Category.policyFor, Category.policyFor]
  split
  · exact Category.escalating_congr fun x hx ↦ h x (Grouped.mem_get_iff.1 hx).1
  · rfl

/-- Two ways of building a policy **agree**: they fail alike, or their policies hold every condition
type equally long, and so aggregate any conditions alike at any time. -/
inductive Policy.Agree : Except Failure Policy → Except Failure Policy → Prop where
  /-- Both report the same pattern. -/
  | refused {pattern : String} {reason : Option String} :
    Agree (.error (.invalidPattern pattern reason)) (.error (.invalidPattern pattern reason))
  /-- Both give a policy. -/
  | built {p q : Policy} (holdFor : ∀ type, p.holdFor type = q.holdFor type)
    (aggregate : ∀ now xs, aggregate p now xs = aggregate q now xs) : Agree (.ok p) (.ok q)

end Aggregates

/-- **What a configuration builds is determined by the configuration.** -/
theorem HoldConfig.Builds.agree {c : HoldConfig} {a b : Except Failure Policy} (ha : c.Builds a)
    (hb : c.Builds b) : Policy.Agree a b := by
  cases ha with
  | refused first why =>
    cases hb with
    | refused first' why' =>
      obtain rfl := first.unique first'
      obtain rfl := why.unique why'
      exact .refused
    | built good _ _ =>
      obtain ⟨hr, hbad⟩ := first.mem_and_holds
      exact absurd hbad (good _ hr)
  | @built p good covered uncovered =>
    cases hb with
    | refused first _ =>
      obtain ⟨hr, hbad⟩ := first.mem_and_holds
      exact absurd hbad (good _ hr)
    | @built q _ covered' uncovered' =>
      have hhold (type : String) : p.holdFor type = q.holdFor type := by
        by_cases hany : ∃ r ∈ c.rules, r.Covers type
        · obtain ⟨r, hr, hcovers⟩ := hany
          obtain ⟨first, hfirst⟩ := IsFirst.exists_of_mem (p := fun r ↦ r.Covers type) hr hcovers
          rw [covered type first hfirst, covered' type first hfirst]
        · have hnone : ∀ r ∈ c.rules, ¬r.Covers type := fun r hr hcovers ↦ hany ⟨r, hr, hcovers⟩
          rw [uncovered type hnone, uncovered' type hnone]
      exact .built hhold fun now xs ↦ aggregate_eq_of_holdFor_eq fun x _ ↦ hhold x.type

/-- **All ways of building a policy agree.** Whichever way the policy of a configuration is built:
it fails exactly if some pattern cannot be read, and then reports the first one; otherwise the first
rule that covers a condition type decides its hold, and the default does if no rule covers it. So
any two ways fail alike or give policies under which any conditions come to the same at any time. -/
theorem HoldConfig.ways_agree (c : HoldConfig) (built : Except Failure Policy) (h : c.Way built) :
    c.Builds built ∧ ((∃ e, built = .error e) ↔ ∃ r ∈ c.rules, r.IsBad) ∧
      ∀ other, c.Way other → Policy.Agree built other :=
  ⟨h.builds, h.builds.exists_error_iff, fun _ hother ↦ h.builds.agree hother.builds⟩

/-- Two regular expressions that both match a type, of which the first one decides, whether they
come as rules or as patterns at once. A parenthesis is fine as an exact pattern; of the bad patterns
after it, a glob and a regular expression, the glob is reported, also by the settings. -/
theorem HoldConfig.ways_agree_overlapping :
    let c : HoldConfig := ⟨120, [⟨"^Disk", 300, .regex⟩, ⟨"Degraded", 60, .regex⟩]⟩
    let bad : HoldConfig := ⟨120, [⟨"(", 1, .exact⟩, ⟨"Disk[", 2, .glob⟩, ⟨"(", 3, .regex⟩]⟩
    (∃ p q, c.policy = .ok p ∧ p.holdFor "DiskDegraded" = .ofSeconds 300 ∧
      Policy.ofPatterns (.ofSeconds 120)
        [("^Disk", .ofSeconds 300), ("Degraded", .ofSeconds 60)] = .ok q ∧
      q.holdFor "DiskDegraded" = .ofSeconds 300) ∧
    ∃ reason, bad.assembled = .error (.invalidPattern "Disk[" reason) ∧
      (Settings.ofConfig { Config.default with hold := bad } true).map (·.policy) =
        .error (.invalidPattern "Disk[" reason) := by
  intro c bad
  constructor
  · obtain ⟨hbuilds, -, hagree⟩ := HoldConfig.ways_agree c c.policy .policy
    have hother : Policy.Agree c.policy (Policy.ofPatterns (.ofSeconds 120)
        [("^Disk", .ofSeconds 300), ("Degraded", .ofSeconds 60)]) :=
      hagree _ (.patterns (by decide))
    obtain ⟨r, hr, hmatch⟩ := Option.map_eq_some_iff.1
      (show (Regex.compile? "^Disk").map (·.occursIn "DiskDegraded") = some true by decide +kernel)
    have hfirst : IsFirst (fun r : RuleConfig ↦ r.Covers "DiskDegraded") c.rules
        ⟨"^Disk", 300, .regex⟩ := .head (.regex hr hmatch)
    have hok : c.policy.isOk = true := by decide +kernel
    generalize c.policy = built at hbuilds hother hok ⊢
    generalize Policy.ofPatterns _ _ = other at hother ⊢
    cases hother with
    | refused => cases hok
    | @built p q hhold _ =>
      cases hbuilds with
      | built _ covered _ =>
        have h := covered _ _ hfirst
        exact ⟨p, q, rfl, h, rfl, (hhold _).symm.trans h⟩
  · obtain ⟨hbuilds, hfails, hagree⟩ := HoldConfig.ways_agree bad bad.assembled .assembled
    have hother : Policy.Agree bad.assembled
        ((Settings.ofConfig { Config.default with hold := bad } true).map (·.policy)) :=
      hagree _ (.settings rfl)
    have hfirst : IsFirst RuleConfig.IsBad bad.rules ⟨"Disk[", 2, .glob⟩ := by
      have hparse : Glob.parse "Disk[" = .error .unclosedClass := by rfl
      refine .tail ?_ (.head ⟨_, .glob hparse⟩)
      rintro ⟨reason, h⟩
      cases h
    obtain ⟨e, he⟩ := hfails.2 ⟨_, hfirst.mem_and_holds⟩
    rw [he] at hbuilds hother ⊢
    generalize Except.map _ _ = other at hother ⊢
    cases hbuilds with
    | refused first _ =>
      obtain rfl := first.unique hfirst
      cases hother with
      | refused => exact ⟨_, rfl, rfl⟩

end StatusRollup
