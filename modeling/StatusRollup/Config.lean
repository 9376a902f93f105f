import StatusRollup.Settings

/-!
# Configurations

A configuration is plain data: the name of the record, the holds of failing conditions, the
configured related objects, and how passes and their log behave. Every part has a default.

`HoldConfig.policy` reads the patterns of the rules, the first bad one being reported, and
`Settings.ofConfig` makes settings of a whole configuration.
-/

namespace StatusRollup

/-- A rule for the hold of some condition types. -/
structure RuleConfig where
  /-- The pattern of the condition types. -/
  pattern : String
  /-- Their hold in seconds. -/
  holdSecs : UInt64
  /-- How the pattern is read. -/
  kind : PatternKind
  deriving DecidableEq

namespace RuleConfig

/-- The kind of a rule that does not give one. -/
def defaultKind : PatternKind := .regex

/-- The rule with its pattern read. -/
def rule (c : RuleConfig) : Except Failure Rule :=
  Rule.compile c.kind c.pattern (.ofSeconds c.holdSecs.toNat)

end RuleConfig

/-- The holds of failing conditions. -/
structure HoldConfig where
  /-- The hold without a rule, in seconds. -/
  defaultSecs : UInt64
  /-- The rules, of which the first that accepts a type decides. -/
  rules : List RuleConfig
  deriving DecidableEq

namespace HoldConfig

/-- Two minutes for everything. -/
def default : HoldConfig := ⟨120, []⟩

/-- The policy, with the pattern of every rule read. -/
def policy (c : HoldConfig) : Except Failure Policy :=
  (c.rules.mapM RuleConfig.rule).map fun rules ↦ ⟨.ofSeconds c.defaultSecs.toNat, rules⟩

end HoldConfig

/-- How passes behave. -/
structure SyncConfig where
  /-- How many times an overtaken write is tried again. -/
  maxRetries : UInt32
  /-- Events are published. -/
  emits : Bool
  deriving DecidableEq

/-- Five retries, events published. -/
def SyncConfig.default : SyncConfig := ⟨5, true⟩

/-- How the log behaves. -/
structure LogConfig where
  /-- What is logged when nothing else says so. -/
  level : String
  deriving DecidableEq

/-- Information and what is more urgent. -/
def LogConfig.default : LogConfig := ⟨"info"⟩

/-- A configuration. -/
structure Config where
  /-- The name of the record. -/
  recordName : String
  /-- The holds of failing conditions. -/
  hold : HoldConfig
  /-- The configured related objects. -/
  related : List ObjectRef
  /-- How passes behave. -/
  sync : SyncConfig
  /-- How the log behaves. -/
  logging : LogConfig
  deriving DecidableEq

namespace Config

/-- The name of the record if none is given. -/
def defaultName : String := "operator"

/-- The configuration in which nothing is given. -/
def default : Config := ⟨defaultName, .default, [], .default, .default⟩

end Config

/-- Settings out of a configuration. -/
def Settings.ofConfig (c : Config) (registered : Bool) : Except Failure Settings :=
  c.hold.policy.map fun policy ↦
    { name := c.recordName
      policy
      fixed := c.related
      registered
      maxRetries := c.sync.maxRetries
      emits := c.sync.emits }

end StatusRollup
