import StatusRollup.Text.Quoted

/-!
# Failures

What can go wrong: a pattern that cannot be read, a write that was overtaken by another one, a
record that is missing or already there, and collaborators that do not answer. Only overtaken writes
are worth another attempt (`Failure.isConflict`).
-/

namespace StatusRollup

/-- What went wrong. -/
inductive Failure where
  /-- A pattern cannot be read; the reason is given where the kind of pattern tells it. -/
  | invalidPattern (pattern : String) (reason : Option String)
  /-- A write for one version of a record met another one. -/
  | conflict (name : String) (expected actual : UInt64)
  /-- There is no record of this name. -/
  | recordNotFound (name : String)
  /-- There already is a record of this name. -/
  | alreadyExists (name : String)
  /-- The conditions cannot be had. -/
  | sourceUnavailable (cause : String)
  /-- The records cannot be reached. -/
  | sinkUnavailable (cause : String)
  /-- Every attempt to write the record was overtaken. -/
  | retriesExhausted (name : String) (attempts : Nat)
  /-- The configuration cannot be used. -/
  | configuration (cause : String)
  deriving DecidableEq

namespace Failure

/-- What went wrong, in words. -/
def message : Failure → String
  | invalidPattern pattern none => "invalid condition type pattern " ++ Text.quoted pattern
  | invalidPattern pattern (some reason) =>
    "invalid condition type pattern " ++ Text.quoted pattern ++ ": " ++ reason
  | conflict name expected actual =>
    "conflict writing record " ++ name ++ ": expected version " ++ toString expected ++
      ", found " ++ toString actual
  | recordNotFound name => "status record not found: " ++ name
  | alreadyExists name => "status record already exists: " ++ name
  | sourceUnavailable cause => "condition source unavailable: " ++ cause
  | sinkUnavailable cause => "status sink unavailable: " ++ cause
  | retriesExhausted name attempts =>
    "gave up writing record " ++ name ++ " after " ++ toString attempts ++ " attempts"
  | configuration cause => "configuration error: " ++ cause

/-- Another write came first, so a fresh read may help. -/
def isConflict : Failure → Bool
  | conflict .. => true
  | alreadyExists _ => true
  | _ => false

end Failure

end StatusRollup
