import StatusRollup.Config.Numeral
import StatusRollup.Config.Path
import StatusRollup.Config.Read
import StatusRollup.Json.Reader

/-!
# Loading a configuration

A configuration is loaded from three layers, each of which wins over those before it: the defaults,
a file and the environment.

* The file is looked up under its name, if that ends in `.json`, and otherwise under its name with
  `.json` appended. Without a file the layer is empty; a file that is not one JSON object is an
  error. Its keys are paths.
* A variable belongs to the environment layer if its name starts with `OPSTATUS_` in any case. Two
  underscores in the rest of the name separate the names of a path.
* The text of a variable is read as a truth value, an integer or a number, and stays a text
  otherwise.
-/

namespace StatusRollup

namespace Config

/-- The layer of defaults. Lists that are empty by default are left out of it. -/
def defaultLayer : List (String × Value) :=
  [("record_name", .str default.recordName),
    ("inertia", .table [("default_hold_secs", .int default.hold.defaultSecs.toNat)]),
    ("sync", .table [("max_conflict_retries", .int default.sync.maxRetries.toNat),
      ("emit_events", .bool default.sync.emits)]),
    ("logging", .table [("level", .str default.logging.level)])]

/-! ### The file -/

/-- The name of a file and its content. -/
structure FileSource where
  /-- The name. -/
  name : String
  /-- The content. -/
  content : String

/-- The extension of a file name: what follows its last point, unless that is its first
character. -/
def extension? (name : String) : Option String :=
  let cs := name.toList
  let ext := (cs.reverse.takeWhile (· ≠ '.')).reverse
  if ext.length + 1 < cs.length then some (String.ofList ext) else none

/-- The only file there is counts as the one asked for. Only JSON is modelled, so a file of any
other format counts as absent. -/
def isFound (requested : String) (file : FileSource) : Bool :=
  if requested = file.name then extension? requested == some "json"
  else requested ≠ "" && requested ++ ".json" == file.name

/-- The deepest nesting of a file. -/
def maxDepth : Nat := 127

/-- The layer of a file's content, after a byte order mark. -/
def fileLayer? (content : String) : Option (List (String × Value)) := do
  let text := match content.toList with
    | '\ufeff' :: rest => String.ofList rest
    | _ => content
  let json ← Json.read? text
  if maxDepth < json.depth then none
  else
    match ← Value.ofJson? json with
    | .table fields => some fields
    | _ => none

/-! ### The environment -/

/-- What the names of variables start with, in lower case. -/
def envPrefix : List Char := "opstatus_".toList

/-- Replaces two underscores by a point, from the left. -/
def dotted : List Char → List Char
  | '_' :: '_' :: rest => '.' :: dotted rest
  | c :: rest => c :: dotted rest
  | [] => []

/-- The path that a variable's name stands for, if it belongs to the layer. -/
def envPath? (name : String) : Option String :=
  let cs := (Value.lowerKey name).toList
  if envPrefix.isPrefixOf cs then some (String.ofList (dotted (cs.drop envPrefix.length)))
  else none

/-- An integer of 64 bits, with or without a sign. -/
def readInt? (s : String) : Option Int :=
  let (negative, ds) := match s.toList with
    | '-' :: rest => (true, rest)
    | '+' :: rest => (false, rest)
    | cs => (false, cs)
  let n : Int := Text.valueOf ds
  let value := if negative then -n else n
  if ds.isEmpty ∨ !ds.all Char.isDigit ∨ value < Int64.minValue.toInt ∨
      Int64.maxValue.toInt < value then none
  else some value

/-- The value of a variable. -/
def envValue (s : String) : Value :=
  match Value.lower s with
  | "true" => .bool true
  | "false" => .bool false
  | _ =>
    match readInt? s with
    | some n => .int n
    | none => ((Binary64.read? s).map .float).getD (.str s)

/-- The layer of the environment. -/
def envLayer (env : List (String × String)) : List (String × Value) :=
  env.filterMap fun (name, value) ↦ (envPath? name).map fun path ↦ (path, envValue value)

/-! ### All layers -/

/-- The layers merged. -/
def merge (layers : List (List (String × Value))) : Value :=
  layers.foldl Value.setAll (.table [])

/-- The layer of an optional file that is asked for by name. -/
def optionalFileLayer (file : Option (String × FileSource)) :
    Except Failure (List (String × Value)) :=
  match file with
  | none => .ok []
  | some (requested, source) =>
    if isFound requested source then
      match fileLayer? source.content with
      | some layer => .ok layer
      | none => .error (.configuration "the file is not a JSON object")
    else
      .ok []

/-- Loads a configuration from an optional file that is asked for by name and the environment. -/
def load (file : Option (String × FileSource)) (env : List (String × String)) :
    Except Failure Config :=
  match optionalFileLayer file with
  | .error e => .error e
  | .ok layer =>
    match ofValue? (merge [defaultLayer, layer, envLayer env]) with
    | some c => .ok c
    | none => .error (.configuration "a setting has no value of its type")

end Config

end StatusRollup
