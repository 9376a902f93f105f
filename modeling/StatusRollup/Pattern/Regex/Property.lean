import StatusRollup.Pattern.Regex.Syntax
import StatusRollup.Unicode.Age
import StatusRollup.Unicode.Property
import StatusRollup.Unicode.Script

/-!
# Properties by name

The sets that the properties in a pattern stand for. Names are compared loosely: case, spaces,
hyphens, underscores and a leading `is` do not count.

* A name alone is a binary property, a general category or a script, looked up in this order; three
  short names that could be either are categories.
* A name with a value is a general category, a script, the scripts that use a character, or the
  version that gave it a meaning.
-/

namespace StatusRollup.Pattern.Regex

namespace Property

/-- A name without what does not count in it. -/
def normalize (name : String) : String :=
  let cs := name.toList
  let isPrefixed := (cs.take 2).map Char.toLower == ['i', 's']
  let kept := (if isPrefixed then cs.drop 2 else cs).filter fun c ↦
    c != ' ' && c != '_' && c != '-' && c.toNat < 128
  let word := String.ofList (kept.map Char.toLower)
  if isPrefixed && word == "c" then "isc" else word

/-- The general category of a name, or one of the sets that go by such names. There is no set of
surrogates, because no text contains one. -/
def category? (name : String) : Option CodeSet :=
  match name with
  | "any" => some .all
  | "ascii" => some ⟨[(0, 127)]⟩
  | "assigned" => some (Unicode.ofCategory "Cn").compl
  | "cs" | "surrogate" => none
  | _ => (Unicode.categoryNames.lookup name).map Unicode.ofCategory

/-- The script of a name. -/
def script? (name : String) : Option CodeSet :=
  (Unicode.scriptNames.lookup name).map Unicode.ofScript

/-- The characters that had a meaning in a version, written as `x.y` or `vxy`. -/
def age? (name : String) : Option CodeSet :=
  let version := Unicode.versions.find? fun v ↦
    v.1 == name || "v" ++ String.ofList (v.1.toList.filter (· ≠ '.')) == name
  version.map fun v ↦ Unicode.ofAge v.2

/-- The set that a property stands for, if there is such a property. -/
def resolve? : Property → Option CodeSet
  | named name =>
    let name := normalize name
    let binary :=
      if ["cf", "sc", "lc"].contains name then none else Unicode.binaryProperty? name
    binary.or ((category? name).or (script? name))
  | valued name value =>
    let value := normalize value
    match normalize name with
    | "gc" | "generalcategory" => category? value
    | "sc" | "script" => script? value
    | "scx" | "scriptextensions" =>
      (Unicode.scriptNames.lookup value).map Unicode.ofScriptExtended
    | "age" => age? value
    | _ => none

end Property

end StatusRollup.Pattern.Regex
