import MapStyle.Filter.Basic
import MapStyle.Json.Decode

/-!
# Conditions as JSON

A condition is an object whose only key names its kind and whose value holds its parts, all of which
must be there. An operator is its name, or an object with the name as only key and null as value.
-/

namespace MapStyle.Filter

open Json

/-- The name of a variant, and its content if it has one. -/
def variant? : Json → Except Fault (String × Option Json)
  | .scalar (.string name) => .ok (name, none)
  | .object [(name, content)] => .ok (name, some content)
  | .object _ => .error .notSingleKey
  | other => .error ((Json.shape other).mismatch "string or map")

/-- Reads an operator (`Deserialize` of `ComparisonOperator`). -/
def Operator.ofJson (json : Json) : Except Fault Operator := do
  let (name, content) ← variant? json
  match Operator.all.find? (·.name == name) with
  | none => throw (.unknownVariant name (Operator.all.map Operator.name))
  | some operator =>
    match content with
    | none | some (.scalar .null) => pure operator
    | some other => throw ((Json.shape other).mismatch "unit")

/-- The parts of a comparison. -/
structure ComparisonParts where
  operator : Operator
  property : String
  literal : String

/-- The parts of a pattern match. -/
structure LikeParts where
  property : String
  pattern : String

/-- The fields of a comparison. -/
def ComparisonParts.format : RecordFormat Json ComparisonParts where
  name := "Comparison"
  empty := ⟨.equalTo, "", ""⟩
  fields := [
    field "operator" Operator.ofJson fun r v => { r with operator := v },
    field "property" readText fun r v => { r with property := v },
    field "literal" readText fun r v => { r with literal := v }]
  required := ["operator", "property", "literal"]

/-- The fields of a pattern match. -/
def LikeParts.format : RecordFormat Json LikeParts where
  name := "Like"
  empty := ⟨"", ""⟩
  fields := [
    field "property" readText fun r v => { r with property := v },
    field "pattern" readText fun r v => { r with pattern := v }]
  required := ["property", "pattern"]

/-- Reads the content of a variant, which must be an object. -/
def readContent {α : Type} (format : RecordFormat Json α) : Option Json → Except Fault α
  | none => .error (.mismatch .unitVariant "struct variant")
  | some (.object members) => format.read (.object members)
  | some other => .error ((Json.shape other).mismatch "struct variant")

/-- Reads a condition (`Deserialize` of `FilterCondition`). -/
def Condition.ofJson (json : Json) : Except Fault Condition := do
  let (name, content) ← variant? json
  if name = "Comparison" then
    let parts ← readContent ComparisonParts.format content
    pure (.comparison parts.operator parts.property parts.literal)
  else if name = "Like" then
    let parts ← readContent LikeParts.format content
    pure (.like parts.property parts.pattern)
  else throw (.unknownVariant name ["Comparison", "Like"])

/-- The snapshot of a condition (`Serialize` of `FilterCondition`). -/
def Condition.toJson : Condition → Json
  | .comparison operator property literal =>
    .object [("Comparison", .object [
      ("literal", .string literal), ("operator", .string operator.name),
      ("property", .string property)])]
  | .like property pattern =>
    .object [("Like", .object [("pattern", .string pattern), ("property", .string property)])]

end MapStyle.Filter
