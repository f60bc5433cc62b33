import MapStyle.Json.Term
import MapStyle.Number.Spelling
import MapStyle.Text.Quoted

/-!
# Decoding

How typed values are read from JSON. The same readers work on a value and on the term of a text:
both are a `Source`, which shows its outermost shape and the sources inside. Decoding stops at the
first fault, and a `Fault` is its cause.

A record is read from an object by its keys or from an array by the order of its fields. Unknown
keys are passed over, and a field that is missing keeps what the empty record has.
-/

namespace MapStyle.Json

/-! ## Faults -/

/-- What was found where something else was wanted. -/
inductive Found
  | scalar (value : Scalar)
  | sequence
  | map
  | unitVariant

/-- Why decoding failed. -/
inductive Fault
  | mismatch (found : Found) (wanted : String)
  | missingField (name : String)
  | duplicateField (name : String)
  | unknownVariant (name : String) (known : List String)
  /-- An array of this length has more items than the record has fields. -/
  | surplusItems (length : Nat)
  /-- An array of this length has fewer items than the record must have. -/
  | lackingItems (length : Nat) (record : String) (fields : Nat)
  /-- A variant needs an object with exactly one key. -/
  | notSingleKey
  | untypedSymbolizer
  | inSymbolizer (kind : String) (fault : Fault)
  /-- The text is not JSON. -/
  | malformed

/-- How a message names what was found. -/
def Found.describe : Found → String
  | .scalar .null => "null"
  | .scalar (.bool value) => if value then "boolean `true`" else "boolean `false`"
  | .scalar (.int n) => "integer `" ++ toString n ++ "`"
  | .scalar (.float x) => "floating point `" ++ x.snapshotText ++ "`"
  | .scalar (.string s) => "string " ++ Text.quoted s
  | .sequence => "sequence"
  | .map => "map"
  | .unitVariant => "unit variant"

/-- A name in a message. -/
def ticked (name : String) : String := "`" ++ name ++ "`"

/-- How a message lists the names that would do. -/
def expectedNames : List String → String
  | [a, b] => "expected " ++ ticked a ++ " or " ++ ticked b
  | names => "expected one of " ++ ", ".intercalate (names.map ticked)

/-- The message of a fault. -/
def Fault.message : Fault → String
  | .mismatch found wanted => "invalid type: " ++ found.describe ++ ", expected " ++ wanted
  | .missingField name => "missing field " ++ ticked name
  | .duplicateField name => "duplicate field " ++ ticked name
  | .unknownVariant name known => "unknown variant " ++ ticked name ++ ", " ++ expectedNames known
  | .surplusItems length =>
    "invalid length " ++ toString length ++ ", expected fewer elements in array"
  | .lackingItems length record fields =>
    "invalid length " ++ toString length ++ ", expected struct " ++ record ++ " with " ++
      toString fields ++ " elements"
  | .notSingleKey => "invalid value: map, expected map with a single key"
  | .untypedSymbolizer => "symbolizer is missing its `type` field"
  | .inSymbolizer kind fault => "invalid " ++ kind ++ " symbolizer: " ++ fault.message
  | .malformed => "not well-formed JSON"

/-! ## Sources -/

/-- The outermost shape of a source. An open array or object is followed by a fault of the text
    where its end should be. -/
inductive Shape (σ : Type)
  | scalar (value : Scalar)
  | array (items : List σ) (closed : Bool)
  | object (members : List (String × σ)) (closed : Bool)
  | malformed

/-- What typed values can be decoded from. -/
class Source (σ : Type) where
  /-- The outermost shape. -/
  shape : σ → Shape σ
  /-- Whether the source may be passed over unread. -/
  passable : σ → Bool
  /-- The source as a value of its own. -/
  value? : σ → Option Json
  /-- The fault of an array with more items than a record has fields. -/
  surplus : Nat → Fault

/-- The shape of a value. -/
def shape : Json → Shape Json
  | .scalar v => .scalar v
  | .array items => .array items true
  | .object members => .object members true

instance : Source Json where
  shape := shape
  passable _ := true
  value? := some
  surplus := .surplusItems

/-- The members of a term up to the first key that is no text, and whether that is all. -/
def Term.readableMembers : List (Option String × Term) → List (String × Term) × Bool
  | [] => ([], true)
  | (none, _) :: _ => ([], false)
  | (some key, value) :: rest =>
    ((key, value) :: (readableMembers rest).1, (readableMembers rest).2)

/-- The shape of a term. -/
def Term.shape : Term → Shape Term
  | .scalar none => .malformed
  | .scalar (some v) => .scalar v
  | .array items closed => .array items closed
  | .object members closed =>
    .object (readableMembers members).1 (closed && (readableMembers members).2)
  | .broken => .malformed

/-- How deep a symbolizer may nest in the text of a style, where it stands inside five arrays and
    objects. -/
def symbolizerNesting : Nat := nestingLimit - 5

instance : Source Term where
  shape := Term.shape
  passable := Term.wellFormed
  value? := Term.value? symbolizerNesting
  surplus _ := .malformed

/-! ## Readers -/

/-- A way to decode values of a type. -/
abbrev Reader (σ α : Type) := σ → Except Fault α

/-- The fault of a shape where something else was wanted. -/
def Shape.mismatch {σ : Type} (wanted : String) : Shape σ → Fault
  | .scalar v => .mismatch (.scalar v) wanted
  | .array _ _ => .mismatch .sequence wanted
  | .object _ _ => .mismatch .map wanted
  | .malformed => .malformed

variable {σ α : Type} [Source σ]

/-- Reads a text. -/
def readText : Reader σ String := fun source =>
  match Source.shape source with
  | .scalar (.string s) => .ok s
  | other => .error (other.mismatch "a string")

/-- Reads a number; a whole number is rounded to a double. -/
def readNumber : Reader σ Binary64 := fun source =>
  match Source.shape source with
  | .scalar (.int n) => .ok (.ofInt n)
  | .scalar (.float x) => .ok x
  | other => .error (other.mismatch "f64")

/-- Reads a truth value. -/
def readFlag : Reader σ Bool := fun source =>
  match Source.shape source with
  | .scalar (.bool value) => .ok value
  | other => .error (other.mismatch "a boolean")

/-- Reads what may be null. -/
def readOptional (read : Reader σ α) : Reader σ (Option α) := fun source =>
  match Source.shape source with
  | .scalar .null => .ok none
  | _ => (read source).map some

/-- Reads the items of a list in order. -/
def readItems (read : Reader σ α) : List σ → Except Fault (List α)
  | [] => .ok []
  | item :: rest => do
    let a ← read item
    let as ← readItems read rest
    pure (a :: as)

/-- Reads a list. -/
def readList (read : Reader σ α) : Reader σ (List α) := fun source =>
  match Source.shape source with
  | .array items closed => do
    let as ← readItems read items
    if closed then pure as else throw .malformed
  | other => .error (other.mismatch "a sequence")

/-! ## Records -/

/-- A field of a record. -/
structure Field (σ α : Type) where
  name : String
  /-- Reads the field's value and puts it into the record. -/
  read : α → Reader σ α

/-- A field from a reader of its type and a setter. -/
def field {β : Type} (name : String) (read : Reader σ β) (set : α → β → α) : Field σ α :=
  ⟨name, fun record source => (read source).map (set record)⟩

/-- A field that may be null. -/
def optionalField {β : Type} (name : String) (read : Reader σ β) (set : α → Option β → α) :
    Field σ α :=
  field name (readOptional read) set

/-- How a record is decoded. -/
structure RecordFormat (σ α : Type) where
  name : String
  /-- The record with every field missing. -/
  empty : α
  /-- The fields in the order in which an array lists them. -/
  fields : List (Field σ α)
  /-- The fields that must not be missing. A record that has any is read from an array only if all
      fields are there. -/
  required : List String

/-- Reads members in order. `seen` holds the names of the fields already read. -/
def readMembers (fields : List (Field σ α)) (record : α) (seen : List String) :
    List (String × σ) → Except Fault (α × List String)
  | [] => .ok (record, seen)
  | (key, source) :: rest =>
    match fields.find? (·.name == key) with
    | none =>
      if Source.passable source then readMembers fields record seen rest else .error .malformed
    | some f =>
      if seen.contains key then .error (.duplicateField key)
      else do
        let record ← f.read record source
        readMembers fields record (key :: seen) rest

/-- Reads fields from the items of an array; also tells whether items or fields are left over. -/
def readPositions (record : α) :
    List (Field σ α) → List σ → Except Fault (α × Ordering)
  | [], [] => .ok (record, .eq)
  | [], _ :: _ => .ok (record, .gt)
  | _ :: _, [] => .ok (record, .lt)
  | f :: fields, source :: rest => do
    let record ← f.read record source
    readPositions record fields rest

/-- Reads a record. -/
def RecordFormat.read (format : RecordFormat σ α) : Reader σ α := fun source =>
  match Source.shape source with
  | .object members closed => do
    let (record, seen) ← readMembers format.fields format.empty [] members
    if !closed then throw .malformed
    match format.required.find? (!seen.contains ·) with
    | some name => throw (.missingField name)
    | none => pure record
  | .array items closed => do
    let (record, left) ← readPositions format.empty format.fields items
    if !closed then throw .malformed
    match left with
    | .eq => pure record
    | .gt => throw (Source.surplus σ items.length)
    | .lt =>
      if format.required.isEmpty then pure record
      else throw (.lackingItems items.length format.name format.fields.length)
  | other => .error (other.mismatch ("struct " ++ format.name))

/-- Decodes what a text holds, which nothing may follow. -/
def decodeText (read : Reader Term α) (text : String) : Except Fault α :=
  match Term.ofText text with
  | (term, alone) => do
    let a ← read term
    if alone then pure a else throw .malformed

end MapStyle.Json
