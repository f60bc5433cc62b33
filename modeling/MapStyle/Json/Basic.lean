import MapStyle.Number.Binary64

/-!
# JSON values

A value keeps whether a number was written as a whole number or as a double. Objects list their
members by ascending key, each key once; `insertMember` keeps a list of members that way.
-/

namespace MapStyle

/-- A value without parts. -/
inductive Scalar
  | null
  | bool (value : Bool)
  | int (value : Int)
  | float (value : Binary64)
  | string (value : String)
  deriving DecidableEq

/-- A JSON value. -/
inductive Json
  | scalar (value : Scalar)
  | array (items : List Json)
  | object (members : List (String × Json))

/-- Equality of values without parts: doubles compare as numbers, and never equal a whole number. -/
def Scalar.same : Scalar → Scalar → Bool
  | .null, .null => true
  | .bool a, .bool b => a == b
  | .int a, .int b => a == b
  | .float a, .float b => a.same b
  | .string a, .string b => a == b
  | _, _ => false

namespace Json

/-- The value that stands for something unset. -/
abbrev null : Json := .scalar .null

/-- A text as a value. -/
abbrev string (s : String) : Json := .scalar (.string s)

/-- A truth value as a value. -/
abbrev bool (b : Bool) : Json := .scalar (.bool b)

/-- A count or index as a value. -/
abbrev nat (n : Nat) : Json := .scalar (.int n)

/-- A double as a value; the numbers JSON cannot write become null. -/
def number (x : Binary64) : Json := if x.isFinite then .scalar (.float x) else null

/-- A value that may be unset. -/
def optional {α : Type} (write : α → Json) : Option α → Json
  | none => null
  | some a => write a

/-- The member with this key. -/
def member? (key : String) (members : List (String × Json)) : Option Json :=
  (members.find? (·.1 == key)).map (·.2)

/-- The value under a key of an object. -/
def get? (key : String) : Json → Option Json
  | .object members => member? key members
  | _ => none

/-- The order of keys: by code points, from the first on. -/
def keyBefore : List Char → List Char → Bool
  | _, [] => false
  | [], _ :: _ => true
  | c :: cs, d :: ds => if c = d then keyBefore cs ds else c.toNat < d.toNat

/-- Adds a member at its place; an earlier value of the same key is replaced. -/
def insertMember (key : String) (value : Json) : List (String × Json) → List (String × Json)
  | [] => [(key, value)]
  | (k, v) :: rest =>
    if key = k then (key, value) :: rest
    else if keyBefore key.toList k.toList then (key, value) :: (k, v) :: rest
    else (k, v) :: insertMember key value rest

mutual
/-- Equality of values, with doubles compared as numbers. -/
def same : Json → Json → Bool
  | .scalar a, .scalar b => a.same b
  | .array xs, .array ys => sameItems xs ys
  | .object xs, .object ys => sameMembers xs ys
  | _, _ => false

/-- Equality of lists of values. -/
def sameItems : List Json → List Json → Bool
  | [], [] => true
  | x :: xs, y :: ys => same x y && sameItems xs ys
  | _, _ => false

/-- Equality of members. -/
def sameMembers : List (String × Json) → List (String × Json) → Bool
  | [], [] => true
  | (k, x) :: xs, (l, y) :: ys => k == l && same x y && sameMembers xs ys
  | _, _ => false
end

instance : BEq Json := ⟨same⟩

end Json

end MapStyle
