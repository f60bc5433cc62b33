import MapStyle.Json.Token

/-!
# JSON text as a tree

A term is the tree of a JSON text in the order of the text, faults included: keys may repeat, a
part may be broken, and an array or object may be cut short by what follows its last part. A reader
that walks a term therefore meets a fault of the text exactly where the text has it, and may stop
before for a reason of its own. `Term.value?` turns a faultless term into a value.
-/

namespace MapStyle.Json

/-- A JSON text, or the part of one up to its first fault. -/
inductive Term
  /-- A scalar, with its value if it has one. -/
  | scalar (value : Option Scalar)
  /-- Items, and whether the closing bracket follows them. -/
  | array (items : List Term) (closed : Bool)
  /-- Members with their keys as far as those are texts, and whether the closing brace follows. -/
  | object (members : List (Option String × Term)) (closed : Bool)
  /-- No value begins here. -/
  | broken

namespace Term

/-! ## Reading tokens -/

/-- An array or object that is still open, with its finished parts in reverse. -/
inductive Frame
  | array (items : List Term)
  /-- The last key waits for its value. -/
  | object (members : List (Option String × Term)) (key : Option String)

/-- What may come next. -/
inductive Place
  /-- A value. -/
  | value
  /-- The first item of an array, or its end. -/
  | firstItem
  /-- The first key of an object, or its end. -/
  | firstKey
  /-- A key behind a comma, with the members so far in reverse. -/
  | key (members : List (Option String × Term))
  /-- The colon behind a key. -/
  | colon (members : List (Option String × Term)) (key : Option String)
  /-- What follows a finished value. -/
  | behind (term : Term)

/-- The open part with a last value, cut short. -/
def Frame.cut : Frame → Term → Term
  | .array items, last => .array (last :: items).reverse false
  | .object members key, last => .object ((key, last) :: members).reverse false

/-- What has been read at a place when a fault comes up there. -/
def Place.unfinished : Place → Term
  | .value => .broken
  | .firstItem => .array [] false
  | .firstKey => .object [] false
  | .key members => .object members.reverse false
  | .colon members waiting => .object ((waiting, .broken) :: members).reverse false
  | .behind term => term

/-- The tree when a fault comes up at a place; every open part is cut short. -/
def cutAt (place : Place) (frames : List Frame) : Term :=
  frames.foldl (fun term frame => frame.cut term) place.unfinished

/-- The place and the open parts behind a token that may come at a place. -/
def advance (place : Place) (frames : List Frame) (token : Token) :
    Option (Place × List Frame) :=
  match place, token, frames with
  | .value, .scalar v, _ => some (.behind (.scalar v), frames)
  | .value, .text s, _ => some (.behind (.scalar (s.map .string)), frames)
  | .value, .openArray, _ => some (.firstItem, frames)
  | .value, .openObject, _ => some (.firstKey, frames)
  | .firstItem, .closeArray, _ => some (.behind (.array [] true), frames)
  | .firstItem, .scalar v, _ => some (.behind (.scalar v), .array [] :: frames)
  | .firstItem, .text s, _ => some (.behind (.scalar (s.map .string)), .array [] :: frames)
  | .firstItem, .openArray, _ => some (.firstItem, .array [] :: frames)
  | .firstItem, .openObject, _ => some (.firstKey, .array [] :: frames)
  | .firstKey, .closeObject, _ => some (.behind (.object [] true), frames)
  | .firstKey, .text key, _ => some (.colon [] key, frames)
  | .key members, .text key, _ => some (.colon members key, frames)
  | .colon members key, .colon, _ => some (.value, .object members key :: frames)
  | .behind term, .comma, .array items :: outer => some (.value, .array (term :: items) :: outer)
  | .behind term, .closeArray, .array items :: outer =>
    some (.behind (.array (term :: items).reverse true), outer)
  | .behind term, .comma, .object members key :: outer =>
    some (.key ((key, term) :: members), outer)
  | .behind term, .closeObject, .object members key :: outer =>
    some (.behind (.object ((key, term) :: members).reverse true), outer)
  | _, _, _ => none

/-- The first value among tokens, and whether nothing follows it. -/
def ofTokensAt (place : Place) (frames : List Frame) : List Token → Term × Bool
  | [] =>
    match place, frames with
    | .behind term, [] => (term, true)
    | _, _ => (cutAt place frames, false)
  | token :: rest =>
    match advance place frames token with
    | some (place, frames) => ofTokensAt place frames rest
    | none => (cutAt place frames, false)

/-- The first value of a text, and whether nothing follows it. -/
def ofText (text : String) : Term × Bool := ofTokensAt .value [] (tokens text.toList)

/-! ## What a term holds -/

mutual
/-- Whether a term is well formed. Scalars without a value are, and so are parts at any depth. -/
def wellFormed : Term → Bool
  | .scalar _ => true
  | .array items closed => closed && wellFormedItems items
  | .object members closed => closed && wellFormedMembers members
  | .broken => false

/-- Whether all items are well formed. -/
def wellFormedItems : List Term → Bool
  | [] => true
  | item :: rest => item.wellFormed && wellFormedItems rest

/-- Whether the values of all members are well formed. -/
def wellFormedMembers : List (Option String × Term) → Bool
  | [] => true
  | (_, value) :: rest => value.wellFormed && wellFormedMembers rest
end

mutual
/-- The value of a faultless term that nests at most as deep as given. -/
def value? (depth : Nat) : Term → Option Json
  | .scalar v => v.map .scalar
  | .array items closed =>
    match depth, closed with
    | depth + 1, true => (itemValues? depth items).map .array
    | _, _ => none
  | .object members closed =>
    match depth, closed with
    | depth + 1, true => (memberValues? depth members []).map .object
    | _, _ => none
  | .broken => none

/-- The values of items. -/
def itemValues? (depth : Nat) : List Term → Option (List Json)
  | [] => some []
  | item :: rest => do
    let value ← item.value? depth
    let values ← itemValues? depth rest
    pure (value :: values)

/-- Adds members in the order of the text: the last value of a key stays. -/
def memberValues? (depth : Nat) : List (Option String × Term) → List (String × Json) →
    Option (List (String × Json))
  | [], members => some members
  | (key, term) :: rest, members => do
    let key ← key
    let value ← term.value? depth
    memberValues? depth rest (insertMember key value members)
end

end Term

/-- How deep arrays and objects may nest in a text. -/
def nestingLimit : Nat := 127

/-- The value that a text holds. -/
def ofText? (text : String) : Option Json :=
  match Term.ofText text with
  | (term, true) => term.value? nestingLimit
  | (_, false) => none

end MapStyle.Json
