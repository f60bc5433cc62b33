import MapStyle.Proofs.Xml.Entities
import MapStyle.Xml.Builder

/-!
# A reader of markup

Reads a document as a forest: a declaration, then tags with attributes, comments and characters. An
end tag must name the innermost open element, a comment must not hold two hyphens in a row, the
attributes of a tag must have different names, and every entity must be one of the five. White space
and line ends are characters like all others. Anything else is refused, and nothing may be left over.
-/

namespace MapStyle.Xml

/-- A piece of what has been read. -/
inductive Item
  | char (c : Char)
  | element (name : String) (attributes : Attributes) (content : List Item)
  | comment (body : String)

/-! ## Names -/

/-- Whether a character may begin a name. -/
def isNameStart (c : Char) : Bool :=
  let n := c.toNat
  c == ':' || c == '_' || (0x41 ≤ n && n ≤ 0x5A) || (0x61 ≤ n && n ≤ 0x7A) ||
    (0xC0 ≤ n && n ≤ 0xD6) || (0xD8 ≤ n && n ≤ 0xF6) || (0xF8 ≤ n && n ≤ 0x2FF) ||
    (0x370 ≤ n && n ≤ 0x37D) || (0x37F ≤ n && n ≤ 0x1FFF) || (0x200C ≤ n && n ≤ 0x200D) ||
    (0x2070 ≤ n && n ≤ 0x218F) || (0x2C00 ≤ n && n ≤ 0x2FEF) || (0x3001 ≤ n && n ≤ 0xD7FF) ||
    (0xF900 ≤ n && n ≤ 0xFDCF) || (0xFDF0 ≤ n && n ≤ 0xFFFD) || (0x10000 ≤ n && n ≤ 0xEFFFF)

/-- Whether a character may stand in a name. -/
def isNameChar (c : Char) : Bool :=
  let n := c.toNat
  isNameStart c || c == '-' || c == '.' || (0x30 ≤ n && n ≤ 0x39) || n == 0xB7 ||
    (0x300 ≤ n && n ≤ 0x36F) || (0x203F ≤ n && n ≤ 0x2040)

/-- Whether a text is a name. -/
def isName (s : String) : Bool := s.toList.head?.any isNameStart && s.toList.all isNameChar

/-- The name at the beginning of a text, as long as it goes. -/
def name? (s : List Char) : Option (String × List Char) :=
  let name := String.ofList (s.takeWhile isNameChar)
  if isName name then some (name, s.dropWhile isNameChar) else none

/-! ## Tags and comments -/

/-- The white space of tags. -/
def isSpace (c : Char) : Bool := c == ' ' || c == '\t' || c == '\n' || c == '\r'

theorem name?_length {s rest : List Char} {name : String} (h : name? s = some (name, rest)) :
    rest.length ≤ s.length := by
  simp only [name?] at h
  split at h
  · obtain ⟨-, rfl⟩ : _ ∧ s.dropWhile isNameChar = rest := by simpa using h
    exact (List.dropWhile_suffix isNameChar).length_le
  · simp at h

/-- The value of an attribute, up to its closing quote. -/
def value? (s : List Char) : Option (List Char × List Char) :=
  match s with
  | '\x22' :: rest => some ([], rest)
  | s =>
    match _h : character? s with
    | none => none
    | some (c, rest) => (value? rest).map fun (value, tail) => (c :: value, tail)
termination_by s.length
decreasing_by exact character?_length _h

/-- An attribute: a name, an equals sign and a quoted value. -/
def attribute? (s : List Char) : Option ((String × String) × List Char) :=
  match name? s with
  | some (key, '=' :: '\x22' :: rest) =>
    (value? rest).map fun (value, tail) => ((key, String.ofList value), tail)
  | _ => none

theorem value?_length {s value rest : List Char} (h : value? s = some (value, rest)) :
    rest.length < s.length := by
  fun_induction value? s generalizing value with
  | case1 tail =>
    obtain ⟨-, rfl⟩ : _ ∧ tail = rest := by simpa using h
    simp
  | case2 => simp at h
  | case3 s _ c tail read ih =>
    obtain ⟨⟨inner, last⟩, found, same⟩ := Option.map_eq_some_iff.1 h
    obtain ⟨-, rfl⟩ : _ ∧ last = rest := by simpa using same
    exact Nat.lt_trans (ih found) (character?_length read)

theorem attribute?_length {s rest : List Char} {a : String × String}
    (h : attribute? s = some (a, rest)) : rest.length < s.length := by
  unfold attribute? at h
  split at h
  · next key tail named =>
    obtain ⟨⟨value, last⟩, found, same⟩ := Option.map_eq_some_iff.1 h
    obtain ⟨-, rfl⟩ : _ ∧ last = rest := by simpa using same
    have inName := name?_length named
    have inValue := value?_length found
    simp only [List.length_cons] at inName
    omega
  · simp at h

/-- The attributes of a start tag and its end; white space stands before each. -/
def attributes? (s : List Char) : Option (Attributes × List Char) :=
  match s with
  | '>' :: rest => some ([], rest)
  | c :: rest =>
    if isSpace c then
      match _h : attribute? (rest.dropWhile isSpace) with
      | none => none
      | some (a, tail) => (attributes? tail).map fun (more, last) => (a :: more, last)
    else none
  | [] => none
termination_by s.length
decreasing_by
  have shorter := attribute?_length _h
  have dropped := (List.dropWhile_suffix (l := rest) isSpace).length_le
  simp only [List.length_cons]
  omega

/-- What stands in a comment, up to two hyphens in a row, which must end it. -/
def commentBody? : List Char → Option (List Char × List Char)
  | '-' :: '-' :: '>' :: rest => some ([], rest)
  | '-' :: '-' :: _ => none
  | c :: rest => (commentBody? rest).map fun (body, tail) => (c :: body, tail)
  | [] => none

/-- A piece of a document's text. -/
inductive Token
  | char (c : Char)
  | startTag (name : String) (attributes : Attributes)
  | endTag (name : String)
  | comment (body : String)

/-- The first piece of a text, and the rest. -/
def token? : List Char → Option (Token × List Char)
  | '<' :: '!' :: '-' :: '-' :: rest =>
    (commentBody? rest).map fun (body, tail) => (.comment (String.ofList body), tail)
  | '<' :: '/' :: rest =>
    match name? rest with
    | some (name, '>' :: tail) => some (.endTag name, tail)
    | _ => none
  | '<' :: rest =>
    match name? rest with
    | some (name, tail) =>
      match attributes? tail with
      | some (attributes, last) =>
        if (attributes.map Prod.fst).Nodup then some (.startTag name attributes, last) else none
      | none => none
    | none => none
  | s => (character? s).map fun (c, rest) => (.char c, rest)

theorem token?_comment (s : List Char) :
    token? ('<' :: '!' :: '-' :: '-' :: s) =
      (commentBody? s).map fun (body, tail) => (.comment (String.ofList body), tail) := rfl

theorem token?_slash (s : List Char) :
    token? ('<' :: '/' :: s) =
      match name? s with
      | some (name, '>' :: tail) => some (.endTag name, tail)
      | _ => none := rfl

theorem attributes?_length {s rest : List Char} {attributes : Attributes}
    (h : attributes? s = some (attributes, rest)) : rest.length < s.length := by
  fun_induction attributes? s generalizing attributes with
  | case1 tail =>
    obtain ⟨-, rfl⟩ : _ ∧ tail = rest := by simpa using h
    simp
  | case2 => simp at h
  | case3 c tail _ _ a last read ih =>
    obtain ⟨⟨more, final⟩, found, same⟩ := Option.map_eq_some_iff.1 h
    obtain ⟨-, rfl⟩ : _ ∧ final = rest := by simpa using same
    have shorter := attribute?_length read
    have dropped := (List.dropWhile_suffix (l := tail) isSpace).length_le
    have inRest := ih found
    simp only [List.length_cons]
    omega
  | case4 => simp at h
  | case5 => simp at h

theorem commentBody?_length {s body rest : List Char} (h : commentBody? s = some (body, rest)) :
    rest.length < s.length := by
  fun_induction commentBody? s generalizing body with
  | case1 tail =>
    obtain ⟨-, rfl⟩ : _ ∧ tail = rest := by simpa using h
    simp
    omega
  | case2 => simp at h
  | case3 c tail _ _ ih =>
    obtain ⟨⟨more, final⟩, found, same⟩ := Option.map_eq_some_iff.1 h
    obtain ⟨-, rfl⟩ : _ ∧ final = rest := by simpa using same
    exact Nat.lt_trans (ih found) (by simp)
  | case4 => simp at h

theorem token?_length {s rest : List Char} {token : Token} (h : token? s = some (token, rest)) :
    rest.length < s.length := by
  unfold token? at h
  split at h
  · next tail =>
    obtain ⟨⟨body, last⟩, found, same⟩ := Option.map_eq_some_iff.1 h
    obtain ⟨-, rfl⟩ : _ ∧ last = rest := by simpa using same
    have shorter := commentBody?_length found
    simp only [List.length_cons]
    omega
  · next tail =>
    split at h
    · next name last named =>
      obtain ⟨-, rfl⟩ : _ ∧ last = rest := by simpa using h
      have shorter := name?_length named
      simp only [List.length_cons] at shorter ⊢
      omega
    · simp at h
  · next tail _ _ =>
    split at h
    · next name last named =>
      split at h
      · next attributes final found =>
        split at h
        · obtain ⟨-, rfl⟩ : _ ∧ final = rest := by simpa using h
          have inName := name?_length named
          have inTag := attributes?_length found
          simp only [List.length_cons]
          omega
        · simp at h
      · simp at h
    · simp at h
  · obtain ⟨⟨c, last⟩, found, same⟩ := Option.map_eq_some_iff.1 h
    obtain ⟨-, rfl⟩ : _ ∧ last = rest := by simpa using same
    exact character?_length found

/-! ## Elements -/

/-- An element whose end tag has not come yet, and what stands before it, last first. -/
structure Frame where
  name : String
  attributes : Attributes
  before : List Item

/-- A document in part: what stands in the innermost open element, last first, and the open
    elements, innermost first. -/
structure Reading where
  items : List Item
  frames : List Frame

namespace Reading

/-- Nothing read and nothing open. -/
def start : Reading := ⟨[], []⟩

/-- Adds items in the order given. -/
def put (r : Reading) (items : List Item) : Reading := { r with items := items.reverse ++ r.items }

/-- Takes a piece of text. An end tag must name the innermost open element. -/
def take (r : Reading) : Token → Option Reading
  | .char c => some (r.put [.char c])
  | .comment body => some (r.put [.comment body])
  | .startTag name attributes => some ⟨[], ⟨name, attributes, r.items⟩ :: r.frames⟩
  | .endTag name =>
    match r.frames with
    | [] => none
    | frame :: outer =>
      if name = frame.name then
        some ⟨.element name frame.attributes r.items.reverse :: frame.before, outer⟩
      else none

/-- Reads a text to its end. -/
def readAll (r : Reading) (s : List Char) : Option Reading :=
  match s with
  | [] => some r
  | c :: rest =>
    match _h : token? (c :: rest) with
    | none => none
    | some (token, tail) =>
      match r.take token with
      | none => none
      | some next => next.readAll tail
termination_by s.length
decreasing_by exact token?_length _h

/-- What has been read, once every element is closed. -/
def forest? (r : Reading) : Option (List Item) :=
  match r.frames with
  | [] => some r.items.reverse
  | _ => none

end Reading

/-- The declaration that a document begins with. -/
def prolog : List Char := "<?xml version=\"1.0\" encoding=\"UTF-8\"?>".toList

/-- What follows the declaration of a document. -/
def declaration? (s : List Char) : Option (List Char) :=
  if prolog.isPrefixOf s then some (s.drop prolog.length) else none

/-- The forest that a document holds. -/
def readForest (document : String) : Option (List Item) :=
  (declaration? document.toList).bind fun rest =>
    (Reading.start.readAll rest).bind Reading.forest?

end MapStyle.Xml
