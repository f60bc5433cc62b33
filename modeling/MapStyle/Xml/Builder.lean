import MapStyle.Number.Spelling
import MapStyle.Xml.Comment

/-!
# Writing markup

A builder holds the text written so far and the names of the elements still open. Every call writes
one line, indented by two spaces for each open element, and never changes what stands before it.
`finish` closes what is still open, innermost first, and puts the declaration in front.
-/

namespace MapStyle.Xml

/-- Names and values of an element's attributes, in the order written. -/
abbrev Attributes := List (String × String)

/-- One attribute with the space before it (`push_attributes`). -/
def attributeText (key value : String) : List Char :=
  ' ' :: key.toList ++ '=' :: '\x22' :: escape value.toList ++ ['\x22']

/-- The tag that opens an element. -/
def startTag (name : String) (attributes : Attributes) : List Char :=
  '<' :: name.toList ++ attributes.flatMap (fun a => attributeText a.1 a.2) ++ ['>']

/-- The tag that closes an element. -/
def endTag (name : String) : List Char := '<' :: '/' :: name.toList ++ ['>']

/-- An element with nothing but text in it, on one line. -/
def leafLine (name : String) (attributes : Attributes) (text : String) : List Char :=
  startTag name attributes ++ escape text.toList ++ endTag name

/-- A comment on a line of its own. -/
def commentLine (text : String) : List Char :=
  "<!-- ".toList ++ commentBody text.toList ++ " -->".toList

/-- A line with its indentation at a depth (`write_indent`). -/
def indented (depth : Nat) (line : List Char) : List Char :=
  List.replicate (2 * depth) ' ' ++ line ++ ['\n']

/-- A document in the making (`SldBuilder`). -/
structure Builder where
  /-- What has been written. -/
  text : String
  /-- The names of the elements not yet closed, innermost first. -/
  openElements : List String

namespace Builder

/-- Nothing written and nothing open (`SldBuilder::new`). -/
def empty : Builder := ⟨"", []⟩

/-- How many elements are open. -/
def depth (b : Builder) : Nat := b.openElements.length

/-- Adds one indented line. -/
def line (b : Builder) (content : List Char) : Builder :=
  { b with text := b.text ++ String.ofList (indented b.depth content) }

/-- Opens an element (`open`, `open_with_attributes`); what follows is written inside it. -/
def openElement (b : Builder) (name : String) (attributes : Attributes) : Builder :=
  { b.line (startTag name attributes) with openElements := name :: b.openElements }

/-- Closes the innermost open element, if there is one (`SldBuilder::close`). -/
def close (b : Builder) : Builder :=
  match b.openElements with
  | [] => b
  | name :: rest => { b with openElements := rest }.line (endTag name)

/-- Writes an element that holds a text (`text_element`, `text_element_with_attributes`). -/
def leaf (b : Builder) (name : String) (attributes : Attributes) (text : String) : Builder :=
  b.line (leafLine name attributes text)

/-- Writes an element that holds a number (`number_element`). -/
def number (b : Builder) (name : String) (x : Binary64) : Builder := b.leaf name [] x.documentText

/-- Writes a comment (`SldBuilder::comment`). -/
def comment (b : Builder) (text : String) : Builder := b.line (commentLine text)

/-- Closes every open element, innermost first. -/
def closeAll (b : Builder) : Builder := b.openElements.foldl (fun b _ => b.close) b

/-- The line every document begins with. -/
def declaration : String := "<?xml version=\"1.0\" encoding=\"UTF-8\"?>\n"

/-- The finished document (`finalize`). -/
def finish (b : Builder) : String := declaration ++ b.closeAll.text

@[simp] theorem line_openElements (b : Builder) (content : List Char) :
    (b.line content).openElements = b.openElements := rfl

@[simp] theorem openElement_openElements (b : Builder) (name : String) (attributes : Attributes) :
    (b.openElement name attributes).openElements = name :: b.openElements := rfl

@[simp] theorem close_openElements (b : Builder) :
    b.close.openElements = b.openElements.tail := by
  unfold close
  split <;> simp_all

@[simp] theorem leaf_openElements (b : Builder) (name : String) (attributes : Attributes)
    (text : String) : (b.leaf name attributes text).openElements = b.openElements := rfl

@[simp] theorem comment_openElements (b : Builder) (text : String) :
    (b.comment text).openElements = b.openElements := rfl

end Builder

end MapStyle.Xml
