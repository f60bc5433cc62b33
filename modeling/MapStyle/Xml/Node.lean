import MapStyle.Xml.Builder

/-!
# Markup trees

What the parts of a style become before they are written: elements that hold a text, elements that
hold other nodes, and comments. `Builder.add` writes a tree through the builder, and leaves the
builder's open elements as they were.
-/

namespace MapStyle.Xml

/-- A piece of markup. -/
inductive Node
  | leaf (name : String) (attributes : Attributes) (text : String)
  | element (name : String) (attributes : Attributes) (children : List Node)
  | comment (text : String)

/-- A leaf without attributes. -/
def Node.text (name text : String) : Node := .leaf name [] text

/-- A leaf that holds a number. -/
def Node.number (name : String) (x : Binary64) : Node := .text name x.documentText

namespace Builder

mutual
/-- Writes a tree. -/
def add (b : Builder) : Node → Builder
  | .leaf name attributes text => b.leaf name attributes text
  | .element name attributes children => ((b.openElement name attributes).addAll children).close
  | .comment text => b.comment text

/-- Writes trees one after the other. -/
def addAll (b : Builder) : List Node → Builder
  | [] => b
  | node :: rest => (b.add node).addAll rest
end

theorem addAll_append (b : Builder) (xs ys : List Node) :
    b.addAll (xs ++ ys) = (b.addAll xs).addAll ys := by
  induction xs generalizing b with
  | nil => rfl
  | cons x rest ih => exact ih (b.add x)

mutual
/-- Writing a tree leaves the open elements as they were. -/
theorem add_openElements (b : Builder) (node : Node) :
    (b.add node).openElements = b.openElements := by
  cases node with
  | leaf => rfl
  | comment => rfl
  | element name attributes children => simp [add, addAll_openElements _ children]

/-- Writing trees leaves the open elements as they were. -/
theorem addAll_openElements (b : Builder) (nodes : List Node) :
    (b.addAll nodes).openElements = b.openElements := by
  cases nodes with
  | nil => rfl
  | cons node rest => rw [addAll, addAll_openElements _ rest, add_openElements b node]
end

end Builder

end MapStyle.Xml
