import MapStyle.Xml.Node

/-!
# The text of a tree

What the builder's calls for a tree write depends on the tree and on how many elements are open, and
on nothing else: `add_eq` says that they append `Node.render` and leave the open elements alone.
-/

namespace MapStyle.Xml

-- stated here because the equation that unfolding would derive is slow to find
theorem commentLine_eq (text : String) :
    commentLine text = "<!-- ".toList ++ commentBody text.toList ++ " -->".toList := rfl

mutual
/-- The lines of a tree inside `depth` open elements. -/
def Node.render (depth : Nat) : Node → List Char
  | .leaf name attributes text => indented depth (leafLine name attributes text)
  | .element name attributes children =>
    indented depth (startTag name attributes) ++ renderAll (depth + 1) children ++
      indented depth (endTag name)
  | .comment text => indented depth (commentLine text)

/-- The lines of trees one after the other. -/
def Node.renderAll (depth : Nat) : List Node → List Char
  | [] => []
  | node :: rest => node.render depth ++ renderAll depth rest
end

namespace Builder

/-- A builder that has written more, with the same elements open. -/
def append (b : Builder) (lines : List Char) : Builder :=
  { b with text := b.text ++ String.ofList lines }

@[simp] theorem append_nil (b : Builder) : b.append [] = b := by
  simp [append]

@[simp] theorem append_append (b : Builder) (s t : List Char) :
    (b.append s).append t = b.append (s ++ t) := by
  simp [append, String.ofList_append, String.append_assoc]

@[simp] theorem append_depth (b : Builder) (lines : List Char) :
    (b.append lines).depth = b.depth := rfl

/-- An element with its lines between its tags. -/
theorem close_append_openElement (b : Builder) (name : String) (attributes : Attributes)
    (lines : List Char) :
    ((b.openElement name attributes).append lines).close =
      b.append (indented b.depth (startTag name attributes) ++ lines ++
        indented b.depth (endTag name)) := by
  have same : ((b.openElement name attributes).append lines).close =
      ((b.append (indented b.depth (startTag name attributes))).append lines).append
        (indented b.depth (endTag name)) := rfl
  rw [same, append_append, append_append, List.append_assoc]

mutual
/-- Writing a tree appends its lines. -/
theorem add_eq (b : Builder) (node : Node) : b.add node = b.append (node.render b.depth) := by
  cases node with
  | leaf name attributes text => rfl
  | comment text => rfl
  | element name attributes children =>
    have inside := addAll_eq (b.openElement name attributes) children
    have deeper : (b.openElement name attributes).depth = b.depth + 1 := rfl
    rw [add, inside, close_append_openElement, deeper, Node.render]

/-- Writing trees appends their lines. -/
theorem addAll_eq (b : Builder) (nodes : List Node) :
    b.addAll nodes = b.append (Node.renderAll b.depth nodes) := by
  cases nodes with
  | nil => rw [addAll, Node.renderAll, append_nil]
  | cons node rest =>
    rw [addAll, add_eq b node, addAll_eq _ rest, append_depth, append_append, Node.renderAll]
end

/-- With nothing open there is nothing to close. -/
theorem finish_of_closed {b : Builder} (h : b.openElements = []) :
    b.finish = declaration ++ b.text := by
  rw [finish, closeAll, h]
  rfl

/-- A document made of one tree. -/
theorem finish_add_empty (node : Node) :
    (empty.add node).finish = declaration ++ String.ofList (node.render 0) := by
  have closed : (empty.add node).openElements = [] := add_openElements empty node
  rw [finish_of_closed closed, add_eq]
  simp [append, empty, depth]

end Builder

end MapStyle.Xml
