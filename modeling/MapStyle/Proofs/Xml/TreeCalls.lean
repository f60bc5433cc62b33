import MapStyle.Proofs.Xml.Calls

/-!
# Trees as calls

A tree is written by the calls that open its elements, write what is in them and close them again, so
what is known of calls holds of trees, too. Closing an element by hand makes no difference to the
finished document.
-/

namespace MapStyle.Xml

mutual
/-- The calls that write a tree. -/
def Node.calls : Node → List Call
  | .leaf name attributes text => [.leaf name attributes text]
  | .element name attributes children => .openElement name attributes :: (callsAll children ++ [.close])
  | .comment text => [.comment text]

/-- The calls that write trees one after the other. -/
def Node.callsAll : List Node → List Call
  | [] => []
  | node :: rest => node.calls ++ callsAll rest
end

namespace Builder

mutual
/-- Writing a tree is making its calls. -/
theorem add_eq_run (b : Builder) (node : Node) : b.add node = b.run node.calls := by
  cases node with
  | leaf name attributes text => rfl
  | comment text => rfl
  | element name attributes children =>
    have inside := addAll_eq_run (b.openElement name attributes) children
    have opened : b.run (Node.element name attributes children).calls =
        (b.openElement name attributes).run (Node.callsAll children ++ [.close]) := rfl
    rw [opened, run_append, ← inside]
    rfl

/-- Writing trees is making their calls. -/
theorem addAll_eq_run (b : Builder) (nodes : List Node) :
    b.addAll nodes = b.run (Node.callsAll nodes) := by
  cases nodes with
  | nil => rfl
  | cons node rest =>
    rw [addAll, add_eq_run b node, addAll_eq_run _ rest, Node.callsAll, run_append]
end

/-- What is closed before the end need not be closed then, and the other way round. -/
theorem finish_close (b : Builder) : b.close.finish = b.finish := by
  cases inside : b.openElements with
  | nil => rw [close_of_closed inside]
  | cons name names =>
    have rest : b.close.openElements = names := by rw [close_openElements, inside, List.tail_cons]
    rw [finish, finish, closeAll, closeAll, rest, inside, List.foldl_cons]

/-- An element that is left open is finished like one that was closed. -/
theorem finish_openElement_addAll (b : Builder) (name : String) (attributes : Attributes)
    (children : List Node) : ((b.openElement name attributes).addAll children).finish =
      (b.add (.element name attributes children)).finish :=
  (finish_close _).symm

/-- The document of calls with a tree written behind them. -/
theorem finish_run_add (calls : List Call) (node : Node) :
    ((empty.run calls).add node).finish =
      declaration ++ String.ofList (Node.renderAll 0 (Call.forest (calls ++ node.calls))) := by
  rw [add_eq_run, ← run_append, finish_run_empty]

end Builder

mutual
/-- The calls of a tree have names as names if the tree has. -/
theorem Node.isWellNamed_calls {node : Node} (named : node.WellNamed) :
    ∀ call ∈ node.calls, call.isWellNamed = true := by
  cases node with
  | leaf name attributes text => exact List.forall_mem_singleton.2 named
  | comment text => exact List.forall_mem_singleton.2 rfl
  | element name attributes children =>
    obtain ⟨tag, inner⟩ : isTag name attributes = true ∧ Call.WellNamedAll children := named
    refine List.forall_mem_cons.2 ⟨tag, List.forall_mem_append.2 ⟨?_, ?_⟩⟩
    · exact Node.isWellNamed_callsAll inner
    · exact List.forall_mem_singleton.2 rfl

/-- The calls of trees have names as names if the trees have. -/
theorem Node.isWellNamed_callsAll {nodes : List Node} (named : Call.WellNamedAll nodes) :
    ∀ call ∈ Node.callsAll nodes, call.isWellNamed = true := by
  cases nodes with
  | nil => exact List.forall_mem_nil _
  | cons node rest =>
    obtain ⟨here, there⟩ : node.WellNamed ∧ Call.WellNamedAll rest := named
    exact List.forall_mem_append.2 ⟨Node.isWellNamed_calls here, Node.isWellNamed_callsAll there⟩
end

/-- Calls and a tree behind them, read from their document. -/
theorem readForest_run_add {calls : List Call} {node : Node}
    (named : ∀ call ∈ calls, call.isWellNamed = true) (tree : node.WellNamed) :
    readForest ((Builder.empty.run calls).add node).finish =
      some (.char '\n' :: Node.laidOutAll 0 (Call.forest (calls ++ node.calls))) := by
  rw [Builder.finish_run_add]
  apply readForest_renderAll
  exact Call.wellNamed_forest (List.forall_mem_append.2 ⟨named, Node.isWellNamed_calls tree⟩)

end MapStyle.Xml
