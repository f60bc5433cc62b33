import MapStyle.Proofs.Xml.ReadBack

/-!
# When two trees have the same text

Two trees are written alike exactly if they are equal once the hyphens in their comments are spaced,
provided that names tell leaves from other elements: an element without children would otherwise look
like a leaf that holds a line break.
-/

namespace MapStyle.Xml

namespace Node

mutual
/-- A tree with the hyphens in its comments kept apart. -/
def spaced : Node → Node
  | .leaf name attributes text => .leaf name attributes text
  | .element name attributes children => .element name attributes (spacedAll children)
  | .comment text => .comment (String.ofList (Xml.spaced text.toList))

/-- Trees with the hyphens in their comments kept apart. -/
def spacedAll : List Node → List Node
  | [] => []
  | node :: rest => node.spaced :: spacedAll rest
end

theorem spacedAll_eq_map (nodes : List Node) : spacedAll nodes = nodes.map spaced := by
  induction nodes with
  | nil => rfl
  | cons node rest ih => rw [spacedAll, ih, List.map_cons]

variable {leaf element : String → Attributes → Prop} {comment : String → Prop}

mutual
/-- Spacing does not change a tree without comments. -/
theorem spaced_eq_self {node : Node} (silent : node.All leaf element fun _ => False) :
    node.spaced = node := by
  cases node with
  | leaf => rfl
  | comment text => exact silent.elim
  | element name attributes children =>
    obtain ⟨-, inside⟩ : element name attributes ∧ AllIn leaf element (fun _ => False) children :=
      silent
    rw [spaced, spacedAll_eq_self inside]

theorem spacedAll_eq_self {nodes : List Node}
    (silent : AllIn leaf element (fun _ => False) nodes) : spacedAll nodes = nodes := by
  cases nodes with
  | nil => rfl
  | cons node rest =>
    obtain ⟨here, there⟩ : node.All leaf element _ ∧ AllIn leaf element (fun _ => False) rest :=
      silent
    rw [spacedAll, spaced_eq_self here, spacedAll_eq_self there]
end

mutual
/-- A tree is written as if its comments had been spaced before. -/
theorem render_spaced (depth : Nat) (node : Node) : node.spaced.render depth = node.render depth := by
  cases node with
  | leaf => rfl
  | comment text =>
    have words : (String.ofList (Xml.spaced text.toList)).toList = Xml.spaced text.toList :=
      String.toList_ofList
    rw [spaced, render, render, commentLine_eq, commentLine_eq, words, commentBody_spaced]
  | element name attributes children =>
    rw [spaced, render, render, renderAll_spacedAll (depth + 1) children]

theorem renderAll_spacedAll (depth : Nat) (nodes : List Node) :
    renderAll depth (spacedAll nodes) = renderAll depth nodes := by
  cases nodes with
  | nil => rfl
  | cons node rest =>
    rw [spacedAll, renderAll, renderAll, render_spaced depth node, renderAll_spacedAll depth rest]
end

/-! ## What is read determines the tree -/

theorem chars_injective {s t : List Char} (h : chars s = chars t) : s = t :=
  (List.map_inj_right fun _ _ same => Item.char.inj same).1 h

/-- The items of a leaf differ from those of an element with children, and the blanks before the end
    tag from those before a child. -/
theorem closing_ne_laidOutAll {depth : Nat} {node : Node} {rest : List Node} :
    chars (indentation depth) ≠
      laidOutAll (depth + 1) (node :: rest) ++ chars (indentation depth) := by
  intro same
  have lengths := congrArg List.length same
  simp only [laidOutAll, List.length_append, List.length_cons, chars, List.length_map] at lengths
  omega

mutual
theorem spaced_of_laidOut (disjoint : ∀ name a b, leaf name a → ¬ element name b) (depth : Nat)
    {m n : Node} (spokenM : m.All leaf element comment) (spokenN : n.All leaf element comment)
    (same : m.laidOut depth = n.laidOut depth) : m.spaced = n.spaced := by
  match m, n with
  | .leaf name attributes text, .leaf other others words =>
    rw [laidOut, laidOut] at same
    obtain ⟨rfl, rfl, content⟩ := Item.element.inj same
    rw [String.ext (chars_injective content)]
  | .leaf name attributes text, .element other others children =>
    rw [laidOut, laidOut] at same
    obtain ⟨rfl, -, -⟩ := Item.element.inj same
    exact absurd spokenN.1 (disjoint _ _ _ spokenM)
  | .element name attributes children, .leaf other others words =>
    rw [laidOut, laidOut] at same
    obtain ⟨rfl, -, -⟩ := Item.element.inj same
    exact absurd spokenM.1 (disjoint _ _ _ spokenN)
  | .element name attributes children, .element other others nodes =>
    rw [laidOut, laidOut] at same
    obtain ⟨rfl, rfl, content⟩ := Item.element.inj same
    have inside := spacedAll_of_laidOutAll disjoint depth spokenM.2 spokenN.2
      (List.cons.inj content).2
    rw [spaced, spaced, inside]
  | .comment text, .comment words =>
    rw [laidOut, laidOut] at same
    have bodies := List.append_cancel_right
      (List.cons.inj (String.ofList_injective (Item.comment.inj same))).2
    rw [spaced, spaced, commentBody_inj.1 bodies]
  | .leaf .., .comment _ => simp [laidOut] at same
  | .element .., .comment _ => simp [laidOut] at same
  | .comment _, .leaf .. => simp [laidOut] at same
  | .comment _, .element .. => simp [laidOut] at same

theorem spacedAll_of_laidOutAll (disjoint : ∀ name a b, leaf name a → ¬ element name b)
    (depth : Nat) {ms ns : List Node} (spokenM : AllIn leaf element comment ms)
    (spokenN : AllIn leaf element comment ns)
    (same : laidOutAll (depth + 1) ms ++ chars (indentation depth) =
      laidOutAll (depth + 1) ns ++ chars (indentation depth)) : spacedAll ms = spacedAll ns := by
  match ms, ns with
  | [], [] => rfl
  | [], n :: ns => exact absurd same closing_ne_laidOutAll
  | m :: ms, [] => exact absurd same.symm closing_ne_laidOutAll
  | m :: ms, n :: ns =>
    simp only [laidOutAll, List.append_assoc, List.cons_append, List.append_cancel_left_eq,
      List.cons.injEq, true_and] at same
    rw [spacedAll, spacedAll, spaced_of_laidOut disjoint (depth + 1) spokenM.1 spokenN.1 same.1,
      spacedAll_of_laidOutAll disjoint depth spokenM.2 spokenN.2 same.2]
end

/-- Documents of one tree each have the same text exactly if their trees are equal up to the spacing
    of comments. -/
theorem document_inj (disjoint : ∀ name a b, leaf name a → ¬ element name b) {m n : Node}
    (spokenM : m.All leaf element comment) (spokenN : n.All leaf element comment)
    (namedM : m.WellNamed) (namedN : n.WellNamed) :
    Builder.declaration ++ String.ofList (m.render 0) =
        Builder.declaration ++ String.ofList (n.render 0) ↔ m.spaced = n.spaced := by
  constructor
  · intro same
    have forests := (readForest_tree namedM).symm.trans ((congrArg readForest same).trans
      (readForest_tree namedN))
    simp only [Option.some.injEq, List.cons.injEq, true_and, and_true] at forests
    exact spaced_of_laidOut disjoint 0 spokenM spokenN forests
  · intro same
    rw [← render_spaced 0 m, ← render_spaced 0 n, same]

end Node

end MapStyle.Xml
