import MapStyle.Xml.Node

/-!
# Parts in fixed places

The children of an element are mostly optional parts in a fixed order, each under a tag of its own.
Then the list of children tells for every place whether its part is there, and which it is.
-/

namespace MapStyle

/-- Two functions tell the same arguments apart. -/
def SameFibers {α β γ : Type} (f : α → β) (g : α → γ) : Prop := ∀ a b, f a = f b ↔ g a = g b

section Fibers

variable {α β γ : Type} {f : α → β} {g : α → γ}

theorem SameFibers.map (h : SameFibers f g) (x y : Option α) :
    x.map f = y.map f ↔ x.map g = y.map g := by
  cases x <;> cases y <;> simp [h _ _]

/-- Lists are told apart like their members. -/
theorem map_eq_map_iff {xs ys : List α} (h : ∀ a ∈ xs, ∀ b ∈ ys, (f a = f b ↔ g a = g b)) :
    xs.map f = ys.map f ↔ xs.map g = ys.map g := by
  induction xs generalizing ys with
  | nil => cases ys <;> simp
  | cons a xs ih =>
    cases ys with
    | nil => simp
    | cons b ys =>
      have first := h a List.mem_cons_self b List.mem_cons_self
      have rest := ih fun c inXs d inYs =>
        h c (List.mem_cons_of_mem _ inXs) d (List.mem_cons_of_mem _ inYs)
      simp only [List.map_cons, List.cons.injEq, first, rest]

end Fibers

namespace Xml

/-- The name and attributes of a node's tag; a comment has none. -/
def Node.tag? : Node → Option (String × Attributes)
  | .leaf name attributes _ => some (name, attributes)
  | .element name attributes _ => some (name, attributes)
  | .comment _ => none

/-- A place for an optional part of something. What stands there always has the place's tag. -/
structure Place (α : Type) where
  tag : Option (String × Attributes)
  write : α → Option Node
  tagged : ∀ a, ∀ node ∈ write a, node.tag? = tag

namespace Place

variable {α β γ : Type}

/-- The place of a part that has markup of its own. -/
def part (tag : Option (String × Attributes)) (value : α → Option β) (node : β → Node)
    (tagged : ∀ b, (node b).tag? = tag) : Place α where
  tag := tag
  write a := (value a).map node
  tagged a n found := by
    obtain ⟨b, -, rfl⟩ := Option.map_eq_some_iff.1 found
    exact tagged b

/-- The place of a leaf. -/
def leaf (name : String) (attributes : Attributes) (text : α → Option String) : Place α :=
  part (some (name, attributes)) text (.leaf name attributes) fun _ => rfl

/-- The place of a leaf that holds a number. -/
def number (name : String) (attributes : Attributes) (value : α → Option Binary64) : Place α :=
  part (some (name, attributes)) value (fun x => .leaf name attributes x.documentText) fun _ => rfl

theorem part_write_inj {tag : Option (String × Attributes)} {value : α → Option β} {node : β → Node}
    {tagged : ∀ b, (node b).tag? = tag} {view : β → γ} (fibers : SameFibers node view) (a b : α) :
    (part tag value node tagged).write a = (part tag value node tagged).write b ↔
      (value a).map view = (value b).map view :=
  fibers.map _ _

@[simp] theorem leaf_write_inj {name : String} {attributes : Attributes} {text : α → Option String}
    (a b : α) : (leaf name attributes text).write a = (leaf name attributes text).write b ↔
      text a = text b :=
  Option.map_inj_right fun _ _ same => (Node.leaf.inj same).2.2

end Place

variable {α : Type} {places : List (Place α)} {a b : α} {s t : List Node}

/-- The parts that are there, in the order of their places. -/
def present (places : List (Place α)) (a : α) : List Node :=
  places.flatMap fun place => (place.write a).toList

@[simp] theorem present_nil (a : α) : present [] a = [] := rfl

@[simp] theorem present_cons (place : Place α) (places : List (Place α)) (a : α) :
    present (place :: places) a = (place.write a).toList ++ present places a := rfl

theorem tag?_mem_of_present {node : Node} (member : node ∈ present places a) :
    node.tag? ∈ places.map Place.tag := by
  obtain ⟨place, known, here⟩ := List.mem_flatMap.1 member
  rw [place.tagged a node (Option.mem_toList.1 here)]
  exact List.mem_map_of_mem known

/-- A part that is there cannot be taken for one of a later place. -/
theorem present_append_ne_cons {tag : Option (String × Attributes)} {node : Node}
    (tagged : node.tag? = tag) (fresh : tag ∉ places.map Place.tag)
    (others : ∀ n ∈ s, n.tag? ≠ tag) (rest : List Node) : present places a ++ s ≠ node :: rest := by
  intro same
  have member : node ∈ present places a ++ s := same ▸ List.mem_cons_self
  rcases List.mem_append.1 member with part | other
  · exact fresh (tagged ▸ tag?_mem_of_present part)
  · exact others node other tagged

/-- The children determine every part, and what follows the parts under other tags. -/
theorem present_append_inj (distinct : (places.map Place.tag).Nodup)
    (othersS : ∀ n ∈ s, n.tag? ∉ places.map Place.tag)
    (othersT : ∀ n ∈ t, n.tag? ∉ places.map Place.tag) :
    present places a ++ s = present places b ++ t ↔
      (∀ place ∈ places, place.write a = place.write b) ∧ s = t := by
  induction places with
  | nil => simp
  | cons place places ih =>
    rw [List.map_cons] at distinct othersS othersT
    obtain ⟨fresh, distinct⟩ := List.nodup_cons.1 distinct
    have rest := ih distinct
      (fun n member inTags => othersS n member (List.mem_cons_of_mem _ inTags))
      (fun n member inTags => othersT n member (List.mem_cons_of_mem _ inTags))
    have notHereS : ∀ n ∈ s, n.tag? ≠ place.tag := fun n member equal =>
      othersS n member (equal ▸ List.mem_cons_self)
    have notHereT : ∀ n ∈ t, n.tag? ≠ place.tag := fun n member equal =>
      othersT n member (equal ▸ List.mem_cons_self)
    simp only [present_cons, List.append_assoc, List.forall_mem_cons]
    cases here : place.write a with
    | none =>
      cases there : place.write b with
      | none => simpa using rest
      | some n =>
        have tagged := place.tagged b n there
        simpa using fun same => absurd same (present_append_ne_cons tagged fresh notHereS _)
    | some m =>
      have tagged := place.tagged a m here
      cases there : place.write b with
      | none =>
        simpa using fun same => absurd same.symm (present_append_ne_cons tagged fresh notHereT _)
      | some n => simp [rest, and_assoc]

/-- Parts in fixed places and nothing else determine every part. -/
theorem present_inj (distinct : (places.map Place.tag).Nodup) :
    present places a = present places b ↔ ∀ place ∈ places, place.write a = place.write b := by
  have none : ∀ n ∈ ([] : List Node), n.tag? ∉ places.map Place.tag := by simp
  have both := present_append_inj (a := a) (b := b) distinct none none
  simpa using both

theorem element_present_inj {name : String} {attributes : Attributes}
    (distinct : (places.map Place.tag).Nodup) :
    Node.element name attributes (present places a) = .element name attributes (present places b) ↔
      ∀ place ∈ places, place.write a = place.write b := by
  rw [Node.element.injEq, present_inj distinct]
  simp

end Xml

end MapStyle
