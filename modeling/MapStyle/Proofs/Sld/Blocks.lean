import MapStyle.Proofs.Sld.NormalForm
import MapStyle.Proofs.Xml.Places

/-!
# What the markup of blocks tells

The markup of every block has the block's parts in fixed places, so it tells exactly as much about
the block as the block's normal form does.
-/

namespace MapStyle

open Xml (Node Attributes Place present present_cons present_nil present_inj element_present_inj)
open Sld

/-! ## Numbers and flags -/

namespace Xml.Place

variable {α : Type} {name : String} {attributes : Attributes}

@[simp] theorem number_write_inj {value : α → Option Binary64} (a b : α) :
    (number name attributes value).write a = (number name attributes value).write b ↔
      shown? (value a) = shown? (value b) := by
  apply part_write_inj
  intro x y
  rw [Node.leaf.injEq, Binary64.documentText_inj]
  simp

/-- The place of a leaf that holds a yes or no. -/
def flag (name : String) (attributes : Attributes) (value : α → Option Bool) : Place α :=
  part (some (name, attributes)) value
    (fun yes => .leaf name attributes (if yes then "true" else "false")) fun _ => rfl

@[simp] theorem flag_write_inj {value : α → Option Bool} (a b : α) :
    (flag name attributes value).write a = (flag name attributes value).write b ↔
      value a = value b := by
  have told : SameFibers
      (fun yes : Bool => Node.leaf name attributes (if yes then "true" else "false")) id := by
    intro x y
    cases x <;> cases y <;> simp
  refine (part_write_inj told a b).trans ?_
  rw [Option.map_id, id, id]

end Xml.Place

/-! ## Paint -/

namespace Fill

/-- The places in a fill. -/
def places : List (Place Fill) :=
  [.leaf "CssParameter" [("name", "fill")] fun fill => Text.nonBlank? fill.color,
   .number "CssParameter" [("name", "fill-opacity")] opacity]

theorem node_eq (fill : Fill) : fill.node = .element "Fill" [] (present places fill) := by
  simp only [node, places, present_cons, present_nil, List.append_nil]
  rfl

theorem tag?_node (fill : Fill) : fill.node.tag? = some ("Fill", []) := rfl

theorem node_inj : SameFibers node normalForm := by
  intro a b
  rw [node_eq, node_eq, element_present_inj (by decide)]
  simp [places, normalForm]

end Fill

namespace Stroke

/-- The places in a stroke. -/
def places : List (Place Stroke) :=
  [.leaf "CssParameter" [("name", "stroke")] fun stroke => Text.nonBlank? stroke.color,
   .number "CssParameter" [("name", "stroke-width")] width,
   .number "CssParameter" [("name", "stroke-opacity")] opacity,
   .leaf "CssParameter" [("name", "stroke-dasharray")] fun stroke =>
    Text.nonBlank? stroke.dashArray]

theorem node_eq (stroke : Stroke) : stroke.node = .element "Stroke" [] (present places stroke) := by
  simp only [node, places, present_cons, present_nil, List.append_assoc, List.append_nil]
  rfl

theorem tag?_node (stroke : Stroke) : stroke.node.tag? = some ("Stroke", []) := rfl

theorem node_inj : SameFibers node normalForm := by
  intro a b
  rw [node_eq, node_eq, element_present_inj (by decide)]
  simp [places, normalForm]

end Stroke

namespace Mark

/-- The places in a mark; the mark's size has none. -/
def places : List (Place Mark) :=
  [.leaf "WellKnownName" [] fun mark => Text.nonBlank? mark.wellKnownName,
   .part (some ("Fill", [])) fill Fill.node Fill.tag?_node,
   .part (some ("Stroke", [])) stroke Stroke.node Stroke.tag?_node]

theorem node_eq (mark : Mark) : mark.node = .element "Mark" [] (present places mark) := by
  simp only [node, places, present_cons, present_nil, List.append_assoc, List.append_nil]
  rfl

theorem tag?_node (mark : Mark) : mark.node.tag? = some ("Mark", []) := rfl

theorem node_inj : SameFibers node fun mark => { mark.normalForm with size := none } := by
  intro a b
  rw [node_eq, node_eq, element_present_inj (by decide)]
  simp [places, normalForm, Place.part_write_inj Fill.node_inj, Place.part_write_inj Stroke.node_inj]

end Mark

namespace Label

/-- The markup of a label that names a property. -/
def node (label : Label) : Node :=
  .element "Label" [] [.leaf "ogc:PropertyName" [] label.propertyName]

theorem tag?_node (label : Label) : label.node.tag? = some ("Label", []) := rfl

theorem nodes_eq (label : Option Label) :
    (label.map nodes).getD [] = ((label.filter isFilled).map node).toList := by
  cases label with
  | none => rfl
  | some label =>
    rw [Option.map_some, Option.getD_some, nodes, Option.filter_some, isFilled]
    cases Text.isBlank label.propertyName <;> rfl

theorem node_inj : SameFibers node id := by
  intro a b
  cases a
  cases b
  simp [node]

end Label

namespace Font

/-- The places in a font; the paint of the glyphs has none. -/
def places : List (Place Font) :=
  [.leaf "CssParameter" [("name", "font-family")] fun font => Text.nonBlank? font.family,
   .number "CssParameter" [("name", "font-size")] size,
   .leaf "CssParameter" [("name", "font-style")] fun font => Text.nonBlank? font.style,
   .leaf "CssParameter" [("name", "font-weight")] fun font => Text.nonBlank? font.weight]

/-- The markup of a font without the paint of its glyphs. -/
def node (font : Font) : Node := .element "Font" [] (present places font)

theorem nodes_eq (font : Font) : font.nodes = font.node :: part Fill.node font.fill := by
  simp only [nodes, node, places, present_cons, present_nil, List.append_assoc, List.append_nil]
  rfl

theorem tag?_node (font : Font) : font.node.tag? = some ("Font", []) := rfl

theorem node_inj : SameFibers node fun font => { font.normalForm with fill := none } := by
  intro a b
  rw [node, node, element_present_inj (by decide)]
  simp [places, normalForm]

end Font

namespace Halo

/-- The places in a halo. -/
def places : List (Place Halo) :=
  [.number "Radius" [] radius, .part (some ("Fill", [])) fill Fill.node Fill.tag?_node]

theorem node_eq (halo : Halo) : halo.node = .element "Halo" [] (present places halo) := by
  simp only [node, places, present_cons, present_nil, List.append_nil]
  rfl

theorem tag?_node (halo : Halo) : halo.node.tag? = some ("Halo", []) := rfl

theorem node_inj : SameFibers node fun halo => { halo.normalForm with enabled := true } := by
  intro a b
  rw [node_eq, node_eq, element_present_inj (by decide)]
  simp [places, normalForm, Place.part_write_inj Fill.node_inj]

end Halo

/-! ## Labels -/

/-- The two coordinates that are written, if either is set. -/
def Sld.paired : Option Binary64 → Option Binary64 → Option (Binary64 × Binary64)
  | none, none => none
  | x, y => some (x.getD Binary64.zero, y.getD Binary64.zero)

/-- The markup of two coordinates. -/
def Sld.pairNode (name nameX nameY : String) (xy : Binary64 × Binary64) : Node :=
  .element name [] [.number nameX xy.1, .number nameY xy.2]

theorem Sld.pair_eq (name nameX nameY : String) (x y : Option Binary64) :
    pair name nameX nameY x y = ((paired x y).map (pairNode name nameX nameY)).toList := by
  cases x <;> cases y <;> rfl

theorem Sld.tag?_pairNode (name nameX nameY : String) (xy : Binary64 × Binary64) :
    (pairNode name nameX nameY xy).tag? = some (name, []) := rfl

theorem Sld.pairNode_inj (name nameX nameY : String) :
    SameFibers (pairNode name nameX nameY) fun xy => (xy.1.shown, xy.2.shown) := by
  intro a b
  simp [pairNode, Node.number, Node.text, Binary64.documentText_inj]

/-- Two coordinates are shown alike exactly if the completed halves are. -/
theorem Sld.paired_inj (x y v w : Option Binary64) :
    (paired x y).map (fun xy => (xy.1.shown, xy.2.shown)) =
        (paired v w).map (fun xy => (xy.1.shown, xy.2.shown)) ↔
      shown? (completed x y) = shown? (completed v w) ∧
        shown? (completed y x) = shown? (completed w v) := by
  cases x <;> cases y <;> cases v <;> cases w <;> simp [paired, completed, shown?]

namespace PointPlacement

/-- The places in a placement beside a point. -/
def places : List (Place PointPlacement) :=
  [.part (some ("AnchorPoint", [])) (fun p => paired p.anchorPointX p.anchorPointY)
    (pairNode "AnchorPoint" "AnchorPointX" "AnchorPointY") (tag?_pairNode _ _ _),
   .part (some ("Displacement", [])) (fun p => paired p.displacementX p.displacementY)
    (pairNode "Displacement" "DisplacementX" "DisplacementY") (tag?_pairNode _ _ _),
   .number "Rotation" [] rotation]

theorem node_eq (p : PointPlacement) : p.node = .element "PointPlacement" [] (present places p) := by
  simp only [node, pair_eq, places, present_cons, present_nil, List.append_assoc, List.append_nil]
  rfl

theorem node_inj : SameFibers node normalForm := by
  intro a b
  rw [node_eq, node_eq, element_present_inj (by decide)]
  simp [places, normalForm, Place.part_write_inj (pairNode_inj _ _ _), paired_inj, and_assoc]

end PointPlacement

namespace LinePlacement

/-- The places in a placement along a line. -/
def places : List (Place LinePlacement) :=
  [.number "PerpendicularOffset" [] perpendicularOffset,
   .flag "IsAligned" [] isAligned,
   .number "Repeat" [] fun p => p.repeatDistance.filter Binary64.isPositive,
   .number "InitialGap" [] fun p => p.initialGap.filter Binary64.isPositive]

theorem node_eq (p : LinePlacement) : p.node = .element "LinePlacement" [] (present places p) := by
  simp only [node, places, present_cons, present_nil, List.append_assoc, List.append_nil]
  rfl

theorem node_inj : SameFibers node normalForm := by
  intro a b
  rw [node_eq, node_eq, element_present_inj (by decide)]
  simp [places, normalForm, shownPositive?]

end LinePlacement

namespace Placement

theorem tag?_node (placement : Placement) : placement.node.tag? = some ("LabelPlacement", []) := by
  cases placement <;> rfl

/-- Settings tell the placement in effect. -/
theorem settings_inj {a b : Placement} : a.settings = b.settings ↔ a = b := by
  cases a <;> cases b <;> simp [settings, LabelPlacement.ofPoint, LabelPlacement.ofLine]

theorem node_inj : SameFibers node fun placement => placement.normalForm.settings := by
  intro a b
  rw [settings_inj]
  cases a with
  | point p =>
    cases b with
    | point q => simpa [node, normalForm] using PointPlacement.node_inj p q
    | line q => simp [node, normalForm, PointPlacement.node, LinePlacement.node]
  | line p =>
    cases b with
    | point q => simp [node, normalForm, PointPlacement.node, LinePlacement.node]
    | line q => simpa [node, normalForm] using LinePlacement.node_inj p q

end Placement

namespace VendorOptions

/-- The places of vendor options. -/
def places : List (Place VendorOptions) :=
  [.flag "VendorOption" [("name", "labelObstacle")] fun o => o.labelObstacle.filter id,
   .flag "VendorOption" [("name", "forceLeftToRight")] fun o => o.forceLeftToRight.filter id,
   .flag "VendorOption" [("name", "conflictResolution")] conflictResolution,
   .flag "VendorOption" [("name", "followLine")] fun o => o.followLine.filter id,
   .number "VendorOption" [("name", "spaceAround")] spaceAround,
   .number "VendorOption" [("name", "maxDisplacement")] maxDisplacement,
   .number "VendorOption" [("name", "minGroupDistance")] minGroupDistance,
   .number "VendorOption" [("name", "repeat")] repeatDistance,
   .number "VendorOption" [("name", "autoWrap")] autoWrap,
   .number "VendorOption" [("name", "maxAngleDelta")] maxAngleDelta,
   .number "VendorOption" [("name", "goodnessOfFit")] goodnessOfFit]

/-- The markup of one vendor option. -/
def entryNode (entry : String × OptionValue) : Node :=
  .leaf "VendorOption" [("name", entry.1)] entry.2.text

theorem flagEntry_map (name : String) (value : Option Bool) :
    (flagEntry name value).map entryNode = ((value.filter id).map fun yes =>
      Node.leaf "VendorOption" [("name", name)] (if yes then "true" else "false")).toList := by
  match value with
  | none => rfl
  | some false => rfl
  | some true => rfl

theorem numberEntry_map (name : String) (value : Option Binary64) :
    (numberEntry name value).map entryNode = (value.map fun x =>
      Node.leaf "VendorOption" [("name", name)] x.documentText).toList := by
  cases value <;> rfl

theorem nodes_eq (o : VendorOptions) : o.nodes = present places o := by
  have conflict : (o.conflictResolution.map fun value =>
      ("conflictResolution", OptionValue.flag value)).toList.map entryNode =
        (o.conflictResolution.map fun yes => Node.leaf "VendorOption"
          [("name", "conflictResolution")] (if yes then "true" else "false")).toList := by
    cases o.conflictResolution <;> rfl
  have each : o.nodes = o.entries.map entryNode := rfl
  rw [each, entries]
  simp only [List.map_append, flagEntry_map, numberEntry_map, conflict, places, present_cons,
    present_nil, List.append_assoc, List.append_nil]
  rfl

theorem present_places_inj : SameFibers (present places) normalForm := by
  intro a b
  rw [present_inj (by decide)]
  simp [places, normalForm]

end VendorOptions

end MapStyle
