import MapStyle.Sld.Paint

/-!
# Symbolizers in documents

The markup of labels' placements and options, and of each kind of symbolizer. A symbolizer of an
unknown kind has none.
-/

namespace MapStyle

open Xml (Node)
open Sld

/-- A pair of coordinates, written when either is set; the other is then zero. -/
def Sld.pair (name nameX nameY : String) : Option Binary64 → Option Binary64 → List Node
  | none, none => []
  | x, y =>
    [.element name []
      [.number nameX (x.getD Binary64.zero), .number nameY (y.getD Binary64.zero)]]

/-- The markup of a placement beside a point (`write_point_placement`). -/
def PointPlacement.node (p : PointPlacement) : Node :=
  .element "PointPlacement" []
    (pair "AnchorPoint" "AnchorPointX" "AnchorPointY" p.anchorPointX p.anchorPointY ++
      pair "Displacement" "DisplacementX" "DisplacementY" p.displacementX p.displacementY ++
      numberElement "Rotation" p.rotation)

/-- The markup of a placement along a line (`write_line_placement`). -/
def LinePlacement.node (p : LinePlacement) : Node :=
  .element "LinePlacement" []
    (numberElement "PerpendicularOffset" p.perpendicularOffset ++
      part (fun aligned => .text "IsAligned" (if aligned then "true" else "false")) p.isAligned ++
      positiveElement "Repeat" p.repeatDistance ++
      positiveElement "InitialGap" p.initialGap)

/-- The markup of the placement in effect. -/
def Placement.node : Placement → Node
  | .point p => .element "LabelPlacement" [] [p.node]
  | .line p => .element "LabelPlacement" [] [p.node]

/-- The text of a vendor option. -/
def OptionValue.text : OptionValue → String
  | .flag value => if value then "true" else "false"
  | .number x => x.documentText

/-- The markup of vendor options (`write_vendor_options`). -/
def VendorOptions.nodes (options : VendorOptions) : List Node :=
  options.entries.map fun (name, value) => .leaf "VendorOption" [("name", name)] value.text

/-- The markup of a label, unless its property is blank. -/
def Label.nodes (label : Label) : List Node :=
  if Text.isBlank label.propertyName then []
  else [.element "Label" [] [.text "ogc:PropertyName" label.propertyName]]

/-- The markup of a polygon symbolizer (`write_polygon`). -/
def PolygonSymbolizer.node (s : PolygonSymbolizer) : Node :=
  .element "PolygonSymbolizer" [] (part Fill.node s.fill ++ part Stroke.node s.stroke)

/-- The markup of a line symbolizer (`write_line`). -/
def LineSymbolizer.node (s : LineSymbolizer) : Node :=
  .element "LineSymbolizer" [] (part Stroke.node s.stroke)

/-- The markup of a point symbolizer (`write_point`). -/
def PointSymbolizer.node (s : PointSymbolizer) : Node :=
  .element "PointSymbolizer" []
    [.element "Graphic" [] (s.mark.node :: numberElement "Size" s.mark.size)]

/-- The markup of a text symbolizer: label, font, placement, halo, vendor options (`write_text`). -/
def TextSymbolizer.node (s : TextSymbolizer) : Node :=
  .element "TextSymbolizer" []
    ((s.label.map Label.nodes).getD [] ++
      (s.font.map Font.nodes).getD [] ++
      part Placement.node (s.labelPlacement.bind LabelPlacement.selected) ++
      part Halo.node (s.halo.filter Halo.enabled) ++
      s.vendorOptions.nodes)

/-- The markup of a symbolizer, or the name of its kind if that is unknown (`write_symbolizer`). -/
def Symbolizer.node : Symbolizer → Except String Node
  | .polygon s => .ok s.node
  | .line s => .ok s.node
  | .point s => .ok s.node
  | .text s => .ok s.node
  | .unsupported json => .error (Symbolizer.unsupported json).kind

/-- The message about a symbolizer without markup (`SymbolizerError`). -/
def Symbolizer.unsupportedMessage (kind : String) : String :=
  "No renderer for symbolizer type '" ++ kind ++ "'"

end MapStyle
