import MapStyle.Json.Basic

/-!
# Symbolizers

A symbolizer is one rendering instruction for a geometry: an area, a line, a point marker or a
label. Whatever is unset is `none`. A symbolizer of an unknown kind is kept as the JSON it came as,
so that it can be stored again unchanged; only compiling it fails. The records are the models of the
same names, field by field.
-/

namespace MapStyle

/-- Paint for an area, a mark, glyphs or a halo. -/
structure Fill where
  color : Option String := none
  opacity : Option Binary64 := none
  deriving BEq

/-- Paint for an outline. -/
structure Stroke where
  color : Option String := none
  width : Option Binary64 := none
  opacity : Option Binary64 := none
  /-- Lengths of dashes and gaps. -/
  dashArray : Option String := none
  deriving BEq

/-- A well-known marker shape. -/
structure Mark where
  wellKnownName : Option String := none
  fill : Option Fill := none
  stroke : Option Stroke := none
  /-- Written beside the mark, not in it. -/
  size : Option Binary64 := none
  deriving BEq

/-- The font of a label and the paint of its glyphs. -/
structure Font where
  family : Option String := none
  size : Option Binary64 := none
  style : Option String := none
  weight : Option String := none
  fill : Option Fill := none
  deriving BEq

/-- The feature property that a label shows. -/
structure Label where
  propertyName : String := ""
  deriving BEq

/-- Where a label lies beside a point. -/
structure PointPlacement where
  anchorPointX : Option Binary64 := none
  anchorPointY : Option Binary64 := none
  displacementX : Option Binary64 := none
  displacementY : Option Binary64 := none
  rotation : Option Binary64 := none
  deriving BEq

/-- Where a label lies along a line. -/
structure LinePlacement where
  perpendicularOffset : Option Binary64 := none
  isAligned : Option Bool := none
  repeatDistance : Option Binary64 := none
  initialGap : Option Binary64 := none
  deriving BEq

/-- The settings of both placements; `kind` names the one in effect, and the other is kept. -/
structure LabelPlacement where
  kind : String := ""
  point : Option PointPlacement := none
  line : Option LinePlacement := none
  deriving BEq

/-- The placement in effect. -/
inductive Placement
  | point (placement : PointPlacement)
  | line (placement : LinePlacement)

namespace LabelPlacement

/-- Settings that place a label beside a point (`LabelPlacement::point`). -/
def ofPoint (placement : PointPlacement) : LabelPlacement :=
  { kind := "point", point := some placement }

/-- Settings that place a label along a line (`LabelPlacement::line`). -/
def ofLine (placement : LinePlacement) : LabelPlacement :=
  { kind := "line", line := some placement }

/-- The placement in effect (`LabelPlacement::selected`): that which `kind` names, if it is there. -/
def selected (settings : LabelPlacement) : Option Placement :=
  if settings.kind = "point" then settings.point.map .point
  else if settings.kind = "line" then settings.line.map .line
  else none

end LabelPlacement

/-- An outline around glyphs, drawn only when enabled. -/
structure Halo where
  enabled : Bool := false
  radius : Option Binary64 := none
  fill : Option Fill := none
  deriving BEq

/-- How the map server places labels. -/
structure VendorOptions where
  /-- Labels keep other labels away. -/
  labelObstacle : Option Bool := none
  /-- Text runs left to right whatever the direction of the line. -/
  forceLeftToRight : Option Bool := none
  /-- The server resolves conflicts by default, so an explicit no means something. -/
  conflictResolution : Option Bool := none
  /-- The label bends along the line. -/
  followLine : Option Bool := none
  spaceAround : Option Binary64 := none
  maxDisplacement : Option Binary64 := none
  minGroupDistance : Option Binary64 := none
  repeatDistance : Option Binary64 := none
  autoWrap : Option Binary64 := none
  maxAngleDelta : Option Binary64 := none
  goodnessOfFit : Option Binary64 := none
  deriving BEq

/-- The value of a vendor option as it is written (`VendorOptionValue`). -/
inductive OptionValue
  | flag (value : Bool)
  | number (value : Binary64)

namespace VendorOptions

/-- A flag that is written only when it holds. -/
def flagEntry (name : String) (value : Option Bool) : List (String × OptionValue) :=
  if value = some true then [(name, .flag true)] else []

/-- A number that is written whenever it is set, zero included. -/
def numberEntry (name : String) (value : Option Binary64) : List (String × OptionValue) :=
  (value.map fun x => (name, .number x)).toList

/-- The options to write, in document order (`VendorOptions::entries`). Conflict resolution is
    written for both answers. -/
def entries (o : VendorOptions) : List (String × OptionValue) :=
  flagEntry "labelObstacle" o.labelObstacle ++
  flagEntry "forceLeftToRight" o.forceLeftToRight ++
  (o.conflictResolution.map fun value => ("conflictResolution", .flag value)).toList ++
  flagEntry "followLine" o.followLine ++
  numberEntry "spaceAround" o.spaceAround ++
  numberEntry "maxDisplacement" o.maxDisplacement ++
  numberEntry "minGroupDistance" o.minGroupDistance ++
  numberEntry "repeat" o.repeatDistance ++
  numberEntry "autoWrap" o.autoWrap ++
  numberEntry "maxAngleDelta" o.maxAngleDelta ++
  numberEntry "goodnessOfFit" o.goodnessOfFit

end VendorOptions

/-- Draws an area. -/
structure PolygonSymbolizer where
  fill : Option Fill := none
  stroke : Option Stroke := none
  deriving BEq

/-- Draws a line. -/
structure LineSymbolizer where
  stroke : Option Stroke := none
  deriving BEq

/-- Draws a marker. -/
structure PointSymbolizer where
  mark : Mark := {}
  deriving BEq

/-- Draws a label. -/
structure TextSymbolizer where
  label : Option Label := none
  font : Option Font := none
  labelPlacement : Option LabelPlacement := none
  halo : Option Halo := none
  vendorOptions : VendorOptions := {}
  deriving BEq

/-- One rendering instruction. -/
inductive Symbolizer
  | polygon (polygon : PolygonSymbolizer)
  | line (line : LineSymbolizer)
  | point (point : PointSymbolizer)
  | text (text : TextSymbolizer)
  /-- Of a kind not known here, as it was loaded. -/
  | unsupported (json : Json)
  deriving BEq

namespace Symbolizer

/-- The text under `type` in a JSON object. -/
def kindOf? (json : Json) : Option String :=
  match json.get? "type" with
  | some (.scalar (.string kind)) => some kind
  | _ => none

/-- The name of a symbolizer's kind (`Symbolizer::kind`). -/
def kind : Symbolizer → String
  | .polygon _ => "polygon"
  | .line _ => "line"
  | .point _ => "point"
  | .text _ => "text"
  | .unsupported json => (kindOf? json).getD ""

/-- Whether the symbolizer is of a kind not known here. -/
def isUnsupported : Symbolizer → Bool
  | .unsupported _ => true
  | _ => false

/-- The opacity of a starter area: the double nearest to seven tenths. -/
def starterOpacity : Binary64 := .finite false ⟨0x3FE6666666666666, by decide⟩

/-- The symbolizer that new rules begin with: a red area that lets some of the map through, with a
    thin black outline (`Symbolizer::starter`). -/
def starter : Symbolizer :=
  .polygon
    { fill := some { color := some "#ff0000", opacity := some starterOpacity }
      stroke := some { color := some "#000000", width := some .one, opacity := some .one } }

end Symbolizer

end MapStyle
