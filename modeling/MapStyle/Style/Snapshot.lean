import MapStyle.Style.Basic

/-!
# Writing styles

A snapshot is the JSON of a part of a style (`Serialize` of the models): an object with every field,
unset ones null, its keys in ascending order. A symbolizer has its kind under `type` besides its
fields, and one of an unknown kind is the JSON it was loaded from.
-/

namespace MapStyle

open Json (optional number string bool)

/-- The snapshot of a fill. -/
def Fill.toJson (r : Fill) : Json :=
  .object [("color", optional string r.color), ("opacity", optional number r.opacity)]

/-- The snapshot of a stroke. -/
def Stroke.toJson (r : Stroke) : Json :=
  .object [
    ("color", optional string r.color), ("dashArray", optional string r.dashArray),
    ("opacity", optional number r.opacity), ("width", optional number r.width)]

/-- The snapshot of a mark. -/
def Mark.toJson (r : Mark) : Json :=
  .object [
    ("fill", optional Fill.toJson r.fill), ("size", optional number r.size),
    ("stroke", optional Stroke.toJson r.stroke), ("wellKnownName", optional string r.wellKnownName)]

/-- The snapshot of a font. -/
def Font.toJson (r : Font) : Json :=
  .object [
    ("family", optional string r.family), ("fill", optional Fill.toJson r.fill),
    ("size", optional number r.size), ("style", optional string r.style),
    ("weight", optional string r.weight)]

/-- The snapshot of a label. -/
def Label.toJson (r : Label) : Json := .object [("propertyName", string r.propertyName)]

/-- The snapshot of a placement beside a point. -/
def PointPlacement.toJson (r : PointPlacement) : Json :=
  .object [
    ("anchorPointX", optional number r.anchorPointX),
    ("anchorPointY", optional number r.anchorPointY),
    ("displacementX", optional number r.displacementX),
    ("displacementY", optional number r.displacementY),
    ("rotation", optional number r.rotation)]

/-- The snapshot of a placement along a line. -/
def LinePlacement.toJson (r : LinePlacement) : Json :=
  .object [
    ("initialGap", optional number r.initialGap), ("isAligned", optional bool r.isAligned),
    ("perpendicularOffset", optional number r.perpendicularOffset),
    ("repeat", optional number r.repeatDistance)]

/-- The snapshot of a label's placement. -/
def LabelPlacement.toJson (r : LabelPlacement) : Json :=
  .object [
    ("line", optional LinePlacement.toJson r.line),
    ("point", optional PointPlacement.toJson r.point), ("type", string r.kind)]

/-- The snapshot of a halo. -/
def Halo.toJson (r : Halo) : Json :=
  .object [
    ("enabled", bool r.enabled), ("fill", optional Fill.toJson r.fill),
    ("radius", optional number r.radius)]

/-- The snapshot of vendor options. -/
def VendorOptions.toJson (r : VendorOptions) : Json :=
  .object [
    ("autoWrap", optional number r.autoWrap),
    ("conflictResolution", optional bool r.conflictResolution),
    ("followLine", optional bool r.followLine),
    ("forceLeftToRight", optional bool r.forceLeftToRight),
    ("goodnessOfFit", optional number r.goodnessOfFit),
    ("labelObstacle", optional bool r.labelObstacle),
    ("maxAngleDelta", optional number r.maxAngleDelta),
    ("maxDisplacement", optional number r.maxDisplacement),
    ("minGroupDistance", optional number r.minGroupDistance),
    ("repeat", optional number r.repeatDistance),
    ("spaceAround", optional number r.spaceAround)]

/-- The snapshot of a symbolizer. -/
def Symbolizer.toJson : Symbolizer → Json
  | .polygon r =>
    .object [
      ("fill", optional Fill.toJson r.fill), ("stroke", optional Stroke.toJson r.stroke),
      ("type", string "polygon")]
  | .line r =>
    .object [("stroke", optional Stroke.toJson r.stroke), ("type", string "line")]
  | .point r => .object [("mark", r.mark.toJson), ("type", string "point")]
  | .text r =>
    .object [
      ("font", optional Font.toJson r.font), ("halo", optional Halo.toJson r.halo),
      ("label", optional Label.toJson r.label),
      ("labelPlacement", optional LabelPlacement.toJson r.labelPlacement),
      ("type", string "text"), ("vendorOptions", r.vendorOptions.toJson)]
  | .unsupported json => json

/-- The snapshot of a rule. -/
def Rule.toJson (r : Rule) : Json :=
  .object [
    ("filter", optional string r.filter),
    ("maxScaleDenominator", optional number r.maxScaleDenominator),
    ("minScaleDenominator", optional number r.minScaleDenominator),
    ("name", optional string r.name),
    ("symbolizers", .array (r.symbolizers.map Symbolizer.toJson)),
    ("title", optional string r.title)]

/-- The snapshot of a list of rules. -/
def FeatureTypeStyle.toJson (r : FeatureTypeStyle) : Json :=
  .object [
    ("name", optional string r.name), ("rules", .array (r.rules.map Rule.toJson)),
    ("title", optional string r.title)]

/-- The snapshot of a style. -/
def Style.toJson (r : Style) : Json :=
  .object [
    ("abstract", optional string r.abstractText),
    ("featureTypeStyle", r.featureTypeStyle.toJson),
    ("name", optional string r.name), ("title", optional string r.title)]

end MapStyle
