import MapStyle.Proofs.Number.DocumentText
import MapStyle.Proofs.Xml.Hyphens
import MapStyle.Sld.Document

/-!
# Normal forms of styles

What is left of a style once everything is dropped that documents do not show: blank texts, scale
bounds and distances that are not positive, the placement that is not in effect, a halo that is not
enabled, flags that repeat the server's default, the sign of zero, and the way a filter was typed.
-/

namespace MapStyle

/-- A number that is set, as documents show it. -/
def Sld.shown? (x : Option Binary64) : Option Binary64 := x.map Binary64.shown

/-- A number that is set and greater than zero, as documents show it. -/
def Sld.shownPositive? (x : Option Binary64) : Option Binary64 :=
  Sld.shown? (x.filter Binary64.isPositive)

/-- One half of a pair of coordinates, which is zero where only the other half is set. -/
def Sld.completed (x other : Option Binary64) : Option Binary64 :=
  if other.isSome then some (x.getD Binary64.zero) else x

open Sld

/-! ## Symbolizers -/

/-- What a document shows of a fill. -/
def Fill.normalForm (fill : Fill) : Fill :=
  { color := Text.nonBlank? fill.color
    opacity := shown? fill.opacity }

/-- What a document shows of a stroke. -/
def Stroke.normalForm (stroke : Stroke) : Stroke :=
  { color := Text.nonBlank? stroke.color
    width := shown? stroke.width
    opacity := shown? stroke.opacity
    dashArray := Text.nonBlank? stroke.dashArray }

/-- What a document shows of a mark. -/
def Mark.normalForm (mark : Mark) : Mark :=
  { wellKnownName := Text.nonBlank? mark.wellKnownName
    fill := mark.fill.map Fill.normalForm
    stroke := mark.stroke.map Stroke.normalForm
    size := shown? mark.size }

/-- What a document shows of a font. -/
def Font.normalForm (font : Font) : Font :=
  { family := Text.nonBlank? font.family
    size := shown? font.size
    style := Text.nonBlank? font.style
    weight := Text.nonBlank? font.weight
    fill := font.fill.map Fill.normalForm }

/-- Whether a label names a property. -/
def Label.isFilled (label : Label) : Bool := !Text.isBlank label.propertyName

/-- What a document shows of a placement beside a point. -/
def PointPlacement.normalForm (p : PointPlacement) : PointPlacement :=
  { anchorPointX := shown? (completed p.anchorPointX p.anchorPointY)
    anchorPointY := shown? (completed p.anchorPointY p.anchorPointX)
    displacementX := shown? (completed p.displacementX p.displacementY)
    displacementY := shown? (completed p.displacementY p.displacementX)
    rotation := shown? p.rotation }

/-- What a document shows of a placement along a line. -/
def LinePlacement.normalForm (p : LinePlacement) : LinePlacement :=
  { perpendicularOffset := shown? p.perpendicularOffset
    isAligned := p.isAligned
    repeatDistance := shownPositive? p.repeatDistance
    initialGap := shownPositive? p.initialGap }

/-- What a document shows of the placement in effect. -/
def Placement.normalForm : Placement → Placement
  | .point p => .point p.normalForm
  | .line p => .line p.normalForm

/-- Settings with nothing but the placement in effect. -/
def Placement.settings : Placement → LabelPlacement
  | .point p => .ofPoint p
  | .line p => .ofLine p

/-- What a document shows of the settings of placements, if one of them is in effect. -/
def LabelPlacement.normalForm? (settings : LabelPlacement) : Option LabelPlacement :=
  settings.selected.map fun placement => placement.normalForm.settings

/-- What a document shows of a halo. -/
def Halo.normalForm (halo : Halo) : Halo :=
  { enabled := halo.enabled
    radius := shown? halo.radius
    fill := halo.fill.map Fill.normalForm }

/-- What a document shows of vendor options. A no to conflict resolution is shown, any other no is
    not. -/
def VendorOptions.normalForm (o : VendorOptions) : VendorOptions :=
  { labelObstacle := o.labelObstacle.filter id
    forceLeftToRight := o.forceLeftToRight.filter id
    conflictResolution := o.conflictResolution
    followLine := o.followLine.filter id
    spaceAround := shown? o.spaceAround
    maxDisplacement := shown? o.maxDisplacement
    minGroupDistance := shown? o.minGroupDistance
    repeatDistance := shown? o.repeatDistance
    autoWrap := shown? o.autoWrap
    maxAngleDelta := shown? o.maxAngleDelta
    goodnessOfFit := shown? o.goodnessOfFit }

/-- What a document shows of a text symbolizer. -/
def TextSymbolizer.normalForm (s : TextSymbolizer) : TextSymbolizer :=
  { label := s.label.filter Label.isFilled
    font := s.font.map Font.normalForm
    labelPlacement := s.labelPlacement.bind LabelPlacement.normalForm?
    halo := (s.halo.filter Halo.enabled).map Halo.normalForm
    vendorOptions := s.vendorOptions.normalForm }

/-- What a document shows of a symbolizer. -/
def Symbolizer.normalForm : Symbolizer → Symbolizer
  | .polygon s =>
    .polygon { fill := s.fill.map Fill.normalForm, stroke := s.stroke.map Stroke.normalForm }
  | .line s => .line { stroke := s.stroke.map Stroke.normalForm }
  | .point s => .point { mark := s.mark.normalForm }
  | .text s => .text s.normalForm
  | .unsupported json => .unsupported json

/-! ## Rules and styles -/

/-- A filter's meaning, with the hyphens kept apart in a text without one. -/
def Filter.Translation.normalForm : Filter.Translation → Filter.Translation
  | .noFilter => .noFilter
  | .condition test => .condition test
  | .unparsable raw => .unparsable (String.ofList (Xml.spaced raw.toList))

/-- The normal form of a rule: its filter is a meaning, no longer a text. -/
structure Rule.NormalForm where
  name : Option String
  title : Option String
  filter : Filter.Translation
  minScaleDenominator : Option Binary64
  maxScaleDenominator : Option Binary64
  symbolizers : List Symbolizer

/-- What a document shows of a rule. -/
def Rule.normalForm (rule : Rule) : Rule.NormalForm :=
  { name := Text.nonBlank? rule.name
    title := Text.nonBlank? rule.title
    filter := rule.translation.normalForm
    minScaleDenominator := shownPositive? rule.minScaleDenominator
    maxScaleDenominator := shownPositive? rule.maxScaleDenominator
    symbolizers := rule.symbolizers.map Symbolizer.normalForm }

/-- The normal form of a style and the name of its layer. -/
structure Style.NormalForm where
  layer : String
  name : String
  title : Option String
  abstractText : Option String
  listName : Option String
  listTitle : Option String
  rules : List Rule.NormalForm

/-- What a document shows of a style. -/
def Style.normalForm (style : Style) (layer : Option String) : Style.NormalForm :=
  { layer := style.effectiveLayer layer
    name := style.effectiveName
    title := Text.nonBlank? style.title
    abstractText := Text.nonBlank? style.abstractText
    listName := Text.nonBlank? style.featureTypeStyle.name
    listTitle := Text.nonBlank? style.featureTypeStyle.title
    rules := style.rules.map Rule.normalForm }

end MapStyle
