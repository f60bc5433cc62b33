import MapStyle.Json.Decode
import MapStyle.Style.Basic

/-!
# Reading styles

The fields of every record of a style, in the order in which an array lists them (`Deserialize` of
the models). All may be missing. A symbolizer is read as a whole first and then by its kind, so that
one of an unknown kind is kept just as it is.
-/

namespace MapStyle

open Json

variable {σ : Type} [Source σ]

/-- The fields of a fill. -/
def Fill.format : RecordFormat σ Fill where
  name := "Fill"
  empty := {}
  fields := [
    optionalField "color" readText fun r v => { r with color := v },
    optionalField "opacity" readNumber fun r v => { r with opacity := v }]
  required := []

/-- The fields of a stroke. -/
def Stroke.format : RecordFormat σ Stroke where
  name := "Stroke"
  empty := {}
  fields := [
    optionalField "color" readText fun r v => { r with color := v },
    optionalField "width" readNumber fun r v => { r with width := v },
    optionalField "opacity" readNumber fun r v => { r with opacity := v },
    optionalField "dashArray" readText fun r v => { r with dashArray := v }]
  required := []

/-- The fields of a mark. -/
def Mark.format : RecordFormat σ Mark where
  name := "Mark"
  empty := {}
  fields := [
    optionalField "wellKnownName" readText fun r v => { r with wellKnownName := v },
    optionalField "fill" Fill.format.read fun r v => { r with fill := v },
    optionalField "stroke" Stroke.format.read fun r v => { r with stroke := v },
    optionalField "size" readNumber fun r v => { r with size := v }]
  required := []

/-- The fields of a font. -/
def Font.format : RecordFormat σ Font where
  name := "Font"
  empty := {}
  fields := [
    optionalField "family" readText fun r v => { r with family := v },
    optionalField "size" readNumber fun r v => { r with size := v },
    optionalField "style" readText fun r v => { r with style := v },
    optionalField "weight" readText fun r v => { r with weight := v },
    optionalField "fill" Fill.format.read fun r v => { r with fill := v }]
  required := []

/-- The field of a label. -/
def Label.format : RecordFormat σ Label where
  name := "Label"
  empty := {}
  fields := [field "propertyName" readText fun r v => { r with propertyName := v }]
  required := []

/-- The fields of a placement beside a point. -/
def PointPlacement.format : RecordFormat σ PointPlacement where
  name := "PointPlacement"
  empty := {}
  fields := [
    optionalField "anchorPointX" readNumber fun r v => { r with anchorPointX := v },
    optionalField "anchorPointY" readNumber fun r v => { r with anchorPointY := v },
    optionalField "displacementX" readNumber fun r v => { r with displacementX := v },
    optionalField "displacementY" readNumber fun r v => { r with displacementY := v },
    optionalField "rotation" readNumber fun r v => { r with rotation := v }]
  required := []

/-- The fields of a placement along a line. -/
def LinePlacement.format : RecordFormat σ LinePlacement where
  name := "LinePlacement"
  empty := {}
  fields := [
    optionalField "perpendicularOffset" readNumber fun r v => { r with perpendicularOffset := v },
    optionalField "isAligned" readFlag fun r v => { r with isAligned := v },
    optionalField "repeat" readNumber fun r v => { r with repeatDistance := v },
    optionalField "initialGap" readNumber fun r v => { r with initialGap := v }]
  required := []

/-- The fields of a label's placement. -/
def LabelPlacement.format : RecordFormat σ LabelPlacement where
  name := "LabelPlacement"
  empty := {}
  fields := [
    field "type" readText fun r v => { r with kind := v },
    optionalField "point" PointPlacement.format.read fun r v => { r with point := v },
    optionalField "line" LinePlacement.format.read fun r v => { r with line := v }]
  required := []

/-- The fields of a halo. -/
def Halo.format : RecordFormat σ Halo where
  name := "Halo"
  empty := {}
  fields := [
    field "enabled" readFlag fun r v => { r with enabled := v },
    optionalField "radius" readNumber fun r v => { r with radius := v },
    optionalField "fill" Fill.format.read fun r v => { r with fill := v }]
  required := []

/-- The fields of the vendor options. -/
def VendorOptions.format : RecordFormat σ VendorOptions where
  name := "VendorOptions"
  empty := {}
  fields := [
    optionalField "labelObstacle" readFlag fun r v => { r with labelObstacle := v },
    optionalField "forceLeftToRight" readFlag fun r v => { r with forceLeftToRight := v },
    optionalField "conflictResolution" readFlag fun r v => { r with conflictResolution := v },
    optionalField "followLine" readFlag fun r v => { r with followLine := v },
    optionalField "spaceAround" readNumber fun r v => { r with spaceAround := v },
    optionalField "maxDisplacement" readNumber fun r v => { r with maxDisplacement := v },
    optionalField "minGroupDistance" readNumber fun r v => { r with minGroupDistance := v },
    optionalField "repeat" readNumber fun r v => { r with repeatDistance := v },
    optionalField "autoWrap" readNumber fun r v => { r with autoWrap := v },
    optionalField "maxAngleDelta" readNumber fun r v => { r with maxAngleDelta := v },
    optionalField "goodnessOfFit" readNumber fun r v => { r with goodnessOfFit := v }]
  required := []

/-- The fields of a polygon symbolizer. -/
def PolygonSymbolizer.format : RecordFormat σ PolygonSymbolizer where
  name := "PolygonSymbolizer"
  empty := {}
  fields := [
    optionalField "fill" Fill.format.read fun r v => { r with fill := v },
    optionalField "stroke" Stroke.format.read fun r v => { r with stroke := v }]
  required := []

/-- The field of a line symbolizer. -/
def LineSymbolizer.format : RecordFormat σ LineSymbolizer where
  name := "LineSymbolizer"
  empty := {}
  fields := [optionalField "stroke" Stroke.format.read fun r v => { r with stroke := v }]
  required := []

/-- The field of a point symbolizer. -/
def PointSymbolizer.format : RecordFormat σ PointSymbolizer where
  name := "PointSymbolizer"
  empty := {}
  fields := [field "mark" Mark.format.read fun r v => { r with mark := v }]
  required := []

/-- The fields of a text symbolizer. -/
def TextSymbolizer.format : RecordFormat σ TextSymbolizer where
  name := "TextSymbolizer"
  empty := {}
  fields := [
    optionalField "label" Label.format.read fun r v => { r with label := v },
    optionalField "font" Font.format.read fun r v => { r with font := v },
    optionalField "labelPlacement" LabelPlacement.format.read fun r v =>
      { r with labelPlacement := v },
    optionalField "halo" Halo.format.read fun r v => { r with halo := v },
    field "vendorOptions" VendorOptions.format.read fun r v => { r with vendorOptions := v }]
  required := []

namespace Symbolizer

/-- Reads the record of a known kind; a fault in it names the kind. -/
def readRecord {α : Type} (kind : String) (format : RecordFormat Json α) (make : α → Symbolizer)
    (json : Json) : Except Fault Symbolizer :=
  match format.read json with
  | .ok a => .ok (make a)
  | .error fault => .error (.inSymbolizer kind fault)

/-- Reads a symbolizer from a value by the text under its key `type` (`Symbolizer::deserialize`). -/
def ofJson (json : Json) : Except Fault Symbolizer :=
  match kindOf? json with
  | none => .error .untypedSymbolizer
  | some kind =>
    if kind = "polygon" then readRecord kind PolygonSymbolizer.format .polygon json
    else if kind = "line" then readRecord kind LineSymbolizer.format .line json
    else if kind = "point" then readRecord kind PointSymbolizer.format .point json
    else if kind = "text" then readRecord kind TextSymbolizer.format .text json
    else .ok (.unsupported json)

/-- Reads a symbolizer. -/
def read : Reader σ Symbolizer := fun source =>
  match Source.value? source with
  | none => .error .malformed
  | some json => ofJson json

end Symbolizer

/-- The fields of a rule. -/
def Rule.format : RecordFormat σ Rule where
  name := "Rule"
  empty := {}
  fields := [
    optionalField "name" readText fun r v => { r with name := v },
    optionalField "title" readText fun r v => { r with title := v },
    optionalField "filter" readText fun r v => { r with filter := v },
    optionalField "minScaleDenominator" readNumber fun r v => { r with minScaleDenominator := v },
    optionalField "maxScaleDenominator" readNumber fun r v => { r with maxScaleDenominator := v },
    field "symbolizers" (readList Symbolizer.read) fun r v => { r with symbolizers := v }]
  required := []

/-- The fields of a list of rules. -/
def FeatureTypeStyle.format : RecordFormat σ FeatureTypeStyle where
  name := "FeatureTypeStyle"
  empty := {}
  fields := [
    optionalField "name" readText fun r v => { r with name := v },
    optionalField "title" readText fun r v => { r with title := v },
    field "rules" (readList Rule.format.read) fun r v => { r with rules := v }]
  required := []

/-- The fields of a style. -/
def Style.format : RecordFormat σ Style where
  name := "StyleConfig"
  empty := {}
  fields := [
    optionalField "name" readText fun r v => { r with name := v },
    optionalField "title" readText fun r v => { r with title := v },
    optionalField "abstract" readText fun r v => { r with abstractText := v },
    field "featureTypeStyle" FeatureTypeStyle.format.read fun r v =>
      { r with featureTypeStyle := v }]
  required := []

/-- The style that a JSON text holds. -/
def Style.ofText (text : String) : Except Fault Style := decodeText Style.format.read text

end MapStyle
