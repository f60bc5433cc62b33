import MapStyle.Style.Symbolizer
import MapStyle.Text.Blank
import MapStyle.Xml.Node

/-!
# Paint in documents

The markup of the blocks that symbolizers share: fills, strokes, marks, fonts and halos. What is
unset is left out, and so is a text that is blank.
-/

namespace MapStyle

open Xml (Node)

namespace Sld

/-- An optional part of an element. -/
def part {α : Type} (write : α → Node) (value : Option α) : List Node := (value.map write).toList

/-- A named parameter (`css_parameter`). -/
def parameter (name text : String) : Node := .leaf "CssParameter" [("name", name)] text

/-- A parameter that is written unless it is blank. -/
def textParameter (name : String) (text : Option String) : List Node :=
  part (parameter name) (Text.nonBlank? text)

/-- A parameter that is written whenever it is set (`css_number`). -/
def numberParameter (name : String) (x : Option Binary64) : List Node :=
  part (fun x => parameter name x.documentText) x

/-- An element with a text that is written unless it is blank. -/
def textElement (name : String) (text : Option String) : List Node :=
  part (Node.text name) (Text.nonBlank? text)

/-- An element with a number that is written whenever it is set. -/
def numberElement (name : String) (x : Option Binary64) : List Node := part (Node.number name) x

/-- An element with a number that is written only when it is greater than zero (`scale_bound`). -/
def positiveElement (name : String) (x : Option Binary64) : List Node :=
  numberElement name (x.filter Binary64.isPositive)

end Sld

open Sld

/-- The markup of a fill (`write_fill`). -/
def Fill.node (fill : Fill) : Node :=
  .element "Fill" [] (textParameter "fill" fill.color ++ numberParameter "fill-opacity" fill.opacity)

/-- The markup of a stroke (`write_stroke`). -/
def Stroke.node (stroke : Stroke) : Node :=
  .element "Stroke" []
    (textParameter "stroke" stroke.color ++
      numberParameter "stroke-width" stroke.width ++
      numberParameter "stroke-opacity" stroke.opacity ++
      textParameter "stroke-dasharray" stroke.dashArray)

/-- The markup of a mark (`write_mark`); its size is written beside it. -/
def Mark.node (mark : Mark) : Node :=
  .element "Mark" []
    (textElement "WellKnownName" mark.wellKnownName ++
      part Fill.node mark.fill ++
      part Stroke.node mark.stroke)

/-- The markup of a font, and the paint of its glyphs beside it (`write_font`). -/
def Font.nodes (font : Font) : List Node :=
  .element "Font" []
    (textParameter "font-family" font.family ++
      numberParameter "font-size" font.size ++
      textParameter "font-style" font.style ++
      textParameter "font-weight" font.weight) ::
  part Fill.node font.fill

/-- The markup of a halo (`write_halo`). -/
def Halo.node (halo : Halo) : Node :=
  .element "Halo" [] (numberElement "Radius" halo.radius ++ part Fill.node halo.fill)

end MapStyle
