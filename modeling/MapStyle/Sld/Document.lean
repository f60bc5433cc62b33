import MapStyle.Sld.Rule

/-!
# Documents

A style is compiled to a Styled Layer Descriptor 1.0.0 document: one layer, one user style, one list
of rules. Compiling gives the document with its warnings, or the error that stopped it, and in both
cases the log of the run.
-/

namespace MapStyle

open Xml (Builder)
open Sld

namespace Sld

/-- The attributes of the root element (`SLD_ATTRIBUTES`). -/
def rootAttributes : Xml.Attributes :=
  [("version", "1.0.0"),
   ("xmlns", "http://www.opengis.net/sld"),
   ("xmlns:ogc", "http://www.opengis.net/ogc"),
   ("xmlns:xlink", "http://www.w3.org/1999/xlink"),
   ("xmlns:xsi", "http://www.w3.org/2001/XMLSchema-instance"),
   ("xsi:schemaLocation", "http://www.opengis.net/sld StyledLayerDescriptor.xsd")]

/-- A finished document with the warnings raised on the way (`CompileResult`). -/
structure Document where
  text : String
  warnings : List Warning
  deriving DecidableEq, Repr

/-- A run of the compiler. -/
structure Run where
  outcome : Except Error Document
  log : List Log.Entry

end Sld

namespace Style

/-- The name of the style in documents. -/
def effectiveName (style : Style) : String := (Text.nonBlank? style.name).getD defaultName

/-- The name of the layer in documents: the layer asked for, or else the name of the style. -/
def effectiveLayer (style : Style) (layer : Option String) : String :=
  (Text.nonBlank? layer).getD style.effectiveName

/-- The document up to the list of rules. -/
def writeHead (style : Style) (layer : Option String) (p : Progress) : Progress :=
  let named := ((p.openElement "StyledLayerDescriptor" rootAttributes).openElement
    "NamedLayer" []).write [.text "Name" (style.effectiveLayer layer)]
  let styled := (named.openElement "UserStyle" []).write
    (.text "Name" style.effectiveName ::
      (textElement "Title" style.title ++ textElement "Abstract" style.abstractText))
  (styled.openElement "FeatureTypeStyle" []).write
    (textElement "Name" style.featureTypeStyle.name ++
      textElement "Title" style.featureTypeStyle.title)

/-- Writes rules, the first of which stands at `index` (`write_feature_type_style`). -/
def writeRules : Nat → List Rule → Progress → Outcome
  | _, [], p => .ok p
  | index, rule :: rest, p =>
    match rule.write index p with
    | .ok p => writeRules (index + 1) rest p
    | .error stop => .error stop

/-- The record at the start of a run. -/
def startRecord (style : Style) : Log.Entry :=
  Log.debug ("Starting SLD export for style with " ++ toString style.rules.length ++ " rules")

/-- The record at the end of a run. -/
def completeRecord (document : Document) : Log.Entry :=
  Log.debug ("SLD export complete: " ++ toString document.text.utf8ByteSize ++ " bytes, " ++
    toString document.warnings.length ++ " warnings")

/-- Nothing written yet, after the first record. -/
def begin (style : Style) : Progress :=
  { builder := Builder.empty, warnings := [], log := [style.startRecord] }

/-- Compiles a style for a layer (`compile_sld`). -/
def compile (style : Style) (layer : Option String) : Run :=
  match writeRules 0 style.rules (style.writeHead layer style.begin) with
  | .error stop => { outcome := .error stop.error, log := stop.progress.log }
  | .ok p =>
    let document : Document :=
      { text := p.close.close.close.close.builder.finish, warnings := p.warnings }
    { outcome := .ok document, log := p.log ++ [completeRecord document] }

/-- The text of a style's document (`to_sld`). -/
def toSld (style : Style) (layer : Option String) : Except Error String :=
  (style.compile layer).outcome.map Document.text

end Style

namespace Sld

/-- The run of reading a style from a document, which is not possible (`parse_sld`). -/
def parse (_text : String) : Except Error Style × List Log.Entry :=
  (.error (.notImplemented "SLD parsing"),
    [Log.warn "parse_sld called, but SLD parsing is not implemented"])

end Sld

end MapStyle
