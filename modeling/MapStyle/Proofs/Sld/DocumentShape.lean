import MapStyle.Proofs.Sld.Vocabulary
import Mathlib.Data.List.Forall2

/-!
# The shape of documents

A style without symbolizers of unknown kinds always has a document, and a reader of markup finds in
it a single tree. `Style.HasShape` says which: the parts of a style in their order, each under its
own name, and every text as the style has it. Main statement: `Style.readForest_compile`.
-/

namespace MapStyle

open Xml (Node)
open Sld

/-! ## Shapes -/

namespace Sld

/-- A leaf for a text that is set and not blank. -/
def filledLeaf (name : String) : Option String → List Node
  | some text => if Text.isBlank text then [] else [.leaf name [] text]
  | none => []

/-- A leaf for a number that is set and greater than zero. -/
def positiveLeaf (name : String) : Option Binary64 → List Node
  | some x => if x.isPositive then [.leaf name [] x.documentText] else []
  | none => []

theorem textElement_eq (name : String) (text : Option String) :
    textElement name text = filledLeaf name text := by
  cases text with
  | none => rfl
  | some s =>
    rw [textElement, Text.nonBlank?_some, filledLeaf]
    split <;> rfl

theorem positiveElement_eq (name : String) (x : Option Binary64) :
    positiveElement name x = positiveLeaf name x := by
  cases x with
  | none => rfl
  | some x =>
    rw [positiveElement, positiveLeaf, Option.filter_some]
    split <;> rfl

end Sld

/-- The name of a symbolizer's element, if its kind is known. -/
def Symbolizer.elementName? : Symbolizer → Option String
  | .polygon _ => some "PolygonSymbolizer"
  | .line _ => some "LineSymbolizer"
  | .point _ => some "PointSymbolizer"
  | .text _ => some "TextSymbolizer"
  | .unsupported _ => none

/-- The element that a symbolizer calls for, under the name of its kind. -/
def Symbolizer.HasShape (symbolizer : Symbolizer) (node : Node) : Prop :=
  symbolizer.node = .ok node ∧
    ∃ name children, symbolizer.elementName? = some name ∧ node = .element name [] children

/-- What the filter of a rule calls for: nothing if it is unset or blank, one filter element for a
    condition, and one comment for anything else. -/
def Rule.filterShape (rule : Rule) : List Node :=
  match rule.filter.map Filter.translate with
  | none | some .noFilter => []
  | some (.condition condition) => [condition.node]
  | some (.unparsable raw) => [.comment ("Unparsable filter expression: " ++ raw)]

/-- The element that a rule calls for: name, title, filter, scale bounds, and one element for each
    symbolizer in order. -/
def Rule.HasShape (rule : Rule) (node : Node) : Prop :=
  ∃ symbolizers, List.Forall₂ Symbolizer.HasShape rule.symbolizers symbolizers ∧
    node = .element "Rule" []
      (filledLeaf "Name" rule.name ++ filledLeaf "Title" rule.title ++ rule.filterShape ++
        positiveLeaf "MinScaleDenominator" rule.minScaleDenominator ++
        positiveLeaf "MaxScaleDenominator" rule.maxScaleDenominator ++ symbolizers)

/-- The tree that a style calls for: one layer under its name, in it one user style with its name,
    title and abstract, in it one list of rules with its name and title, and in it one element for
    each rule in order. -/
def Style.HasShape (style : Style) (layer : Option String) (root : Node) : Prop :=
  ∃ rules, List.Forall₂ Rule.HasShape style.rules rules ∧
    root = .element "StyledLayerDescriptor" rootAttributes
      [.element "NamedLayer" []
        [.leaf "Name" [] (style.effectiveLayer layer),
         .element "UserStyle" []
          (.leaf "Name" [] style.effectiveName ::
            (filledLeaf "Title" style.title ++ filledLeaf "Abstract" style.abstractText ++
              [.element "FeatureTypeStyle" []
                (filledLeaf "Name" style.featureTypeStyle.name ++
                  filledLeaf "Title" style.featureTypeStyle.title ++ rules)]))]]

/-! ## Documents have it -/

theorem Symbolizer.hasShape_of_supported {symbolizer : Symbolizer}
    (known : symbolizer.isUnsupported = false) :
    ∃ node, symbolizer.node? = some node ∧ symbolizer.HasShape node := by
  cases symbolizer with
  | polygon s => exact ⟨s.node, rfl, rfl, _, _, rfl, rfl⟩
  | line s => exact ⟨s.node, rfl, rfl, _, _, rfl, rfl⟩
  | point s => exact ⟨s.node, rfl, rfl, _, _, rfl, rfl⟩
  | text s => exact ⟨s.node, rfl, rfl, _, _, rfl, rfl⟩
  | unsupported json => simp [Symbolizer.isUnsupported] at known

theorem Symbolizer.forall₂_filterMap {symbolizers : List Symbolizer}
    (known : ∀ symbolizer ∈ symbolizers, symbolizer.isUnsupported = false) :
    List.Forall₂ Symbolizer.HasShape symbolizers (symbolizers.filterMap Symbolizer.node?) := by
  induction symbolizers with
  | nil => exact .nil
  | cons symbolizer rest ih =>
    obtain ⟨node, found, shape⟩ := Symbolizer.hasShape_of_supported (known symbolizer (by simp))
    rw [List.filterMap_cons, found]
    exact .cons shape (ih fun s member => known s (by simp [member]))

theorem Rule.filterNodes_eq (rule : Rule) :
    Rule.filterNodes rule.translation = rule.filterShape := by
  rw [Rule.translation, Rule.filterShape]
  generalize rule.filter.map Filter.translate = meaning
  match meaning with
  | none => rfl
  | some .noFilter => rfl
  | some (.condition condition) => rfl
  | some (.unparsable raw) => rfl

theorem Rule.hasShape_tree {rule : Rule}
    (known : ∀ symbolizer ∈ rule.symbolizers, symbolizer.isUnsupported = false) :
    rule.HasShape rule.tree := by
  refine ⟨_, Symbolizer.forall₂_filterMap known, ?_⟩
  rw [Rule.tree, Rule.frontNodes, Rule.headNodes, Rule.scaleNodes, Rule.filterNodes_eq,
    textElement_eq, textElement_eq, positiveElement_eq, positiveElement_eq]
  simp only [List.append_assoc]

theorem Style.hasShape_tree {style : Style} (known : style.Supported) (layer : Option String) :
    style.HasShape layer (style.tree layer) := by
  refine ⟨style.rules.map Rule.tree, ?_, ?_⟩
  · apply List.forall₂_map_right_iff.2
    apply List.forall₂_same.2
    intro rule member
    exact Rule.hasShape_tree (known rule member)
  · rw [Style.tree, textElement_eq, textElement_eq, textElement_eq, textElement_eq]
    rfl

/-- A style without symbolizers of unknown kinds has a document, and reading the document gives one
    tree, the one that the style calls for, with nothing before or behind it but line breaks. Every
    text in the tree is the very text of the style. -/
theorem Style.readForest_compile (style : Style) (layer : Option String)
    (known : style.Supported) :
    ∃ document root, (style.compile layer).outcome = .ok document ∧ style.HasShape layer root ∧
      Xml.readForest document.text = some [.char '\n', root.laidOut 0, .char '\n'] := by
  have compiled := congrArg Run.outcome (Style.compile_supported known layer)
  exact ⟨_, style.tree layer, compiled, Style.hasShape_tree known layer,
    Xml.readForest_tree (wellNamed_tree style layer)⟩

/-- A style whose texts are full of markup, with a filter that cannot be understood. -/
def Style.hostile : Style :=
  { name := some "</Name>\n<!-- "
    title := some "a & b < \"c\" > 'd' ]]>"
    featureTypeStyle :=
      { rules :=
          [{ name := some "--> <Rule>"
             filter := some "x--->y"
             minScaleDenominator := some .one
             symbolizers := [Symbolizer.starter, .text { label := some { propertyName := "&lt;" } }] }] } }

theorem Style.readForest_compile_hostile : Style.hostile.Supported ∧
    ∃ document root, (Style.hostile.compile (some "]]>--")).outcome = .ok document ∧
      Style.hostile.HasShape (some "]]>--") root ∧
      Xml.readForest document.text = some [.char '\n', root.laidOut 0, .char '\n'] :=
  ⟨by decide, Style.readForest_compile Style.hostile (some "]]>--") (by decide)⟩

end MapStyle
