import MapStyle.Proofs.Sld.Tree
import MapStyle.Proofs.Xml.ReadBack

/-!
# The vocabulary of documents

The names that occur in documents, apart for elements that hold a text and for elements that hold
other elements. No name is used both ways, so an element's name tells which of the two it is. Inside
symbolizers there are fewer names, and no comments.
-/

namespace MapStyle.Sld

open Xml (Node Attributes)

/-- The elements that hold a text. -/
def leafNames : List String :=
  ["Name", "Title", "Abstract", "MinScaleDenominator", "MaxScaleDenominator", "ogc:PropertyName",
   "ogc:Literal", "CssParameter", "WellKnownName", "Size", "AnchorPointX", "AnchorPointY",
   "DisplacementX", "DisplacementY", "Rotation", "PerpendicularOffset", "IsAligned", "Repeat",
   "InitialGap", "Radius", "VendorOption"]

/-- The elements that hold other elements. -/
def elementNames : List String :=
  ["StyledLayerDescriptor", "NamedLayer", "UserStyle", "FeatureTypeStyle", "Rule", "ogc:Filter",
   "ogc:PropertyIsEqualTo", "ogc:PropertyIsNotEqualTo", "ogc:PropertyIsLessThan",
   "ogc:PropertyIsGreaterThan", "ogc:PropertyIsLessThanOrEqualTo",
   "ogc:PropertyIsGreaterThanOrEqualTo", "ogc:PropertyIsLike", "PolygonSymbolizer",
   "LineSymbolizer", "PointSymbolizer", "TextSymbolizer", "Fill", "Stroke", "Mark", "Graphic",
   "Font", "Label", "LabelPlacement", "PointPlacement", "LinePlacement", "AnchorPoint",
   "Displacement", "Halo"]

/-- The elements that symbolizers are made of, besides those that hold a text. -/
def drawingNames : List String :=
  ["PolygonSymbolizer", "LineSymbolizer", "PointSymbolizer", "TextSymbolizer", "Fill", "Stroke",
   "Mark", "Graphic", "Font", "Label", "LabelPlacement", "PointPlacement", "LinePlacement",
   "AnchorPoint", "Displacement", "Halo"]

/-- The names of attributes that occur together. -/
def attributeNames : List (List String) :=
  [[], ["name"], rootAttributes.map Prod.fst, Filter.likeAttributes.map Prod.fst]

/-- A tag of an element that holds a text. -/
def IsLeaf (name : String) (attributes : Attributes) : Prop :=
  name ∈ leafNames ∧ attributes.map Prod.fst ∈ attributeNames

/-- A tag of an element that holds other elements. -/
def IsElement (name : String) (attributes : Attributes) : Prop :=
  name ∈ elementNames ∧ attributes.map Prod.fst ∈ attributeNames

/-- A tag of an element that symbolizers are made of. -/
def IsDrawing (name : String) (attributes : Attributes) : Prop :=
  name ∈ drawingNames ∧ attributes = []

theorem mem_elementNames_of_drawing : ∀ name ∈ drawingNames, name ∈ elementNames := by
  decide +kernel

theorem not_mem_elementNames : ∀ name ∈ leafNames, name ∉ elementNames := by
  decide +kernel

theorem isName_of_mem : ∀ name ∈ leafNames ++ elementNames, Xml.isName name = true := by
  decide +kernel

theorem attributes_of_mem : ∀ names ∈ attributeNames,
    names.all Xml.isName = true ∧ names.Nodup := by
  decide +kernel

/-- Every tag of the vocabulary is well formed. -/
theorem isTag_of_mem {name : String} {attributes : Attributes}
    (known : name ∈ leafNames ++ elementNames)
    (inside : attributes.map Prod.fst ∈ attributeNames) : Xml.isTag name attributes = true := by
  obtain ⟨named, distinct⟩ := attributes_of_mem _ inside
  rw [List.all_map] at named
  simp only [Xml.isTag, Bool.and_eq_true, decide_eq_true_eq]
  exact ⟨⟨isName_of_mem name known, named⟩, distinct⟩

/-- A tree of the vocabulary, with something asked of its comments. -/
abbrev Spoken (comment : String → Prop) (node : Node) : Prop := node.All IsLeaf IsElement comment

/-- Trees of the vocabulary. -/
abbrev SpokenAll (comment : String → Prop) (nodes : List Node) : Prop :=
  Node.AllIn IsLeaf IsElement comment nodes

/-- A tree of symbolizers: fewer names, and no comments. -/
abbrev Drawn (node : Node) : Prop := node.All IsLeaf IsDrawing fun _ => False

/-- Trees of symbolizers. -/
abbrev DrawnAll (nodes : List Node) : Prop := Node.AllIn IsLeaf IsDrawing (fun _ => False) nodes

variable {element : String → Attributes → Prop} {comment : String → Prop}

theorem IsDrawing.isElement {name : String} {attributes : Attributes}
    (drawing : IsDrawing name attributes) : IsElement name attributes := by
  obtain ⟨known, rfl⟩ := drawing
  exact ⟨mem_elementNames_of_drawing name known, by decide⟩

theorem DrawnAll.spoken {nodes : List Node} (drawn : DrawnAll nodes) : SpokenAll comment nodes :=
  Node.AllIn.mono (fun _ _ => id) (fun _ _ => IsDrawing.isElement) (fun _ => False.elim) drawn

theorem Spoken.wellNamed {node : Node} (h : Spoken comment node) : node.WellNamed := by
  apply Node.All.mono _ _ (fun _ _ => trivial) h
  · intro name attributes known
    exact isTag_of_mem (List.mem_append_left _ known.1) known.2
  · intro name attributes known
    exact isTag_of_mem (List.mem_append_right _ known.1) known.2

/-! ## What documents are made of -/

theorem isLeaf_plain {name : String} (known : name ∈ leafNames) : IsLeaf name [] :=
  ⟨known, by decide⟩

theorem isLeaf_named {name : String} (known : name ∈ leafNames) (value : String) :
    IsLeaf name [("name", value)] :=
  ⟨known, show ["name"] ∈ attributeNames by decide⟩

theorem isElement_plain {name : String} (known : name ∈ elementNames) : IsElement name [] :=
  ⟨known, by decide⟩

theorem isDrawing {name : String} (known : name ∈ drawingNames) : IsDrawing name [] := ⟨known, rfl⟩

theorem spoken_textNode {name : String} (known : name ∈ leafNames) (text : String) :
    (Node.text name text).All IsLeaf element comment :=
  isLeaf_plain known

theorem spoken_numberNode {name : String} (known : name ∈ leafNames) (x : Binary64) :
    (Node.number name x).All IsLeaf element comment :=
  isLeaf_plain known

theorem spoken_parameter (name text : String) :
    (parameter name text).All IsLeaf element comment :=
  isLeaf_named (by decide) name

theorem spokenAll_append {xs ys : List Node} (hx : Node.AllIn IsLeaf element comment xs)
    (hy : Node.AllIn IsLeaf element comment ys) : Node.AllIn IsLeaf element comment (xs ++ ys) :=
  Node.allIn_append.2 ⟨hx, hy⟩

theorem spokenAll_singleton {node : Node} (h : node.All IsLeaf element comment) :
    Node.AllIn IsLeaf element comment [node] :=
  ⟨h, trivial⟩

theorem spokenAll_part {α : Type} {write : α → Node}
    (h : ∀ a, (write a).All IsLeaf element comment) (value : Option α) :
    Node.AllIn IsLeaf element comment (part write value) := by
  cases value with
  | none => trivial
  | some a => exact spokenAll_singleton (h a)

theorem spokenAll_textParameter (name : String) (text : Option String) :
    Node.AllIn IsLeaf element comment (textParameter name text) :=
  spokenAll_part (spoken_parameter name) _

theorem spokenAll_numberParameter (name : String) (x : Option Binary64) :
    Node.AllIn IsLeaf element comment (numberParameter name x) :=
  spokenAll_part (fun _ => spoken_parameter name _) x

theorem spokenAll_textElement {name : String} (known : name ∈ leafNames) (text : Option String) :
    Node.AllIn IsLeaf element comment (textElement name text) :=
  spokenAll_part (spoken_textNode known) _

theorem spokenAll_numberElement {name : String} (known : name ∈ leafNames) (x : Option Binary64) :
    Node.AllIn IsLeaf element comment (numberElement name x) :=
  spokenAll_part (spoken_numberNode known) x

theorem spokenAll_positiveElement {name : String} (known : name ∈ leafNames)
    (x : Option Binary64) : Node.AllIn IsLeaf element comment (positiveElement name x) :=
  spokenAll_numberElement known _

/-! ## Symbolizers -/

theorem drawnAll_pair {name nameX nameY : String} (known : name ∈ drawingNames)
    (knownX : nameX ∈ leafNames) (knownY : nameY ∈ leafNames) (x y : Option Binary64) :
    DrawnAll (pair name nameX nameY x y) := by
  have both : ∀ a b : Binary64,
      DrawnAll [.element name [] [.number nameX a, .number nameY b]] := fun a b =>
    spokenAll_singleton
      ⟨isDrawing known, isLeaf_plain knownX, isLeaf_plain knownY, trivial⟩
  cases x with
  | none =>
    cases y with
    | none => trivial
    | some b => exact both _ b
  | some a => exact both a _

theorem drawn_fill (fill : Fill) : Drawn fill.node :=
  ⟨isDrawing (by decide),
    spokenAll_append (spokenAll_textParameter _ _) (spokenAll_numberParameter _ _)⟩

theorem drawn_stroke (stroke : Stroke) : Drawn stroke.node := by
  refine ⟨isDrawing (by decide), ?_⟩
  apply spokenAll_append
  · apply spokenAll_append
    · exact spokenAll_append (spokenAll_textParameter _ _) (spokenAll_numberParameter _ _)
    · exact spokenAll_numberParameter _ _
  · exact spokenAll_textParameter _ _

theorem drawn_mark (mark : Mark) : Drawn mark.node := by
  refine ⟨isDrawing (by decide), ?_⟩
  apply spokenAll_append
  · exact spokenAll_append (spokenAll_textElement (by decide) _) (spokenAll_part drawn_fill _)
  · exact spokenAll_part drawn_stroke _

theorem drawnAll_font (font : Font) : DrawnAll font.nodes := by
  refine ⟨⟨isDrawing (by decide), ?_⟩, spokenAll_part drawn_fill _⟩
  apply spokenAll_append
  · apply spokenAll_append
    · exact spokenAll_append (spokenAll_textParameter _ _) (spokenAll_numberParameter _ _)
    · exact spokenAll_textParameter _ _
  · exact spokenAll_textParameter _ _

theorem drawn_halo (halo : Halo) : Drawn halo.node :=
  ⟨isDrawing (by decide),
    spokenAll_append (spokenAll_numberElement (by decide) _) (spokenAll_part drawn_fill _)⟩

theorem drawn_placement (placement : Placement) : Drawn placement.node := by
  cases placement with
  | point p =>
    refine ⟨isDrawing (by decide), ⟨isDrawing (by decide), ?_⟩, trivial⟩
    apply spokenAll_append
    · apply spokenAll_append
      · exact drawnAll_pair (by decide) (by decide) (by decide) _ _
      · exact drawnAll_pair (by decide) (by decide) (by decide) _ _
    · exact spokenAll_numberElement (by decide) _
  | line p =>
    refine ⟨isDrawing (by decide), ⟨isDrawing (by decide), ?_⟩, trivial⟩
    apply spokenAll_append
    · apply spokenAll_append
      · apply spokenAll_append
        · exact spokenAll_numberElement (by decide) _
        · exact spokenAll_part (fun _ => spoken_textNode (by decide) _) _
      · exact spokenAll_positiveElement (by decide) _
    · exact spokenAll_positiveElement (by decide) _

theorem drawnAll_label (label : Label) : DrawnAll label.nodes := by
  rw [Label.nodes]
  split
  · trivial
  · exact spokenAll_singleton ⟨isDrawing (by decide), isLeaf_plain (by decide), trivial⟩

theorem drawnAll_vendorOptions (options : VendorOptions) : DrawnAll options.nodes := by
  apply Node.allIn_iff.2
  intro node member
  obtain ⟨entry, -, rfl⟩ := List.mem_map.1 member
  exact isLeaf_named (by decide) _

theorem drawnAll_getD {α : Type} {write : α → List Node} (h : ∀ a, DrawnAll (write a))
    (value : Option α) : DrawnAll ((value.map write).getD []) := by
  cases value with
  | none => trivial
  | some a => exact h a

theorem drawn_text (s : TextSymbolizer) : Drawn s.node := by
  refine ⟨isDrawing (by decide), ?_⟩
  apply spokenAll_append
  · apply spokenAll_append
    · apply spokenAll_append
      · exact spokenAll_append (drawnAll_getD drawnAll_label _) (drawnAll_getD drawnAll_font _)
      · exact spokenAll_part drawn_placement _
    · exact spokenAll_part drawn_halo _
  · exact drawnAll_vendorOptions _

theorem drawn_symbolizer {symbolizer : Symbolizer} {node : Node}
    (written : symbolizer.node = .ok node) : Drawn node := by
  cases symbolizer with
  | polygon s =>
    obtain rfl := Except.ok.inj written
    exact ⟨isDrawing (by decide),
      spokenAll_append (spokenAll_part drawn_fill _) (spokenAll_part drawn_stroke _)⟩
  | line s =>
    obtain rfl := Except.ok.inj written
    exact ⟨isDrawing (by decide), spokenAll_part drawn_stroke _⟩
  | point s =>
    obtain rfl := Except.ok.inj written
    exact ⟨isDrawing (by decide), ⟨isDrawing (by decide), drawn_mark _,
      spokenAll_numberElement (by decide) _⟩, trivial⟩
  | text s =>
    obtain rfl := Except.ok.inj written
    exact drawn_text s
  | unsupported json => simp [Symbolizer.node] at written

theorem drawnAll_symbolizers (symbolizers : List Symbolizer) :
    DrawnAll (symbolizers.filterMap Symbolizer.node?) := by
  apply Node.allIn_iff.2
  intro node member
  obtain ⟨symbolizer, -, found⟩ := List.mem_filterMap.1 member
  rw [Symbolizer.node?] at found
  cases written : symbolizer.node with
  | ok other =>
    obtain rfl : other = node := by simpa [written, Except.toOption] using found
    exact drawn_symbolizer written
  | error kind => simp [written, Except.toOption] at found

/-! ## Rules and styles -/

theorem drawnAll_headNodes (rule : Rule) : DrawnAll rule.headNodes :=
  spokenAll_append (spokenAll_textElement (by decide) _) (spokenAll_textElement (by decide) _)

theorem drawnAll_scaleNodes (rule : Rule) : DrawnAll rule.scaleNodes :=
  spokenAll_append (spokenAll_positiveElement (by decide) _)
    (spokenAll_positiveElement (by decide) _)

theorem spoken_condition (condition : Filter.Condition) : Spoken comment condition.node := by
  cases condition with
  | comparison operator property literal =>
    refine ⟨isElement_plain (by decide), ⟨isElement_plain ?_, ?_⟩, trivial⟩
    · cases operator <;> decide
    · exact ⟨isLeaf_plain (by decide), isLeaf_plain (by decide), trivial⟩
  | like property pattern =>
    refine ⟨isElement_plain (by decide), ⟨⟨by decide, by decide⟩, ?_⟩, trivial⟩
    exact ⟨isLeaf_plain (by decide), isLeaf_plain (by decide), trivial⟩

theorem spoken_rule (said : ∀ text, comment text) (rule : Rule) : Spoken comment rule.tree := by
  refine ⟨isElement_plain (by decide), ?_⟩
  apply spokenAll_append
  · apply spokenAll_append
    · apply spokenAll_append
      · exact (drawnAll_headNodes rule).spoken
      · cases rule.translation with
        | noFilter => trivial
        | condition condition => exact spokenAll_singleton (spoken_condition condition)
        | unparsable raw => exact spokenAll_singleton (said _)
    · exact (drawnAll_scaleNodes rule).spoken
  · exact (drawnAll_symbolizers _).spoken

/-- Documents keep to the vocabulary, whatever the style's texts are. -/
theorem spoken_style (said : ∀ text, comment text) (style : Style) (layer : Option String) :
    Spoken comment (style.tree layer) := by
  have rules : SpokenAll comment (style.rules.map Rule.tree) := by
    apply Node.allIn_iff.2
    intro node member
    obtain ⟨rule, -, rfl⟩ := List.mem_map.1 member
    exact spoken_rule said rule
  have list : Spoken comment (.element "FeatureTypeStyle" []
      (textElement "Name" style.featureTypeStyle.name ++
        textElement "Title" style.featureTypeStyle.title ++ style.rules.map Rule.tree)) :=
    ⟨isElement_plain (by decide), spokenAll_append (spokenAll_append
      (spokenAll_textElement (by decide) _) (spokenAll_textElement (by decide) _)) rules⟩
  refine ⟨⟨by decide, by decide⟩, ⟨isElement_plain (by decide), isLeaf_plain (by decide), ?_⟩,
    trivial⟩
  refine ⟨⟨isElement_plain (by decide), isLeaf_plain (by decide), ?_⟩, trivial⟩
  exact spokenAll_append (spokenAll_append (spokenAll_textElement (by decide) _)
    (spokenAll_textElement (by decide) _)) (spokenAll_singleton list)

theorem spoken_tree (style : Style) (layer : Option String) :
    Spoken (fun _ => True) (style.tree layer) :=
  spoken_style (fun _ => trivial) style layer

theorem wellNamed_tree (style : Style) (layer : Option String) : (style.tree layer).WellNamed :=
  (spoken_tree style layer).wellNamed

end MapStyle.Sld
