import MapStyle.Proofs.Sld.Blocks
import MapStyle.Proofs.Sld.Vocabulary
import MapStyle.Proofs.Xml.SameText

/-!
# Documents lose nothing else

The markup of a symbolizer, a rule or a style tells exactly as much about it as its normal form does,
and so does the text of a document. Main statement: `Style.toSld_inj`.
-/

namespace MapStyle

open Xml (Node Attributes Place present present_cons present_nil present_inj present_append_inj
  element_present_inj tag?_mem_of_present)
open Sld

/-! ## Symbolizers -/

namespace TextSymbolizer

/-- The places in a text symbolizer before its vendor options. -/
def places : List (Place TextSymbolizer) :=
  [.part (some ("Label", [])) (fun s => s.label.filter Label.isFilled) Label.node Label.tag?_node,
   .part (some ("Font", [])) font Font.node Font.tag?_node,
   .part (some ("Fill", [])) (fun s => s.font.bind Font.fill) Fill.node Fill.tag?_node,
   .part (some ("LabelPlacement", [])) (fun s => s.labelPlacement.bind LabelPlacement.selected)
    Placement.node Placement.tag?_node,
   .part (some ("Halo", [])) (fun s => s.halo.filter Halo.enabled) Halo.node Halo.tag?_node]

theorem fontNodes_eq (font : Option Font) :
    (font.map Font.nodes).getD [] =
      (font.map Font.node).toList ++ ((font.bind Font.fill).map Fill.node).toList := by
  cases font with
  | none => rfl
  | some font => exact font.nodes_eq

theorem node_eq (s : TextSymbolizer) :
    s.node = .element "TextSymbolizer" []
      (present places s ++ present VendorOptions.places s.vendorOptions) := by
  simp only [node, Label.nodes_eq, fontNodes_eq, VendorOptions.nodes_eq, places, present_cons,
    present_nil, List.append_assoc, List.append_nil]
  rfl

/-- A font is shown alike exactly if it is apart from its glyphs, and the glyphs are. -/
theorem font_inj (x y : Option Font) :
    x.map (fun font => { font.normalForm with fill := none }) =
          y.map (fun font => { font.normalForm with fill := none }) ∧
        (x.bind Font.fill).map Fill.normalForm = (y.bind Font.fill).map Fill.normalForm ↔
      x.map Font.normalForm = y.map Font.normalForm := by
  cases x <;> cases y <;> simp [Font.normalForm, and_assoc]

/-- Halos that are enabled need not say so. -/
theorem halo_inj (x y : Option Halo) :
    (x.filter Halo.enabled).map (fun halo => { halo.normalForm with enabled := true }) =
        (y.filter Halo.enabled).map (fun halo => { halo.normalForm with enabled := true }) ↔
      (x.filter Halo.enabled).map Halo.normalForm =
        (y.filter Halo.enabled).map Halo.normalForm := by
  have same : ∀ z : Option Halo,
      (z.filter Halo.enabled).map (fun halo => { halo.normalForm with enabled := true }) =
        (z.filter Halo.enabled).map Halo.normalForm := by
    intro z
    cases z with
    | none => rfl
    | some halo =>
      rw [Option.filter_some]
      split
      · next enabled => simp [Halo.normalForm, enabled]
      · rfl
  rw [same, same]

theorem node_inj : SameFibers node normalForm := by
  intro a b
  have options : ∀ s : TextSymbolizer, ∀ n ∈ present VendorOptions.places s.vendorOptions,
      n.tag? ∉ places.map Place.tag := by
    intro s n member
    have apart : ∀ tag ∈ VendorOptions.places.map Place.tag, tag ∉ places.map Place.tag := by
      decide
    exact apart _ (tag?_mem_of_present member)
  rw [node_eq, node_eq, Node.element.injEq, present_append_inj (by decide) (options a) (options b),
    VendorOptions.present_places_inj]
  have placement : ∀ s : TextSymbolizer,
      (s.labelPlacement.bind LabelPlacement.selected).map (fun p => p.normalForm.settings) =
        s.labelPlacement.bind LabelPlacement.normalForm? := fun s => Option.map_bind
  simp only [places, List.forall_mem_cons, Place.part_write_inj Label.node_inj,
    Place.part_write_inj Font.node_inj, Place.part_write_inj Fill.node_inj,
    Place.part_write_inj Placement.node_inj, Place.part_write_inj Halo.node_inj, halo_inj, placement,
    normalForm, mk.injEq, ← font_inj]
  simp [and_assoc]

end TextSymbolizer

namespace Symbolizer

theorem polygon_inj : SameFibers PolygonSymbolizer.node fun s => normalForm (.polygon s) := by
  have markup : ∀ s : PolygonSymbolizer, s.node = .element "PolygonSymbolizer" []
      (present [.part (some ("Fill", [])) PolygonSymbolizer.fill Fill.node Fill.tag?_node,
        .part (some ("Stroke", [])) PolygonSymbolizer.stroke Stroke.node Stroke.tag?_node] s) := by
    intro s
    simp only [PolygonSymbolizer.node, present_cons, present_nil, List.append_nil]
    rfl
  intro a b
  rw [markup, markup, element_present_inj (by decide)]
  simp [normalForm, Place.part_write_inj Fill.node_inj, Place.part_write_inj Stroke.node_inj]

theorem line_inj : SameFibers LineSymbolizer.node fun s => normalForm (.line s) := by
  have markup : ∀ s : LineSymbolizer, s.node = .element "LineSymbolizer" []
      (present [.part (some ("Stroke", [])) LineSymbolizer.stroke Stroke.node Stroke.tag?_node]
        s) := by
    intro s
    simp only [LineSymbolizer.node, present_cons, present_nil, List.append_nil]
    rfl
  intro a b
  rw [markup, markup, element_present_inj (by decide)]
  simp [normalForm, Place.part_write_inj Stroke.node_inj]

theorem point_inj : SameFibers PointSymbolizer.node fun s => normalForm (.point s) := by
  have markup : ∀ s : PointSymbolizer, s.node = .element "PointSymbolizer" []
      [.element "Graphic" [] (present
        [.part (some ("Mark", [])) (fun s => some s.mark) Mark.node Mark.tag?_node,
          .number "Size" [] fun s => s.mark.size] s)] := by
    intro s
    simp only [PointSymbolizer.node, present_cons, present_nil, List.append_nil]
    rfl
  intro a b
  rw [markup, markup]
  simp only [Node.element.injEq, List.cons.injEq, and_true, true_and]
  rw [present_inj (by decide)]
  simp [normalForm, Place.part_write_inj Mark.node_inj, Mark.normalForm, and_assoc]

/-- Symbolizers of known kinds have the same markup exactly if they have the same normal form. -/
theorem node?_inj {a b : Symbolizer} (knownA : a.isUnsupported = false)
    (knownB : b.isUnsupported = false) : a.node? = b.node? ↔ a.normalForm = b.normalForm := by
  match a, b with
  | .polygon s, .polygon t => exact Option.some_inj.trans (polygon_inj s t)
  | .line s, .line t => exact Option.some_inj.trans (line_inj s t)
  | .point s, .point t => exact Option.some_inj.trans (point_inj s t)
  | .text s, .text t =>
    rw [normalForm, normalForm, text.injEq]
    exact Option.some_inj.trans (TextSymbolizer.node_inj s t)
  | .unsupported _, _ => simp [isUnsupported] at knownA
  | _, .unsupported _ => simp [isUnsupported] at knownB
  | .polygon _, .line _ | .polygon _, .point _ | .polygon _, .text _
  | .line _, .polygon _ | .line _, .point _ | .line _, .text _
  | .point _, .polygon _ | .point _, .line _ | .point _, .text _
  | .text _, .polygon _ | .text _, .line _ | .text _, .point _ =>
    -- elements of different kinds have different names
    simp [node?, node, normalForm, Except.toOption, PolygonSymbolizer.node, LineSymbolizer.node,
      PointSymbolizer.node, TextSymbolizer.node]

/-- Lists of symbolizers of known kinds are told apart like their members. -/
theorem filterMap_node?_inj {xs ys : List Symbolizer} (knownX : ∀ s ∈ xs, s.isUnsupported = false)
    (knownY : ∀ s ∈ ys, s.isUnsupported = false) :
    xs.filterMap node? = ys.filterMap node? ↔ xs.map normalForm = ys.map normalForm := by
  have written : ∀ {zs : List Symbolizer}, (∀ s ∈ zs, s.isUnsupported = false) →
      (zs.filterMap node?).map some = zs.map node? := by
    intro zs known
    induction zs with
    | nil => rfl
    | cons s rest ih =>
      obtain ⟨node, -, found⟩ := node_of_supported (known s List.mem_cons_self)
      rw [List.filterMap_cons, found, List.map_cons, List.map_cons, found,
        ih fun t member => known t (List.mem_cons_of_mem _ member)]
  rw [← map_eq_map_iff fun a inX b inY => node?_inj (knownX a inX) (knownY b inY), ← written knownX,
    ← written knownY, List.map_inj_right fun _ _ => Option.some.inj]

/-- The tags of symbolizers. -/
def tags : List (Option (String × Attributes)) :=
  [some ("PolygonSymbolizer", []), some ("LineSymbolizer", []), some ("PointSymbolizer", []),
   some ("TextSymbolizer", [])]

theorem tag?_mem_tags {symbolizers : List Symbolizer} {node : Node}
    (member : node ∈ symbolizers.filterMap node?) : node.tag? ∈ tags := by
  obtain ⟨symbolizer, -, found⟩ := List.mem_filterMap.1 member
  cases symbolizer with
  | polygon s =>
    obtain rfl := Option.some.inj found
    exact List.mem_cons_self
  | line s =>
    obtain rfl := Option.some.inj found
    simp [tags, LineSymbolizer.node, Node.tag?]
  | point s =>
    obtain rfl := Option.some.inj found
    simp [tags, PointSymbolizer.node, Node.tag?]
  | text s =>
    obtain rfl := Option.some.inj found
    simp [tags, TextSymbolizer.node, Node.tag?]
  | unsupported json => simp [node?, Symbolizer.node, Except.toOption] at found

end Symbolizer

/-! ## Rules -/

theorem Filter.Condition.node_inj : SameFibers Filter.Condition.node id := by
  have operators : ∀ {a b : Filter.Operator}, a.elementName = b.elementName ↔ a = b := by
    intro a b
    cases a <;> cases b <;> simp [Filter.Operator.elementName]
  intro a b
  cases a <;> cases b <;>
    simp [Filter.Condition.node, Filter.operands, Filter.likeAttributes, Node.text, operators]

theorem Filter.Condition.tag?_node (condition : Filter.Condition) :
    condition.node.tag? = some ("ogc:Filter", []) := by
  cases condition <;> rfl

namespace Filter.Translation

/-- The condition that a filter means. -/
def condition? : Translation → Option Condition
  | .condition test => some test
  | _ => none

/-- The text of a filter without a meaning. -/
def raw? : Translation → Option String
  | .unparsable raw => some raw
  | _ => none

/-- The comment that stands for a text without a meaning, its hyphens kept apart. -/
def commentNode (raw : String) : Node := (Node.comment (Rule.unparsableMessage raw)).spaced

theorem tag?_commentNode (raw : String) : (commentNode raw).tag? = none := rfl

theorem commentNode_inj :
    SameFibers commentNode fun raw => String.ofList (Xml.spaced raw.toList) := by
  have message : ∀ raw : String, Xml.spaced (Rule.unparsableMessage raw).toList =
      "Unparsable filter expression: ".toList ++ Xml.spaced raw.toList := fun raw =>
    Xml.spaced_toList_append raw (by decide +kernel) (by decide +kernel)
  intro a b
  rw [commentNode, commentNode, Node.spaced, Node.spaced, message, message, Node.comment.injEq,
    String.ofList_inj, String.ofList_inj, List.append_cancel_left_eq]

theorem normalForm_inj (a b : Translation) :
    a.condition? = b.condition? ∧
        a.raw?.map (fun raw => String.ofList (Xml.spaced raw.toList)) =
          b.raw?.map (fun raw => String.ofList (Xml.spaced raw.toList)) ↔
      a.normalForm = b.normalForm := by
  cases a <;> cases b <;> simp [condition?, raw?, normalForm]

theorem filterNodes_spaced (translation : Translation) :
    (Rule.filterNodes translation).map Node.spaced =
      (translation.condition?.map Condition.node).toList ++
        (translation.raw?.map commentNode).toList := by
  cases translation with
  | noFilter => rfl
  | condition test =>
    have same : test.node.spaced = test.node := Node.spaced_eq_self (spoken_condition test)
    exact congrArg (· :: []) same
  | unparsable raw => rfl

end Filter.Translation

namespace Rule

/-- The places in a rule before its symbolizers. -/
def places : List (Place Rule) :=
  [.leaf "Name" [] fun rule => Text.nonBlank? rule.name,
   .leaf "Title" [] fun rule => Text.nonBlank? rule.title,
   .part (some ("ogc:Filter", [])) (fun rule => rule.translation.condition?)
    Filter.Condition.node Filter.Condition.tag?_node,
   .part none (fun rule => rule.translation.raw?)
    Filter.Translation.commentNode Filter.Translation.tag?_commentNode,
   .number "MinScaleDenominator" [] fun rule =>
    rule.minScaleDenominator.filter Binary64.isPositive,
   .number "MaxScaleDenominator" [] fun rule =>
    rule.maxScaleDenominator.filter Binary64.isPositive]

theorem frontNodes_spaced (rule : Rule) : rule.frontNodes.map Node.spaced = present places rule := by
  have head : rule.headNodes.map Node.spaced = rule.headNodes := by
    rw [← Node.spacedAll_eq_map]
    exact Node.spacedAll_eq_self (drawnAll_headNodes rule)
  have scale : rule.scaleNodes.map Node.spaced = rule.scaleNodes := by
    rw [← Node.spacedAll_eq_map]
    exact Node.spacedAll_eq_self (drawnAll_scaleNodes rule)
  rw [frontNodes, List.map_append, List.map_append, head, scale,
    Filter.Translation.filterNodes_spaced]
  simp only [headNodes, scaleNodes, places, present_cons, present_nil, List.append_assoc,
    List.append_nil]
  rfl

theorem tree_spaced (rule : Rule) :
    rule.tree.spaced =
      .element "Rule" [] (present places rule ++ rule.symbolizers.filterMap Symbolizer.node?) := by
  have symbolizers : (rule.symbolizers.filterMap Symbolizer.node?).map Node.spaced =
      rule.symbolizers.filterMap Symbolizer.node? := by
    rw [← Node.spacedAll_eq_map]
    exact Node.spacedAll_eq_self (drawnAll_symbolizers _)
  rw [tree, Node.spaced, Node.spacedAll_eq_map, List.map_append, frontNodes_spaced, symbolizers]

/-- Rules have the same markup, up to the spacing of comments, exactly if they have the same normal
    form. -/
theorem tree_inj {a b : Rule} (knownA : ∀ s ∈ a.symbolizers, s.isUnsupported = false)
    (knownB : ∀ s ∈ b.symbolizers, s.isUnsupported = false) :
    a.tree.spaced = b.tree.spaced ↔ a.normalForm = b.normalForm := by
  have apart : ∀ tag ∈ Symbolizer.tags, tag ∉ places.map Place.tag := by decide
  rw [tree_spaced, tree_spaced, Node.element.injEq, present_append_inj (by decide)
    (fun _ member => apart _ (Symbolizer.tag?_mem_tags member))
    (fun _ member => apart _ (Symbolizer.tag?_mem_tags member)),
    Symbolizer.filterMap_node?_inj knownA knownB]
  simp [places, normalForm, shownPositive?, Place.part_write_inj Filter.Condition.node_inj,
    Place.part_write_inj Filter.Translation.commentNode_inj, ← Filter.Translation.normalForm_inj,
    and_assoc]

end Rule

/-! ## Styles -/

namespace Style

/-- The places in a list of rules before the rules. -/
def listPlaces : List (Place FeatureTypeStyle) :=
  [.leaf "Name" [] fun list => Text.nonBlank? list.name,
   .leaf "Title" [] fun list => Text.nonBlank? list.title]

/-- The places in a user style before its list of rules. -/
def places : List (Place Style) :=
  [.leaf "Name" [] fun style => some style.effectiveName,
   .leaf "Title" [] fun style => Text.nonBlank? style.title,
   .leaf "Abstract" [] fun style => Text.nonBlank? style.abstractText]

theorem tree_spaced (style : Style) (layer : Option String) :
    (style.tree layer).spaced = .element "StyledLayerDescriptor" rootAttributes
      [.element "NamedLayer" []
        [.leaf "Name" [] (style.effectiveLayer layer),
         .element "UserStyle" []
          (present places style ++
            [.element "FeatureTypeStyle" []
              (present listPlaces style.featureTypeStyle ++
                style.rules.map fun rule => rule.tree.spaced)])]] := by
  have texts : ∀ name ∈ leafNames, ∀ text : Option String,
      (textElement name text).map Node.spaced = textElement name text := by
    intro name known text
    have drawn : DrawnAll (textElement name text) := spokenAll_textElement known text
    rw [← Node.spacedAll_eq_map]
    exact Node.spacedAll_eq_self drawn
  rw [tree]
  simp only [Node.text, Node.spaced, Node.spacedAll_eq_map, List.map_cons, List.map_nil,
    List.map_append, texts "Name" (by decide), texts "Title" (by decide),
    texts "Abstract" (by decide), List.map_map, places, listPlaces, present_cons, present_nil,
    List.append_nil, List.append_assoc]
  rfl

/-- Documents have the same tree, up to the spacing of comments, exactly if the styles have the same
    normal form. -/
theorem tree_inj {style other : Style} {layer otherLayer : Option String} (known : style.Supported)
    (knownOther : other.Supported) :
    (style.tree layer).spaced = (other.tree otherLayer).spaced ↔
      style.normalForm layer = other.normalForm otherLayer := by
  have list : ∀ children, ∀ node ∈ [Node.element "FeatureTypeStyle" [] children],
      node.tag? ∉ places.map Place.tag := by
    intro children node member
    rw [List.mem_singleton.1 member]
    show some ("FeatureTypeStyle", []) ∉ places.map Place.tag
    decide
  have ruleTag : ∀ rules : List Rule, ∀ node ∈ rules.map fun rule => rule.tree.spaced,
      node.tag? ∉ listPlaces.map Place.tag := by
    intro rules node member
    obtain ⟨rule, -, rfl⟩ := List.mem_map.1 member
    rw [Rule.tree_spaced]
    show some ("Rule", []) ∉ listPlaces.map Place.tag
    decide
  have rules : style.rules.map (fun rule => rule.tree.spaced) =
      other.rules.map (fun rule => rule.tree.spaced) ↔
        style.rules.map Rule.normalForm = other.rules.map Rule.normalForm :=
    map_eq_map_iff fun a inA b inB => Rule.tree_inj (known a inA) (knownOther b inB)
  rw [tree_spaced, tree_spaced]
  simp only [Node.element.injEq, List.cons.injEq, Node.leaf.injEq, true_and, and_true]
  rw [present_append_inj (by decide) (list _) (list _)]
  simp only [Node.element.injEq, List.cons.injEq, true_and, and_true]
  rw [present_append_inj (by decide) (ruleTag _) (ruleTag _), rules]
  simp [places, listPlaces, normalForm, and_assoc]

/-- Styles of known kinds of symbolizers have documents, and the documents have the same text exactly
    if the styles with their layers have the same normal form. -/
theorem toSld_inj (style other : Style) (layer otherLayer : Option String)
    (known : style.Supported) (knownOther : other.Supported) :
    ∃ text otherText, style.toSld layer = .ok text ∧ other.toSld otherLayer = .ok otherText ∧
      (text = otherText ↔ style.normalForm layer = other.normalForm otherLayer) := by
  have written : ∀ {s : Style}, s.Supported → ∀ l, s.toSld l =
      .ok (Xml.Builder.declaration ++ String.ofList ((s.tree l).render 0)) := by
    intro s all l
    rw [toSld, compile_supported all]
    rfl
  have disjoint : ∀ name a b, IsLeaf name a → ¬ IsElement name b := fun name _ _ leaf element =>
    not_mem_elementNames name leaf.1 element.1
  have spoken : ∀ (s : Style) l, Spoken (fun _ => True) (s.tree l) :=
    fun s l => spoken_style (fun _ => trivial) s l
  refine ⟨_, _, written known layer, written knownOther otherLayer, ?_⟩
  rw [← tree_inj known knownOther]
  exact Node.document_inj disjoint (spoken style layer) (spoken other otherLayer)
    (spoken style layer).wellNamed (spoken other otherLayer).wellNamed

/-- A style with much that no document shows: a blank name, a bound that is none, a placement that is
    not in effect, a halo that is not enabled, a flag that is off. -/
def cluttered : Style :=
  { name := some " "
    featureTypeStyle :=
      { rules :=
          [{ filter := some "a--b"
             maxScaleDenominator := some .nan
             symbolizers := [.text
              { labelPlacement := some
                  { kind := "point", point := some { anchorPointY := some .one }, line := some {} }
                halo := some { radius := some .one }
                vendorOptions := { followLine := some false } }] }] } }

/-- The same without any of it. -/
def bare : Style :=
  { featureTypeStyle :=
      { rules :=
          [{ filter := some "a- -b"
             symbolizers := [.text
              { labelPlacement := some
                  (.ofPoint { anchorPointX := some .zero, anchorPointY := some .one }) }] }] } }

theorem toSld_inj_cluttered : cluttered.Supported ∧ bare.Supported ∧
    ∃ text, cluttered.toSld none = .ok text ∧ bare.toSld (some "default_style") = .ok text := by
  obtain ⟨text, other, first, second, same⟩ :=
    toSld_inj cluttered bare none (some "default_style") (by decide) (by decide)
  obtain rfl : text = other := same.2 rfl
  exact ⟨by decide, by decide, text, first, second⟩

end Style

end MapStyle
