import MapStyle.Proofs.Number.DecimalText
import MapStyle.Proofs.Sld.NormalForm
import MapStyle.Proofs.Sld.Vocabulary
import MapStyle.Proofs.Style.Storable
import MapStyle.Proofs.Xml.Selection

/-!
# Numbers in documents

A reader of a document finds the texts of the numbers in the normal form of its style, in their
order and no others. So all of them are decimal literals exactly if these numbers are finite. They
need not be: positive infinity is written wherever a number is, and negative infinity and a missing
number wherever it need not be positive. Main statement: `Style.numbers_exact`.
-/

namespace MapStyle

open Xml (Node Item Attributes select)
open Sld

/-- The numbers that a document shows of a rule. -/
def Rule.NormalForm.numbers (r : Rule.NormalForm) : List Binary64 :=
  r.minScaleDenominator.toList ++ r.maxScaleDenominator.toList ++
    r.symbolizers.flatMap Symbolizer.numbers

/-- The numbers that a document shows of a style. -/
def Style.NormalForm.numbers (r : Style.NormalForm) : List Binary64 :=
  r.rules.flatMap Rule.NormalForm.numbers

namespace Sld

/-! ## Finding numbers -/

/-- The tags of elements that hold a number. -/
def numberTags : List (String × Attributes) :=
  ["MinScaleDenominator", "MaxScaleDenominator", "Size", "AnchorPointX", "AnchorPointY",
      "DisplacementX", "DisplacementY", "Rotation", "PerpendicularOffset", "Repeat", "InitialGap",
      "Radius"].map (·, []) ++
    ["fill-opacity", "stroke-width", "stroke-opacity", "font-size"].map
      (fun name => ("CssParameter", [("name", name)])) ++
    ["spaceAround", "maxDisplacement", "minGroupDistance", "repeat", "autoWrap", "maxAngleDelta",
      "goodnessOfFit"].map fun name => ("VendorOption", [("name", name)])

/-- The text of an element that holds a number. -/
def numberText? : Item → Option String
  | .element name attributes content =>
    if (name, attributes) ∈ numberTags then Xml.text? content else none
  | _ => none

/-- The texts of the elements that hold a number, wherever they stand. -/
def numberTexts (items : List Item) : List String := select numberText? items

theorem leaf_of_mem_numberTags : ∀ tag ∈ numberTags, tag.1 ∈ leafNames := by
  decide +kernel

/-- What a reader finds of numbers in trees, whatever is open around them. -/
def Shows (nodes : List Node) (numbers : List Binary64) : Prop :=
  ∀ depth, numberTexts (Node.laidOutAll depth nodes) = numbers.map Binary64.documentText

section Shows

variable {nodes rest : List Node} {xs ys : List Binary64} {name : String} {attributes : Attributes}

theorem shows_nil : Shows [] [] := fun _ => rfl

theorem Shows.append (first : Shows nodes xs) (next : Shows rest ys) :
    Shows (nodes ++ rest) (xs ++ ys) := by
  intro depth
  rw [numberTexts, Xml.select_laidOutAll_append (fun _ => rfl), List.map_append]
  exact congrArg₂ _ (first depth) (next depth)

theorem Shows.cons {node : Node} (first : Shows [node] xs) (next : Shows rest ys) :
    Shows (node :: rest) (xs ++ ys) :=
  first.append next

/-- What shows no numbers may stand behind what shows some, -/
theorem Shows.append_dark (first : Shows nodes xs) (next : Shows rest []) :
    Shows (nodes ++ rest) xs := by
  have both := first.append next
  rwa [List.append_nil] at both

/-- and before it. -/
theorem Shows.dark_append (first : Shows nodes []) (next : Shows rest ys) :
    Shows (nodes ++ rest) ys :=
  first.append next

theorem Shows.dark_cons {node : Node} (first : Shows [node] []) (next : Shows rest ys) :
    Shows (node :: rest) ys :=
  first.append next

/-- An element that holds other elements shows what they show. -/
theorem Shows.element (inside : Shows nodes xs) (known : name ∈ elementNames)
    (attributes : Attributes) : Shows [.element name attributes nodes] xs := by
  have other : (name, attributes) ∉ numberTags := fun member =>
    not_mem_elementNames name (leaf_of_mem_numberTags _ member) known
  intro depth
  rw [numberTexts, Xml.select_laidOutAll_singleton (fun _ => rfl), Node.laidOut_element,
    Xml.select_element, numberText?, if_neg other, Xml.select_inside (fun _ => rfl)]
  exact inside (depth + 1)

theorem shows_dark (other : (name, attributes) ∉ numberTags) (text : String) :
    Shows [.leaf name attributes text] [] := by
  intro depth
  rw [numberTexts, Xml.select_laidOutAll_singleton (fun _ => rfl),
    Xml.select_leaf (fun _ => rfl), numberText?, if_neg other]
  rfl

theorem shows_comment (text : String) : Shows [.comment text] [] := by
  intro depth
  rw [numberTexts, Xml.select_laidOutAll_singleton (fun _ => rfl), Node.laidOut,
    Xml.select_comment]
  rfl

/-- A number is found, without the sign of zero. -/
theorem shows_number (known : (name, attributes) ∈ numberTags) (x : Binary64) :
    Shows [.leaf name attributes x.documentText] [x.shown] := by
  intro depth
  rw [numberTexts, Xml.select_laidOutAll_singleton (fun _ => rfl),
    Xml.select_leaf (fun _ => rfl), numberText?, if_pos known, Xml.text?_chars,
    String.ofList_toList, List.map_singleton, Binary64.documentText_shown]
  rfl

/-! ## Optional parts -/

theorem shows_part {α β : Type} {write : α → Node} (form : α → β) (numbers : β → List Binary64)
    (each : ∀ a, Shows [write a] (numbers (form a))) (value : Option α) :
    Shows (part write value) ((value.map form).toList.flatMap numbers) := by
  cases value with
  | none => exact shows_nil
  | some a =>
    rw [Option.map_some, Option.toList_some, List.flatMap_singleton]
    exact each a

theorem shows_part_dark {α : Type} {write : α → Node} (each : ∀ a, Shows [write a] [])
    (value : Option α) : Shows (part write value) [] := by
  cases value with
  | none => exact shows_nil
  | some a => exact each a

theorem shows_part_number {write : Binary64 → Node} (each : ∀ x, Shows [write x] [x.shown])
    (value : Option Binary64) : Shows (part write value) (shown? value).toList := by
  cases value with
  | none => exact shows_nil
  | some x => exact each x

theorem shows_textParameter (other : ("CssParameter", [("name", name)]) ∉ numberTags)
    (text : Option String) : Shows (textParameter name text) [] :=
  shows_part_dark (shows_dark other) _

theorem shows_numberParameter (known : ("CssParameter", [("name", name)]) ∈ numberTags)
    (x : Option Binary64) : Shows (numberParameter name x) (shown? x).toList :=
  shows_part_number (shows_number known) x

theorem shows_textElement (other : (name, []) ∉ numberTags) (text : Option String) :
    Shows (textElement name text) [] :=
  shows_part_dark (shows_dark other) _

theorem shows_numberElement (known : (name, []) ∈ numberTags) (x : Option Binary64) :
    Shows (numberElement name x) (shown? x).toList :=
  shows_part_number (shows_number known) x

theorem shows_positiveElement (known : (name, []) ∈ numberTags) (x : Option Binary64) :
    Shows (positiveElement name x) (shownPositive? x).toList :=
  shows_numberElement known _

theorem shows_filterMap {α : Type} {node? : α → Option Node} {numbers : α → List Binary64}
    (each : ∀ a, Shows (node? a).toList (numbers a)) (values : List α) :
    Shows (values.filterMap node?) (values.flatMap numbers) := by
  induction values with
  | nil => exact shows_nil
  | cons a values ih =>
    have split : (a :: values).filterMap node? = (node? a).toList ++ values.filterMap node? := by
      rw [List.filterMap_cons]
      cases node? a <;> rfl
    rw [split]
    exact (each a).append ih

end Shows

/-! ## Symbolizers -/

theorem shows_fill (fill : Fill) : Shows [fill.node] fill.normalForm.numbers :=
  ((shows_textParameter (by decide) _).dark_append (shows_numberParameter (by decide) _)).element
    (by decide) []

theorem shows_stroke (stroke : Stroke) : Shows [stroke.node] stroke.normalForm.numbers := by
  apply Shows.element _ (by decide)
  apply Shows.append_dark
  · apply Shows.append
    · exact (shows_textParameter (by decide) _).dark_append (shows_numberParameter (by decide) _)
    · exact shows_numberParameter (by decide) _
  · exact shows_textParameter (by decide) _

/-- A mark and its size, which stands beside it. -/
theorem shows_mark (mark : Mark) :
    Shows (mark.node :: numberElement "Size" mark.size) mark.normalForm.numbers := by
  have paint : Shows [mark.node] ((mark.fill.map Fill.normalForm).toList.flatMap Fill.numbers ++
      (mark.stroke.map Stroke.normalForm).toList.flatMap Stroke.numbers) := by
    apply Shows.element _ (by decide)
    apply Shows.append
    · apply Shows.dark_append
      · exact shows_textElement (by decide) _
      · exact shows_part Fill.normalForm Fill.numbers shows_fill _
    · exact shows_part Stroke.normalForm Stroke.numbers shows_stroke _
  exact paint.cons (shows_numberElement (by decide) _)

theorem shows_font (font : Font) : Shows font.nodes font.normalForm.numbers := by
  apply Shows.cons
  · apply Shows.element _ (by decide)
    apply Shows.append_dark
    · apply Shows.append_dark
      · exact (shows_textParameter (by decide) _).dark_append (shows_numberParameter (by decide) _)
      · exact shows_textParameter (by decide) _
    · exact shows_textParameter (by decide) _
  · exact shows_part Fill.normalForm Fill.numbers shows_fill _

theorem shows_halo (halo : Halo) : Shows [halo.node] halo.normalForm.numbers := by
  apply Shows.element _ (by decide)
  apply Shows.append
  · exact shows_numberElement (by decide) _
  · exact shows_part Fill.normalForm Fill.numbers shows_fill _

/-- Of a pair of which one half is set, the other is zero. -/
theorem shows_pair {name nameX nameY : String} (known : name ∈ elementNames)
    (knownX : (nameX, []) ∈ numberTags) (knownY : (nameY, []) ∈ numberTags)
    (x y : Option Binary64) :
    Shows (pair name nameX nameY x y)
      ((shown? (completed x y)).toList ++ (shown? (completed y x)).toList) := by
  have both : ∀ a b : Binary64,
      Shows [.element name [] [.number nameX a, .number nameY b]] [a.shown, b.shown] := by
    intro a b
    exact ((shows_number knownX a).cons (shows_number knownY b)).element known []
  cases x with
  | none =>
    cases y with
    | none => exact shows_nil
    | some b => exact both _ b
  | some a =>
    cases y with
    | none => exact both a _
    | some b => exact both a b

theorem shows_pointPlacement (p : PointPlacement) : Shows [p.node] p.normalForm.numbers := by
  apply Shows.element _ (by decide)
  apply Shows.append
  · rw [List.append_assoc]
    apply Shows.append
    · exact shows_pair (by decide) (by decide) (by decide) _ _
    · exact shows_pair (by decide) (by decide) (by decide) _ _
  · exact shows_numberElement (by decide) _

theorem shows_linePlacement (p : LinePlacement) : Shows [p.node] p.normalForm.numbers := by
  apply Shows.element _ (by decide)
  apply Shows.append
  · apply Shows.append
    · apply Shows.append_dark
      · exact shows_numberElement (by decide) _
      · exact shows_part_dark (fun _ => shows_dark (by decide) _) _
    · exact shows_positiveElement (by decide) _
  · exact shows_positiveElement (by decide) _

theorem shows_placement (placement : Placement) :
    Shows [placement.node] placement.normalForm.settings.numbers := by
  cases placement with
  | point p =>
    have alone : (Placement.point p).normalForm.settings.numbers = p.normalForm.numbers := by
      simp [Placement.normalForm, Placement.settings, LabelPlacement.ofPoint,
        LabelPlacement.numbers]
    rw [alone]
    exact (shows_pointPlacement p).element (by decide) []
  | line p =>
    have alone : (Placement.line p).normalForm.settings.numbers = p.normalForm.numbers := by
      simp [Placement.normalForm, Placement.settings, LabelPlacement.ofLine, LabelPlacement.numbers]
    rw [alone]
    exact (shows_linePlacement p).element (by decide) []

/-- The placement in effect, if there is one. -/
theorem shows_labelPlacement (settings : Option LabelPlacement) :
    Shows (part Placement.node (settings.bind LabelPlacement.selected))
      ((settings.bind LabelPlacement.normalForm?).toList.flatMap LabelPlacement.numbers) := by
  have form : settings.bind LabelPlacement.normalForm? =
      (settings.bind LabelPlacement.selected).map fun p : Placement => p.normalForm.settings := by
    rw [Option.map_bind]
    rfl
  rw [form]
  exact shows_part (fun p : Placement => p.normalForm.settings) LabelPlacement.numbers
    shows_placement _

section Options

variable {name : String}

/-- The markup of a list of vendor options. -/
def optionNodes (entries : List (String × OptionValue)) : List Node :=
  entries.map fun (name, value) => .leaf "VendorOption" [("name", name)] value.text

theorem optionNodes_append (xs ys : List (String × OptionValue)) :
    optionNodes (xs ++ ys) = optionNodes xs ++ optionNodes ys :=
  List.map_append

theorem shows_flagEntry (other : ("VendorOption", [("name", name)]) ∉ numberTags)
    (value : Option Bool) : Shows (optionNodes (VendorOptions.flagEntry name value)) [] := by
  rw [VendorOptions.flagEntry]
  split
  · exact shows_dark other _
  · exact shows_nil

/-- A flag that is written for both answers. -/
theorem shows_answer (other : ("VendorOption", [("name", name)]) ∉ numberTags)
    (value : Option Bool) :
    Shows (optionNodes (value.map fun answer => (name, OptionValue.flag answer)).toList) [] := by
  cases value with
  | none => exact shows_nil
  | some answer => exact shows_dark other _

theorem shows_numberEntry (known : ("VendorOption", [("name", name)]) ∈ numberTags)
    (value : Option Binary64) :
    Shows (optionNodes (VendorOptions.numberEntry name value)) (shown? value).toList := by
  cases value with
  | none => exact shows_nil
  | some x => exact shows_number known x

theorem shows_vendorOptions (options : VendorOptions) :
    Shows options.nodes options.normalForm.numbers := by
  show Shows (optionNodes options.entries) _
  simp only [VendorOptions.entries, optionNodes_append]
  exact (shows_flagEntry (by decide) _).append (shows_flagEntry (by decide) _)
    |>.append (shows_answer (by decide) _)
    |>.append (shows_flagEntry (by decide) _)
    |>.dark_append (shows_numberEntry (by decide) _)
    |>.append (shows_numberEntry (by decide) _)
    |>.append (shows_numberEntry (by decide) _)
    |>.append (shows_numberEntry (by decide) _)
    |>.append (shows_numberEntry (by decide) _)
    |>.append (shows_numberEntry (by decide) _)
    |>.append (shows_numberEntry (by decide) _)

end Options

theorem shows_label (label : Option Label) : Shows ((label.map Label.nodes).getD []) [] := by
  cases label with
  | none => exact shows_nil
  | some label =>
    rw [Option.map_some, Option.getD_some, Label.nodes]
    split
    · exact shows_nil
    · exact (shows_dark (by decide) _).element (by decide) []

theorem shows_fonts (font : Option Font) :
    Shows ((font.map Font.nodes).getD [])
      ((font.map Font.normalForm).toList.flatMap Font.numbers) := by
  cases font with
  | none => exact shows_nil
  | some font =>
    rw [Option.map_some, Option.map_some, Option.toList_some, List.flatMap_singleton]
    exact shows_font font

theorem shows_text (s : TextSymbolizer) : Shows [s.node] s.normalForm.numbers := by
  apply Shows.element _ (by decide)
  apply Shows.append
  · apply Shows.append
    · apply Shows.append
      · exact (shows_label _).dark_append (shows_fonts _)
      · exact shows_labelPlacement _
    · exact shows_part Halo.normalForm Halo.numbers shows_halo _
  · exact shows_vendorOptions _

theorem shows_symbolizer (symbolizer : Symbolizer) :
    Shows symbolizer.node?.toList symbolizer.normalForm.numbers := by
  cases symbolizer with
  | polygon s =>
    apply Shows.element _ (by decide)
    apply Shows.append
    · exact shows_part Fill.normalForm Fill.numbers shows_fill _
    · exact shows_part Stroke.normalForm Stroke.numbers shows_stroke _
  | line s =>
    apply Shows.element _ (by decide)
    exact shows_part Stroke.normalForm Stroke.numbers shows_stroke _
  | point s => exact ((shows_mark s.mark).element (by decide) []).element (by decide) []
  | text s => exact shows_text s
  | unsupported json => exact shows_nil

/-! ## Rules and styles -/

theorem shows_filter (translation : Filter.Translation) :
    Shows (Rule.filterNodes translation) [] := by
  cases translation with
  | noFilter => exact shows_nil
  | unparsable raw => exact shows_comment _
  | condition condition =>
    have operands : ∀ property literal, Shows (Filter.operands property literal) [] :=
      fun _ _ => (shows_dark (by decide) _).cons (shows_dark (by decide) _)
    cases condition with
    | comparison operator property literal =>
      have known : operator.elementName ∈ elementNames := by cases operator <;> decide
      exact ((operands property literal).element known []).element (by decide) []
    | like property pattern =>
      exact ((operands property pattern).element (by decide) _).element (by decide) []

theorem shows_rule (rule : Rule) : Shows [rule.tree] rule.normalForm.numbers := by
  have symbolizers : Shows (rule.symbolizers.filterMap Symbolizer.node?)
      ((rule.symbolizers.map Symbolizer.normalForm).flatMap Symbolizer.numbers) := by
    rw [List.flatMap_map]
    exact shows_filterMap shows_symbolizer _
  apply Shows.element _ (by decide)
  apply Shows.append _ symbolizers
  apply Shows.dark_append
  · apply Shows.append_dark
    · exact (shows_textElement (by decide) _).append (shows_textElement (by decide) _)
    · exact shows_filter _
  · exact (shows_positiveElement (by decide) _).append (shows_positiveElement (by decide) _)

theorem shows_style (style : Style) (layer : Option String) :
    Shows [style.tree layer] (style.normalForm layer).numbers := by
  have rules : Shows (style.rules.map Rule.tree)
      ((style.rules.map Rule.normalForm).flatMap Rule.NormalForm.numbers) := by
    rw [List.flatMap_map, ← List.filterMap_eq_map]
    exact shows_filterMap shows_rule _
  have list : Shows [.element "FeatureTypeStyle" []
      (textElement "Name" style.featureTypeStyle.name ++
        textElement "Title" style.featureTypeStyle.title ++ style.rules.map Rule.tree)]
      (style.normalForm layer).numbers := by
    apply Shows.element _ (by decide)
    apply Shows.dark_append _ rules
    exact (shows_textElement (by decide) _).append (shows_textElement (by decide) _)
  apply Shows.element _ (by decide)
  apply Shows.element _ (by decide)
  apply Shows.dark_cons (shows_dark (by decide) _)
  apply Shows.element _ (by decide)
  apply Shows.dark_cons (shows_dark (by decide) _)
  apply Shows.dark_append _ list
  exact (shows_textElement (by decide) _).append (shows_textElement (by decide) _)

/-- The numbers found in a document are those of the normal form of its style. -/
theorem numberTexts_document (style : Style) (layer : Option String) :
    numberTexts [.char '\n', (style.tree layer).laidOut 0, .char '\n'] =
      (style.normalForm layer).numbers.map Binary64.documentText := by
  rw [numberTexts, Xml.select_document (fun _ => rfl),
    ← Xml.select_laidOutAll_singleton (fun _ => rfl)]
  exact shows_style style layer 0

end Sld

namespace Style

/-- A reader of a document finds the numbers of the style's normal form, each with its text. None of
    the texts is that of negative zero; they are decimal literals or the words for infinities and
    missing numbers, and all are literals exactly if all numbers of the normal form are finite. -/
theorem numbers_exact {style : Style} (known : style.Supported) (layer : Option String) :
    ∃ document items, (style.compile layer).outcome = .ok document ∧
      Xml.readForest document.text = some items ∧
      numberTexts items = (style.normalForm layer).numbers.map Binary64.documentText ∧
      (∀ text ∈ numberTexts items, text ≠ "-0" ∧
        (Decimal.IsLiteral text ∨ text ∈ ["inf", "-inf", "NaN"])) ∧
      ((∀ text ∈ numberTexts items, Decimal.IsLiteral text) ↔
        AllFinite (style.normalForm layer).numbers) := by
  refine ⟨_, _, congrArg Run.outcome (compile_supported known layer),
    Xml.readForest_tree (wellNamed_tree style layer), numberTexts_document style layer, ?_, ?_⟩
  · rw [numberTexts_document, List.forall_mem_map]
    intro x _
    refine ⟨x.documentText_ne_negative_zero, ?_⟩
    by_cases finite : x.isFinite = true
    · exact .inl (Binary64.isLiteral_documentText_iff.2 finite)
    · exact .inr (Binary64.documentText_of_not_finite (Bool.eq_false_iff.2 finite))
  · rw [numberTexts_document, List.forall_mem_map]
    exact forall₂_congr fun x _ => Binary64.isLiteral_documentText_iff

/-- A style with infinities and a missing number where its document does not show them: a bound
    below zero, a placement that is not in effect and a halo that is not enabled. -/
def guarded : Style :=
  { featureTypeStyle :=
      { rules :=
          [{ minScaleDenominator := some (.infinite true)
             maxScaleDenominator := some .one
             symbolizers :=
               [.text
                 { labelPlacement := some
                     { kind := "point"
                       point := some
                         { displacementY := some (.finite true ⟨0, Nat.zero_lt_succ _⟩) }
                       line := some { initialGap := some (.infinite false) } }
                   halo := some { radius := some .nan } }] }] } }

theorem numbers_exact_guarded : guarded.Supported ∧
    ∃ document items, (guarded.compile none).outcome = .ok document ∧
      Xml.readForest document.text = some items ∧ numberTexts items = ["1", "0", "0"] ∧
      ∀ text ∈ numberTexts items, Decimal.IsLiteral text := by
  have known : guarded.Supported := by decide
  obtain ⟨document, items, compiled, read, texts, -, literals⟩ := numbers_exact known none
  refine ⟨known, document, items, compiled, read, ?_, literals.2 (by decide)⟩
  rw [texts]
  decide +kernel

/-- A style with infinities and a missing number where its document shows them. -/
def boundless : Style :=
  { featureTypeStyle :=
      { rules :=
          [{ maxScaleDenominator := some (.infinite false)
             symbolizers :=
               [.text
                 { labelPlacement := some
                     (.ofPoint
                       { displacementX := some (.infinite true), rotation := some .nan }) }] }] } }

/-- There are documents with words in place of numbers. -/
theorem compile_boundless : boundless.Supported ∧
    ∃ document items, (boundless.compile none).outcome = .ok document ∧
      Xml.readForest document.text = some items ∧
      numberTexts items = ["inf", "-inf", "0", "NaN"] ∧
      ∀ text ∈ ["inf", "-inf", "NaN"], ¬ Decimal.IsLiteral text := by
  have known : boundless.Supported := by decide
  refine ⟨known, _, _, congrArg Run.outcome (compile_supported known none),
    Xml.readForest_tree (wellNamed_tree boundless none), ?_, ?_⟩
  · rw [numberTexts_document]
    decide +kernel
  · exact fun text word => Binary64.not_isLiteral_of_mem word

end Style

end MapStyle
