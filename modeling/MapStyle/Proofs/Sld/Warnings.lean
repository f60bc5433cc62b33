import MapStyle.Proofs.Filter.Grammar
import MapStyle.Proofs.Sld.Unsupported
import MapStyle.Proofs.Sld.Vocabulary
import MapStyle.Proofs.Xml.Selection
import Mathlib.Data.List.Forall2

/-!
# Warnings, filters and comments

What a rule's filter means shows in three places: in the warnings, in the rule's filter element and
in its comment. A reader of the document finds a filter element exactly where there is a condition,
and a comment exactly where there is a warning, and neither anywhere else. Main statement:
`Style.warnings_exact`.
-/

namespace MapStyle

open Xml (Node Item Attributes PassesOver select contentsOf commentsIn)
open Sld

/-! ## Reading a filter element -/

namespace Filter

/-- The operators by the names of their elements. -/
def operatorsByElement : List (String × Operator) :=
  [("ogc:PropertyIsEqualTo", .equalTo), ("ogc:PropertyIsNotEqualTo", .notEqualTo),
   ("ogc:PropertyIsLessThan", .lessThan), ("ogc:PropertyIsGreaterThan", .greaterThan),
   ("ogc:PropertyIsLessThanOrEqualTo", .lessThanOrEqualTo),
   ("ogc:PropertyIsGreaterThanOrEqualTo", .greaterThanOrEqualTo)]

/-- The texts of the two operands. -/
def readOperands : List (String × Attributes × List Item) → Option (String × String)
  | [(first, [], property), (second, [], literal)] =>
    if first = "ogc:PropertyName" ∧ second = "ogc:Literal" then
      (Xml.text? property).bind fun property => (Xml.text? literal).map fun literal =>
        (property, literal)
    else none
  | _ => none

/-- The test with this element, these attributes and these operands. -/
def readTest (name : String) (attributes : Attributes) (property literal : String) :
    Option Condition :=
  if name = "ogc:PropertyIsLike" then
    if attributes = [("wildCard", "*"), ("singleChar", "?"), ("escape", "\\")] then
      some (.like property literal)
    else none
  else if attributes = [] then
    (operatorsByElement.lookup name).map fun operator => .comparison operator property literal
  else none

/-- The condition that the content of a filter element says. -/
def readCondition (content : List Item) : Option Condition :=
  match Xml.elements? content with
  | some [(name, attributes, inside)] =>
    ((Xml.elements? inside).bind readOperands).bind fun (property, literal) =>
      readTest name attributes property literal
  | _ => none

/-- The element inside a filter element, with its attributes. -/
def Condition.tag : Condition → String × Attributes
  | .comparison operator _ _ => (operator.elementName, [])
  | .like _ _ => (likeElementName, likeAttributes)

/-- The two texts of a condition. -/
def Condition.texts : Condition → String × String
  | .comparison _ property literal => (property, literal)
  | .like property pattern => (property, pattern)

theorem Condition.node_eq (condition : Condition) :
    condition.node = .element "ogc:Filter" []
      [.element condition.tag.1 condition.tag.2
        (operands condition.texts.1 condition.texts.2)] := by
  cases condition <;> rfl

theorem readTest_tag (condition : Condition) :
    readTest condition.tag.1 condition.tag.2 condition.texts.1 condition.texts.2 =
      some condition := by
  cases condition with
  | comparison operator property literal => cases operator <;> rfl
  | like property pattern => rfl

/-- The content of a filter element as it is read. -/
def Condition.content (condition : Condition) (depth : Nat) : List Item :=
  Node.inside depth
    [.element condition.tag.1 condition.tag.2 (operands condition.texts.1 condition.texts.2)]

theorem Condition.laidOut_node (condition : Condition) (depth : Nat) :
    condition.node.laidOut depth = .element "ogc:Filter" [] (condition.content depth) := by
  rw [node_eq, Node.laidOut_element, content]

/-- A condition is read back from its filter element. -/
theorem readCondition_content (condition : Condition) (depth : Nat) :
    readCondition (condition.content depth) = some condition := by
  have test : Xml.elements? (condition.content depth) =
      some [(condition.tag.1, condition.tag.2,
        Node.inside (depth + 1) (operands condition.texts.1 condition.texts.2))] :=
    Xml.elements?_inside depth _
  have inside : (Xml.elements? (Node.inside (depth + 1)
      (operands condition.texts.1 condition.texts.2))).bind readOperands = some condition.texts := by
    rw [Xml.elements?_inside]
    simp [operands, Node.text, Node.entry?, readOperands, Xml.text?_chars]
  rw [readCondition, test]
  simp only [inside, Option.bind_some]
  exact readTest_tag condition

end Filter

/-! ## Warnings of rules -/

/-- A text that is not understood is kept as it was typed. -/
theorem Filter.eq_of_translate_unparsable {expression raw : String}
    (unparsable : translate expression = .unparsable raw) : raw = expression := by
  have reads := reads_translate expression
  rw [unparsable] at reads
  cases reads with
  | unparsable => rfl

namespace Rule

theorem translation_eq_unparsable {rule : Rule} {raw : String} :
    rule.translation = .unparsable raw ↔
      rule.filter = some raw ∧ ∃ other, Filter.translate raw = .unparsable other := by
  rw [translation]
  constructor
  · intro meaning
    cases typed : rule.filter with
    | none =>
      rw [typed] at meaning
      cases meaning
    | some text =>
      rw [typed] at meaning
      obtain rfl : raw = text := Filter.eq_of_translate_unparsable meaning
      exact ⟨rfl, raw, meaning⟩
  · rintro ⟨typed, other, meaning⟩
    obtain rfl := Filter.eq_of_translate_unparsable meaning
    rw [typed]
    exact meaning

/-- The warning of a rule whose filter is not understood. -/
theorem mem_warnings {rule : Rule} {index : Nat} {warning : Warning} :
    warning ∈ rule.warnings index ↔ ∃ raw, rule.filter = some raw ∧
      (∃ other, Filter.translate raw = .unparsable other) ∧
      warning = ⟨index, (Text.nonBlank? rule.name).getD "unnamed", raw,
        "Unparsable filter expression: " ++ raw⟩ := by
  rw [warnings]
  split
  · next raw meaning =>
    obtain ⟨typed, unparsable⟩ := translation_eq_unparsable.1 meaning
    rw [List.mem_singleton]
    constructor
    · rintro rfl
      exact ⟨raw, typed, unparsable, rfl⟩
    · rintro ⟨raw', typed', -, rfl⟩
      obtain rfl := Option.some.inj (typed.symm.trans typed')
      rfl
  · next understood =>
    refine iff_of_false List.not_mem_nil ?_
    rintro ⟨raw, typed, unparsable, -⟩
    exact understood raw (translation_eq_unparsable.2 ⟨typed, unparsable⟩)

end Rule

namespace Style

theorem mem_warningsFrom {rules : List Rule} {index : Nat} {warning : Warning} :
    warning ∈ warningsFrom index rules ↔
      ∃ (i : Nat) (rule : Rule), rules[i]? = some rule ∧ warning ∈ rule.warnings (index + i) := by
  induction rules generalizing index with
  | nil => simp [warningsFrom]
  | cons first rest ih =>
    rw [warningsFrom, List.mem_append, ih]
    constructor
    · rintro (here | ⟨i, rule, there, inside⟩)
      · exact ⟨0, first, rfl, here⟩
      · exact ⟨i + 1, rule, there, by rwa [Nat.add_right_comm] at inside⟩
    · rintro ⟨i, rule, there, inside⟩
      cases i with
      | zero =>
        obtain rfl := Option.some.inj there
        exact .inl inside
      | succ i => exact .inr ⟨i, rule, there, by rwa [Nat.add_right_comm]⟩

theorem pairwise_warningsFrom (index : Nat) (rules : List Rule) :
    (warningsFrom index rules).Pairwise fun first next => first.rule < next.rule := by
  induction rules generalizing index with
  | nil => exact .nil
  | cons rule rest ih =>
    have one : (rule.warnings index).Pairwise fun first next => first.rule < next.rule := by
      rw [Rule.warnings]
      split <;> simp
    refine List.pairwise_append.2 ⟨one, ih (index + 1), ?_⟩
    intro first here next there
    obtain ⟨raw, -, -, rfl⟩ := Rule.mem_warnings.1 here
    obtain ⟨i, other, -, inside⟩ := mem_warningsFrom.1 there
    obtain ⟨raw', -, -, rfl⟩ := Rule.mem_warnings.1 inside
    show index < index + 1 + i
    omega

end Style

/-! ## Filters and comments in documents -/

/-- The tags that neither rules nor filters have. -/
def Sld.IsPlain (name : String) (_ : Attributes) : Prop := name ≠ "Rule" ∧ name ≠ "ogc:Filter"

theorem Sld.isPlain_of_mem :
    ∀ name ∈ leafNames ++ drawingNames, name ≠ "Rule" ∧ name ≠ "ogc:Filter" := by
  decide +kernel

theorem Sld.isPlain_tag (condition : Filter.Condition) :
    IsPlain condition.tag.1 condition.tag.2 := by
  have operators : ∀ operator : Filter.Operator,
      operator.elementName ≠ "Rule" ∧ operator.elementName ≠ "ogc:Filter" := by
    intro operator
    cases operator <;> decide
  have like : Filter.likeElementName ≠ "Rule" ∧ Filter.likeElementName ≠ "ogc:Filter" := by decide
  cases condition with
  | comparison operator property literal => exact operators operator
  | like property pattern => exact like

/-- What a rule's element holds, as it is read. -/
def Rule.content (rule : Rule) : List Item :=
  Node.inside 4 (rule.frontNodes ++ rule.symbolizers.filterMap Symbolizer.node?)

theorem Rule.laidOut_tree (rule : Rule) :
    rule.tree.laidOut 4 = .element "Rule" [] rule.content := by
  rw [tree, Node.laidOut_element, content]

section Select

variable {β : Type} {want : Item → Option β} (dark : ∀ c, want (.char c) = none)
include dark

theorem Rule.select_trees (rules : List Rule) :
    select want (Node.laidOutAll 4 (rules.map tree)) =
      rules.flatMap fun rule =>
        (want (.element "Rule" [] rule.content)).toList ++ select want rule.content := by
  induction rules with
  | nil => rfl
  | cons rule rest ih =>
    rw [List.map_cons, Xml.select_laidOutAll_cons dark, laidOut_tree, Xml.select_element, ih]
    rfl

variable (plain : PassesOver want IsPlain)
include plain

theorem Sld.select_drawn (depth : Nat) {nodes : List Node} (drawn : DrawnAll nodes) :
    select want (Node.laidOutAll depth nodes) = [] := by
  have all : Node.AllIn IsPlain IsPlain (fun _ => False) nodes := by
    apply Node.AllIn.mono _ _ (fun _ => id) drawn
    · intro name attributes known
      exact isPlain_of_mem name (List.mem_append_left _ known.1)
    · intro name attributes known
      exact isPlain_of_mem name (List.mem_append_right _ known.1)
  exact Xml.select_all_eq_nil dark plain plain depth all

/-- Of an element that is passed over, what is found is inside. -/
theorem Sld.select_around (depth : Nat) {name : String} {attributes : Attributes}
    (other : IsPlain name attributes) (children : List Node) :
    select want (Node.laidOutAll depth [.element name attributes children]) =
      select want (Node.laidOutAll (depth + 1) children) := by
  rw [Xml.select_laidOutAll_singleton dark, Node.laidOut_element, Xml.select_element,
    plain _ _ _ other, Xml.select_inside dark]
  rfl

/-- Behind trees of symbolizers one finds what there is behind them. -/
theorem Sld.select_behind (depth : Nat) {nodes : List Node} (drawn : DrawnAll nodes)
    (rest : List Node) :
    select want (Node.laidOutAll depth (nodes ++ rest)) =
      select want (Node.laidOutAll depth rest) := by
  rw [Xml.select_laidOutAll_append dark, select_drawn dark plain depth drawn, List.nil_append]

/-- In a rule there is nothing to find but its filter. -/
theorem Rule.select_content (rule : Rule) :
    select want rule.content = select want (Node.laidOutAll 5 (filterNodes rule.translation)) := by
  rw [content, Xml.select_inside dark, frontNodes, List.append_assoc, List.append_assoc,
    select_behind dark plain 5 (drawnAll_headNodes rule), Xml.select_laidOutAll_append dark,
    select_drawn dark plain 5
      (spokenAll_append (drawnAll_scaleNodes rule) (drawnAll_symbolizers _)), List.append_nil]

/-- In a filter element there is nothing to find but itself. -/
theorem Filter.Condition.select_node (condition : Condition) (depth : Nat) :
    select want (Node.laidOutAll depth [condition.node]) =
      (want (.element "ogc:Filter" [] (condition.content depth))).toList := by
  have tag : IsPlain condition.tag.1 condition.tag.2 := isPlain_tag condition
  have inside : select want (condition.content depth) = [] := by
    rw [content, Xml.select_inside dark, select_around dark plain _ tag]
    apply select_drawn dark plain
    exact ⟨isLeaf_plain (by decide), isLeaf_plain (by decide), trivial⟩
  rw [Xml.select_laidOutAll_singleton dark, laidOut_node, Xml.select_element, inside,
    List.append_nil]

/-- In a document there is nothing to find but the rules and what is inside them. -/
theorem Style.select_document (style : Style) (layer : Option String) :
    select want [.char '\n', (style.tree layer).laidOut 0, .char '\n'] =
      style.rules.flatMap fun rule =>
        (want (.element "Rule" [] rule.content)).toList ++ select want rule.content := by
  have named : ∀ text : String, DrawnAll [.text "Name" text] := fun text =>
    spokenAll_singleton (spoken_textNode (by decide) text)
  have styled : DrawnAll (textElement "Title" style.title ++
      textElement "Abstract" style.abstractText) :=
    spokenAll_append (spokenAll_textElement (by decide) _) (spokenAll_textElement (by decide) _)
  have listed : DrawnAll (textElement "Name" style.featureTypeStyle.name ++
      textElement "Title" style.featureTypeStyle.title) :=
    spokenAll_append (spokenAll_textElement (by decide) _) (spokenAll_textElement (by decide) _)
  -- inwards through the four elements around the rules, past the texts in front of each
  rw [Xml.select_document dark, ← Xml.select_laidOutAll_singleton dark, tree,
    select_around dark plain 0 ⟨by decide, by decide⟩,
    select_around dark plain 1 ⟨by decide, by decide⟩, ← List.singleton_append,
    select_behind dark plain 2 (named _), select_around dark plain 2 ⟨by decide, by decide⟩,
    ← List.singleton_append, select_behind dark plain 3 (named _),
    select_behind dark plain 3 styled, select_around dark plain 3 ⟨by decide, by decide⟩,
    select_behind dark plain 4 listed, Rule.select_trees dark]

end Select

/-! ## What is found -/

/-- Where a rule's filter is to be seen, of all that stands inside the rule. -/
def Rule.FilterShown (rule : Rule) (content : List Item) : Prop :=
  match rule.filter.map Filter.translate with
  | none | some .noFilter => contentsOf "ogc:Filter" content = [] ∧ commentsIn content = []
  | some (.condition condition) =>
    (∃ filter, contentsOf "ogc:Filter" content = [filter] ∧
      Filter.readCondition filter = some condition) ∧ commentsIn content = []
  | some (.unparsable _) =>
    contentsOf "ogc:Filter" content = [] ∧ ∃ body, commentsIn content = [body]

theorem Sld.passesOver_rule : PassesOver (Item.contentNamed? "Rule") IsPlain :=
  fun _ _ _ other => if_neg other.1

theorem Sld.passesOver_filter : PassesOver (Item.contentNamed? "ogc:Filter") IsPlain :=
  fun _ _ _ other => if_neg other.2

theorem Sld.passesOver_comment : PassesOver Item.comment? IsPlain := fun _ _ _ _ => rfl

namespace Rule

theorem contentsOf_rule_content (rule : Rule) : contentsOf "Rule" rule.content = [] := by
  rw [contentsOf, select_content (fun _ => rfl) passesOver_rule]
  cases rule.translation with
  | noFilter => rfl
  | condition condition => exact condition.select_node (fun _ => rfl) passesOver_rule 5
  | unparsable raw => rfl

theorem filterShown_content (rule : Rule) : rule.FilterShown rule.content := by
  have filters := rule.select_content (fun _ => rfl) passesOver_filter
  have comments := rule.select_content (fun _ => rfl) passesOver_comment
  rw [FilterShown, contentsOf, commentsIn, filters, comments, translation]
  match rule.filter.map Filter.translate with
  | none => exact ⟨rfl, rfl⟩
  | some .noFilter => exact ⟨rfl, rfl⟩
  | some (.condition condition) =>
    exact ⟨⟨condition.content 5, condition.select_node (fun _ => rfl) passesOver_filter 5,
      Filter.readCondition_content condition 5⟩,
      condition.select_node (fun _ => rfl) passesOver_comment 5⟩
  | some (.unparsable raw) => exact ⟨rfl, _, rfl⟩

end Rule

namespace Style

/-- The rules are found in their order, each with its content. -/
theorem contentsOf_rule_document (style : Style) (layer : Option String) :
    contentsOf "Rule" [.char '\n', (style.tree layer).laidOut 0, .char '\n'] =
      style.rules.map Rule.content := by
  have each : ∀ rule : Rule, (Item.contentNamed? "Rule" (.element "Rule" [] rule.content)).toList ++
      select (Item.contentNamed? "Rule") rule.content = [rule.content] := by
    intro rule
    have inside : select (Item.contentNamed? "Rule") rule.content = [] :=
      rule.contentsOf_rule_content
    rw [inside]
    rfl
  rw [contentsOf, select_document (fun _ => rfl) passesOver_rule]
  simp only [each]
  exact List.map_eq_flatMap.symm

/-- Outside the rules there is nothing to find of what is not a rule itself. -/
theorem select_document_eq {β : Type} {want : Item → Option β} (dark : ∀ c, want (.char c) = none)
    (plain : PassesOver want IsPlain)
    (other : ∀ attributes content, want (.element "Rule" attributes content) = none) (style : Style)
    (layer : Option String) :
    select want [.char '\n', (style.tree layer).laidOut 0, .char '\n'] =
      (contentsOf "Rule" [.char '\n', (style.tree layer).laidOut 0, .char '\n']).flatMap
        (select want) := by
  rw [contentsOf_rule_document, select_document dark plain, List.flatMap_map]
  simp only [other]
  rfl

/-- The warnings of a document come in the order of the rules, one for each rule whose filter cannot
    be understood and none for any other, and say where the rule stands, what it is called and what
    was typed. A reader of the document finds in each rule exactly one filter element, from which the
    condition can be read back, and no comment, if the rule's filter is a condition; exactly one
    comment and no filter element if it cannot be understood; and neither if it is unset or blank.
    There are no filter elements or comments outside the rules, whatever the style's texts are. -/
theorem warnings_exact {style : Style} {layer : Option String} {document : Document}
    (compiled : (style.compile layer).outcome = .ok document) :
    (document.warnings.Pairwise fun first next => first.rule < next.rule) ∧
      (∀ warning, warning ∈ document.warnings ↔
        ∃ rule raw, style.rules[warning.rule]? = some rule ∧ rule.filter = some raw ∧
          (∃ other, Filter.translate raw = .unparsable other) ∧
          warning = ⟨warning.rule, (Text.nonBlank? rule.name).getD "unnamed", raw,
            "Unparsable filter expression: " ++ raw⟩) ∧
      ∃ items, Xml.readForest document.text = some items ∧
        List.Forall₂ Rule.FilterShown style.rules (contentsOf "Rule" items) ∧
        contentsOf "ogc:Filter" items =
          (contentsOf "Rule" items).flatMap (contentsOf "ogc:Filter") ∧
        commentsIn items = (contentsOf "Rule" items).flatMap commentsIn := by
  have whole := congrArg Run.outcome (compile_supported (supported_of_compile compiled) layer)
  obtain rfl := Except.ok.inj (compiled.symm.trans whole)
  refine ⟨pairwise_warningsFrom 0 style.rules, ?_, _,
    Xml.readForest_tree (wellNamed_tree style layer), ?_, ?_, ?_⟩
  · intro warning
    rw [mem_warningsFrom]
    constructor
    · rintro ⟨i, rule, here, inside⟩
      obtain ⟨raw, typed, unparsable, rfl⟩ := Rule.mem_warnings.1 inside
      rw [Nat.zero_add]
      exact ⟨rule, raw, here, typed, unparsable, rfl⟩
    · rintro ⟨rule, raw, here, typed, unparsable, same⟩
      refine ⟨warning.rule, rule, here, Rule.mem_warnings.2 ⟨raw, typed, unparsable, ?_⟩⟩
      rw [Nat.zero_add]
      exact same
  · rw [contentsOf_rule_document]
    apply List.forall₂_map_right_iff.2
    apply List.forall₂_same.2
    intro rule _
    exact rule.filterShown_content
  · exact select_document_eq (fun _ => rfl) passesOver_filter (fun _ _ => rfl) style layer
  · exact select_document_eq (fun _ => rfl) passesOver_comment (fun _ _ => rfl) style layer

/-- A style whose names look like filters and whose filters look like comments. -/
def muddled : Style :=
  { name := some "<ogc:Filter/>"
    featureTypeStyle :=
      { rules :=
          [{ name := some "\t", title := some "<!-- a = b -->", filter := some " a=b -- " },
           { filter := some "a = <!-- b -->" },
           { filter := some "\u00a0", symbolizers := [Symbolizer.starter] },
           { name := some "Rule", filter := some "c LIKE '-->'" }] } }

theorem warnings_exact_muddled :
    ∃ document, (muddled.compile none).outcome = .ok document ∧
      ⟨0, "unnamed", " a=b -- ", "Unparsable filter expression:  a=b -- "⟩ ∈ document.warnings ∧
      ∃ items, Xml.readForest document.text = some items ∧
        List.Forall₂ Rule.FilterShown muddled.rules (contentsOf "Rule" items) := by
  have known : muddled.Supported := by decide
  have compiled := congrArg Run.outcome (compile_supported known none)
  obtain ⟨-, warned, items, read, shown, -⟩ := warnings_exact compiled
  have unparsable : Filter.translate " a=b -- " = .unparsable " a=b -- " := by decide
  refine ⟨_, compiled, (warned _).2 ?_, items, read, shown⟩
  exact ⟨_, " a=b -- ", rfl, rfl, ⟨_, unparsable⟩, rfl⟩

end Style

end MapStyle
