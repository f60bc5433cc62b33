import MapStyle.Proofs.Session.Steps
import MapStyle.Proofs.Sld.Tree
import Mathlib.Data.List.InsertIdx

/-!
# Documents rule by rule

What writes a part of a style only adds lines behind those that are there, and the lines depend on
the part and on how many elements are open. So a document is a head, one block of lines for each
rule, and a foot, and whatever is done to the list of rules is done to the list of blocks. Main
statement: `Style.document_blocks`.
-/

namespace MapStyle

open Xml (Node Builder indented endTag)
open Sld

/-! ## Lines of parts -/

/-- What comes of a builder when lines are added to it that depend on nothing but how many elements
    are open, and the open elements stay as they are. -/
def Xml.Builder.Adds (lines : Nat → List Char) (before after : Builder) : Prop :=
  after.text = before.text ++ String.ofList (lines before.depth) ∧
    after.openElements = before.openElements

/-- The lines of a condition inside `depth` open elements. -/
def Filter.Condition.lines (condition : Filter.Condition) (depth : Nat) : List Char :=
  condition.node.render depth

/-- The lines of a symbolizer; one of an unknown kind has none. -/
def Symbolizer.lines (symbolizer : Symbolizer) (depth : Nat) : List Char :=
  Node.renderAll depth symbolizer.node?.toList

namespace Rule

/-- The lines of a rule's filter. -/
def filterLines (rule : Rule) (depth : Nat) : List Char :=
  Node.renderAll depth (filterNodes rule.translation)

/-- The lines of a rule. -/
def lines (rule : Rule) (depth : Nat) : List Char := rule.tree.render depth

/-- The text of a rule in a document, where four elements are open. -/
def block (rule : Rule) : String := String.ofList (rule.lines 4)

end Rule

namespace Xml.Builder

theorem adds_append (b : Builder) (lines : Nat → List Char) :
    Adds lines b (b.append (lines b.depth)) :=
  ⟨rfl, rfl⟩

theorem adds_addAll (b : Builder) (nodes : List Node) :
    Adds (Node.renderAll · nodes) b (b.addAll nodes) := by
  rw [addAll_eq]
  exact adds_append b (Node.renderAll · nodes)

end Xml.Builder

theorem Xml.Node.renderAll_singleton (depth : Nat) (node : Node) :
    Node.renderAll depth [node] = node.render depth := by
  rw [Node.renderAll, Node.renderAll, List.append_nil]

theorem Filter.Condition.adds_write (condition : Filter.Condition) (p : Progress) :
    Builder.Adds condition.lines p.builder (p.write [condition.node]).builder := by
  have added := p.builder.adds_addAll [condition.node]
  simp only [Node.renderAll_singleton] at added
  exact added

theorem Symbolizer.adds_write {symbolizer : Symbolizer} {node : Node}
    (written : symbolizer.node = .ok node) (p : Progress) :
    Builder.Adds symbolizer.lines p.builder (p.write [node]).builder := by
  have found : symbolizer.node? = some node := by
    rw [Symbolizer.node?, written]
    rfl
  have lines : symbolizer.lines = (Node.renderAll · [node]) := by
    funext depth
    rw [Symbolizer.lines, found]
    rfl
  rw [lines]
  exact p.builder.adds_addAll [node]

namespace Rule

theorem adds_writeFilter (rule : Rule) (index : Nat) (p : Progress) :
    Builder.Adds rule.filterLines p.builder (rule.writeFilter index p).builder := by
  rw [writeFilter_eq]
  exact p.builder.adds_addAll (filterNodes rule.translation)

/-- Symbolizers that are written to the end are all of known kinds. -/
theorem supported_of_writeSymbolizers {rule : Rule} {index position : Nat} {xs : List Symbolizer}
    {p q : Progress} (written : rule.writeSymbolizers index position xs p = .ok q) :
    ∀ symbolizer ∈ xs, symbolizer.isUnsupported = false := by
  induction xs generalizing position p with
  | nil => simp
  | cons symbolizer xs ih =>
    cases symbolizer with
    | unsupported json => simp [writeSymbolizers, Symbolizer.node] at written
    | polygon s => simpa [Symbolizer.isUnsupported] using ih written
    | line s => simpa [Symbolizer.isUnsupported] using ih written
    | point s => simpa [Symbolizer.isUnsupported] using ih written
    | text s => simpa [Symbolizer.isUnsupported] using ih written

/-- A rule that is written to the end has symbolizers of known kinds only. -/
theorem supported_of_write {rule : Rule} {index : Nat} {p q : Progress}
    (written : rule.write index p = .ok q) :
    ∀ symbolizer ∈ rule.symbolizers, symbolizer.isUnsupported = false := by
  rw [write_eq] at written
  cases inside : rule.writeSymbolizers index 0 rule.symbolizers (rule.opened index p) with
  | ok bounded => exact supported_of_writeSymbolizers inside
  | error stop => simp [inside] at written

theorem adds_write {rule : Rule} {index : Nat} {p q : Progress}
    (written : rule.write index p = .ok q) : Builder.Adds rule.lines p.builder q.builder := by
  have whole := rule.write_supported index p (supported_of_write written)
  obtain rfl := Except.ok.inj (written.symm.trans whole)
  have added := p.builder.adds_addAll [rule.tree]
  simp only [Node.renderAll_singleton] at added
  exact added

theorem ofList_renderAll_trees (rules : List Rule) :
    String.ofList (Node.renderAll 4 (rules.map tree)) = String.join (rules.map block) := by
  induction rules with
  | nil => rfl
  | cons rule rest ih =>
    rw [List.map_cons, Node.renderAll, String.ofList_append, ih, List.map_cons, String.join_cons]
    rfl

end Rule

/-! ## Documents -/

/-- The text of every document behind its rules. -/
def Sld.documentFoot : String :=
  String.ofList (indented 3 (endTag "FeatureTypeStyle") ++ indented 2 (endTag "UserStyle") ++
    indented 1 (endTag "NamedLayer") ++ indented 0 (endTag "StyledLayerDescriptor"))

namespace Style

/-- The text of a document before its rules. -/
def documentHead (style : Style) (layer : Option String) : String :=
  Builder.declaration ++ (style.writeHead layer style.begin).builder.text

/-- The text made of a document's head, blocks and the foot. -/
def assembled (style : Style) (layer : Option String) (blocks : List String) : String :=
  style.documentHead layer ++ String.join blocks ++ documentFoot

/-- The rules have no part in what stands before them. -/
theorem documentHead_withRules (style : Style) (layer : Option String) (rules : List Rule) :
    (style.withRules rules).documentHead layer = style.documentHead layer := by
  have same : ((style.withRules rules).writeHead layer (style.withRules rules).begin).builder =
      (style.writeHead layer style.begin).builder := by
    simp only [writeHead, Progress.write, Progress.openElement]
    rfl
  rw [documentHead, documentHead, same]

theorem writeHead_openElements (style : Style) (layer : Option String) :
    (style.writeHead layer style.begin).builder.openElements =
      ["FeatureTypeStyle", "UserStyle", "NamedLayer", "StyledLayerDescriptor"] := by
  simp only [writeHead, Progress.write, Progress.openElement, Builder.addAll_openElements,
    Builder.openElement_openElements]
  rfl

/-- The four elements that are open behind a document's rules are closed by its foot. -/
theorem finish_append_close {b : Builder} (lines : List Char)
    (inside : b.openElements =
      ["FeatureTypeStyle", "UserStyle", "NamedLayer", "StyledLayerDescriptor"]) :
    (b.append lines).close.close.close.close.finish =
      Builder.declaration ++ (b.text ++ String.ofList lines) ++ documentFoot := by
  obtain ⟨text, openElements⟩ := b
  obtain rfl : openElements = _ := inside
  rw [Builder.finish_of_closed rfl]
  simp only [Builder.append, Builder.close, Builder.line, Builder.depth, documentFoot,
    String.ofList_append, String.append_assoc]
  rfl

/-- A document is its head, the blocks of its rules, and the foot. -/
theorem toSld_eq_assembled {style : Style} (known : style.Supported) (layer : Option String) :
    style.toSld layer = .ok (style.assembled layer (style.rules.map Rule.block)) := by
  have rules := writeRules_append 0 known [] (style.writeHead layer style.begin)
  rw [List.append_nil, writeRules] at rules
  have inside := writeHead_openElements style layer
  have depth : (style.writeHead layer style.begin).builder.depth = 4 := by
    rw [Builder.depth, inside]
    rfl
  have body := Builder.addAll_eq (style.writeHead layer style.begin).builder
    (style.rules.map Rule.tree)
  rw [depth] at body
  rw [toSld, compile, rules]
  simp only [Progress.extend, Progress.close, Except.map]
  rw [body, finish_append_close _ inside, Rule.ofList_renderAll_trees, assembled, documentHead,
    ← String.append_assoc]

/-- With the rules given in place of its own, a style has a document made of these blocks, provided
    that all symbolizers are of known kinds. -/
def HasBlocks (style : Style) (layer : Option String) (rules : List Rule) (blocks : List String) :
    Prop :=
  (style.withRules rules).Supported →
    (style.withRules rules).toSld layer = .ok (style.assembled layer blocks)

/-- Other rules in a style give other blocks between the same head and foot. -/
theorem hasBlocks_map (style : Style) (layer : Option String) (rules : List Rule) :
    style.HasBlocks layer rules (rules.map Rule.block) := by
  intro known
  rw [toSld_eq_assembled known, assembled, documentHead_withRules]
  rfl

end Style

/-! ## Documents of sessions -/

namespace Session

/-- A rule that is added puts its block between the others and the foot. -/
theorem toSld_addRule {s : Session} (known : s.style.Supported) :
    s.addRule.2.toSld = .ok (s.style.assembled s.layerName
      (s.rules.map Rule.block ++ [(Rule.starter (s.rules.length + 1)).block])) := by
  have blocks := s.style.hasBlocks_map s.layerName _
    (Style.supported_addRule known (s.rules.length + 1))
  rw [List.map_append] at blocks
  exact blocks

/-- A rule that is taken out takes its block with it. -/
theorem toSld_removeRule {s : Session} {i : Nat} (known : s.style.Supported)
    (inside : i < s.rules.length) :
    ∃ rule t before after, s.removeRule i = .ok (rule, t) ∧
      s.rules.map Rule.block = before ++ rule.block :: after ∧ before.length = i ∧
      t.toSld = .ok (s.style.assembled s.layerName (before ++ after)) := by
  obtain ⟨before, rule, after, rules, rfl⟩ := exists_split inside
  have whole : (s.style.withRules s.rules).Supported := known
  rw [rules] at whole
  obtain ⟨left, -, right⟩ := Style.supported_split.1 whole
  have supported : (s.style.withRules (before ++ after)).Supported :=
    List.forall_mem_append.2 ⟨left, right⟩
  have blocks := s.style.hasBlocks_map s.layerName _ supported
  rw [List.map_append] at blocks
  refine ⟨rule, _, before.map Rule.block, after.map Rule.block, removeRule_split rules, ?_,
    List.length_map _, blocks⟩
  rw [rules, List.map_append, List.map_cons]

end Session

/-- Conditions, symbolizers and rules are written by adding lines that depend on them and on the
    depth alone. The document of a style is made of a head and a foot, in which the rules have no
    part, and of one block for each rule in order, which depends on the rule alone. So blocks are put
    together, put in, left out and picked in another order as the rules are; adding a rule to a
    session puts the block of the new rule before the foot, and taking the rule at a position out
    takes out the block at that position. -/
theorem Style.document_blocks (style : Style) (layer : Option String) :
    (∀ (p : Progress) (condition : Filter.Condition),
        Builder.Adds condition.lines p.builder (p.write [condition.node]).builder) ∧
      (∀ (p : Progress) (symbolizer : Symbolizer) (node : Node), symbolizer.node = .ok node →
        Builder.Adds symbolizer.lines p.builder (p.write [node]).builder) ∧
      (∀ (p : Progress) (rule : Rule) (index : Nat),
        Builder.Adds rule.filterLines p.builder (rule.writeFilter index p).builder) ∧
      (∀ (p q : Progress) (rule : Rule) (index : Nat), rule.write index p = .ok q →
        Builder.Adds rule.lines p.builder q.builder) ∧
      (∀ rules, (style.withRules rules).documentHead layer = style.documentHead layer) ∧
      (style.Supported →
        style.toSld layer = .ok (style.documentHead layer ++
          String.join (style.rules.map Rule.block) ++ documentFoot)) ∧
      (∀ xs ys : List Rule,
        style.HasBlocks layer (xs ++ ys) (xs.map Rule.block ++ ys.map Rule.block)) ∧
      (∀ (rules : List Rule) (i : Nat) (rule : Rule), style.HasBlocks layer (rules.insertIdx i rule)
        ((rules.map Rule.block).insertIdx i rule.block)) ∧
      (∀ (rules : List Rule) (i : Nat),
        style.HasBlocks layer (rules.eraseIdx i) ((rules.map Rule.block).eraseIdx i)) ∧
      (∀ (rules : List Rule) (order : List (Fin rules.length)),
        style.HasBlocks layer (order.map fun i => rules[i]) (order.map fun i => rules[i].block)) ∧
      (∀ s : Session, s.style.Supported →
        s.addRule.2.toSld = .ok (s.style.assembled s.layerName
          (s.rules.map Rule.block ++ [(Rule.starter (s.rules.length + 1)).block]))) ∧
      ∀ (s : Session) (i : Nat), s.style.Supported → i < s.rules.length →
        ∃ rule t before after, s.removeRule i = .ok (rule, t) ∧
          s.rules.map Rule.block = before ++ rule.block :: after ∧ before.length = i ∧
          t.toSld = .ok (s.style.assembled s.layerName (before ++ after)) := by
  refine ⟨fun p condition => condition.adds_write p,
    fun p symbolizer node written => Symbolizer.adds_write written p,
    fun p rule index => rule.adds_writeFilter index p,
    fun p q rule index written => Rule.adds_write written,
    style.documentHead_withRules layer, fun known => toSld_eq_assembled known layer,
    ?_, ?_, ?_, ?_, fun s known => Session.toSld_addRule known,
    fun s i known inside => Session.toSld_removeRule known inside⟩
  · intro xs ys
    rw [← List.map_append]
    exact style.hasBlocks_map layer _
  · intro rules i rule
    rw [← List.map_insertIdx]
    exact style.hasBlocks_map layer _
  · intro rules i
    rw [List.eraseIdx_map]
    exact style.hasBlocks_map layer _
  · intro rules order
    have blocks := style.hasBlocks_map layer (order.map fun i => rules[i])
    rw [List.map_map] at blocks
    exact blocks

/-- A style with two rules, of which the first has a filter that cannot be understood. -/
def Style.paired : Style :=
  { name := some "</Rule>"
    featureTypeStyle :=
      { rules :=
          [{ name := some "first", filter := some "x--->y", symbolizers := [.line {}, .point {}] },
           Rule.starter 2] } }

theorem Style.document_blocks_paired :
    Style.paired.Supported ∧
      (∃ text, Style.paired.toSld (some "layer") = .ok text ∧
        text = Style.paired.documentHead (some "layer") ++
          String.join (Style.paired.rules.map Rule.block) ++ documentFoot) ∧
      (∃ rule t, (Session.ofStyle Style.paired).removeRule 0 = .ok (rule, t) ∧
        t.toSld = .ok (Style.paired.assembled none [(Rule.starter 2).block])) ∧
      (∃ node, Symbolizer.starter.node = .ok node ∧
        Builder.Adds Symbolizer.starter.lines Builder.empty
          (Style.paired.begin.write [node]).builder) ∧
      ∃ q, (Rule.starter 1).write 7 Style.paired.begin = .ok q ∧
        Builder.Adds (Rule.starter 1).lines Builder.empty q.builder := by
  obtain ⟨-, symbolizer, -, rule, -, whole, -, -, -, -, -, remove⟩ :=
    Style.document_blocks Style.paired (some "layer")
  have known : Style.paired.Supported := by decide
  have written := (Rule.starter 1).write_supported 7 Style.paired.begin (by decide)
  obtain ⟨removed, t, before, after, ok, blocks, none, text⟩ :=
    remove (Session.ofStyle Style.paired) 0 known (by decide)
  refine ⟨known, ⟨_, whole known, rfl⟩, ⟨removed, t, ok, ?_⟩,
    ⟨_, rfl, symbolizer Style.paired.begin _ _ rfl⟩,
    ⟨_, written, rule Style.paired.begin _ (Rule.starter 1) 7 written⟩⟩
  obtain rfl := List.eq_nil_of_length_eq_zero none
  have rest : [(Rule.starter 2).block] = after := (List.cons.inj blocks).2
  rw [rest]
  exact text

end MapStyle
