import MapStyle.Proofs.Xml.Rendering
import MapStyle.Sld.Document

/-!
# The tree of a document

Compiling writes the lines of one tree. `Rule.write_supported` and `Rule.write_unsupported` say all
that writing a rule does; from them `Style.compile_supported` gives the document of a style whose
symbolizers are all of known kinds, and `Style.compile_unsupported` the error of any other.
-/

namespace MapStyle

open Xml (Node Builder)
open Sld

/-! ## Kinds of symbolizers -/

/-- The markup of a symbolizer, if its kind is known. -/
def Symbolizer.node? (symbolizer : Symbolizer) : Option Node := symbolizer.node.toOption

/-- The rule without its symbolizers of unknown kinds. -/
def Rule.cleaned (rule : Rule) : Rule :=
  { rule with symbolizers := rule.symbolizers.filter fun x => !x.isUnsupported }

/-- A style with symbolizers of known kinds only. -/
def Style.Supported (style : Style) : Prop :=
  ∀ rule ∈ style.rules, ∀ symbolizer ∈ rule.symbolizers, symbolizer.isUnsupported = false

instance (style : Style) : Decidable style.Supported :=
  inferInstanceAs (Decidable (∀ rule ∈ style.rules, ∀ symbolizer ∈ rule.symbolizers,
    symbolizer.isUnsupported = false))

/-- A style is of known kinds if its rules are on both sides of one that is. -/
theorem Style.supported_split {style : Style} {before after : List Rule} {rule : Rule} :
    (style.withRules (before ++ rule :: after)).Supported ↔
      (style.withRules before).Supported ∧
        (∀ symbolizer ∈ rule.symbolizers, symbolizer.isUnsupported = false) ∧
          (style.withRules after).Supported :=
  List.forall_mem_append.trans (and_congr_right fun _ => List.forall_mem_cons)

theorem Style.supported_withRules_nil (style : Style) : (style.withRules []).Supported :=
  List.forall_mem_nil _

/-- A starter rule is of a known kind. -/
theorem Style.supported_addRule {style : Style} (known : style.Supported) (n : Nat) :
    (style.withRules (style.rules ++ [Rule.starter n])).Supported := by
  refine supported_split.2 ⟨known, ?_, style.supported_withRules_nil⟩
  simp [Rule.starter, Symbolizer.starter, Symbolizer.isUnsupported]

theorem Symbolizer.node_of_supported {symbolizer : Symbolizer}
    (known : symbolizer.isUnsupported = false) :
    ∃ node, symbolizer.node = .ok node ∧ symbolizer.node? = some node := by
  cases symbolizer with
  | polygon s => exact ⟨s.node, rfl, rfl⟩
  | line s => exact ⟨s.node, rfl, rfl⟩
  | point s => exact ⟨s.node, rfl, rfl⟩
  | text s => exact ⟨s.node, rfl, rfl⟩
  | unsupported json => simp [Symbolizer.isUnsupported] at known

namespace Sld.Progress

theorem write_append (p : Progress) (xs ys : List Node) :
    p.write (xs ++ ys) = (p.write xs).write ys := by
  simp [write, Builder.addAll_append]

/-- Progress with more markup, warnings and records. -/
def extend (p : Progress) (nodes : List Node) (warnings : List Warning) (log : List Log.Entry) :
    Progress :=
  { builder := p.builder.addAll nodes, warnings := p.warnings ++ warnings, log := p.log ++ log }

theorem write_eq_extend (p : Progress) (nodes : List Node) :
    p.write nodes = p.extend nodes [] [] := by
  simp [write, extend]

@[simp] theorem extend_extend (p : Progress) (xs ys : List Node) (ws vs : List Warning)
    (es fs : List Log.Entry) :
    (p.extend xs ws es).extend ys vs fs = p.extend (xs ++ ys) (ws ++ vs) (es ++ fs) := by
  simp [extend, Builder.addAll_append]

end Sld.Progress

/-! ## Rules -/

namespace Rule

/-- What a rule's element holds before its symbolizers. -/
def frontNodes (rule : Rule) : List Node :=
  rule.headNodes ++ filterNodes rule.translation ++ rule.scaleNodes

/-- The element of a rule, with the symbolizers of known kinds. -/
def tree (rule : Rule) : Node :=
  .element "Rule" [] (rule.frontNodes ++ rule.symbolizers.filterMap Symbolizer.node?)

/-- The warnings of a rule. -/
def warnings (rule : Rule) (index : Nat) : List Warning :=
  match rule.translation with
  | .unparsable raw => [rule.warning index raw]
  | _ => []

/-- The records about a rule's filter. -/
def filterRecords (rule : Rule) (index : Nat) : List Log.Entry :=
  match rule.translation with
  | .unparsable raw => unparsableRecords index raw
  | _ => []

theorem writeFilter_eq (rule : Rule) (index : Nat) (p : Progress) :
    rule.writeFilter index p =
      p.extend (filterNodes rule.translation) (rule.warnings index) (rule.filterRecords index) := by
  rw [writeFilter, warnings, filterRecords]
  cases rule.translation with
  | noFilter => exact p.write_eq_extend _
  | condition condition => exact p.write_eq_extend _
  | unparsable raw =>
    simp [Progress.extend, Progress.warn, Progress.write, Progress.record, unparsableRecords]

/-- Symbolizers of known kinds are written one after the other. -/
theorem writeSymbolizers_append (rule : Rule) (index position : Nat) {xs : List Symbolizer}
    (known : ∀ symbolizer ∈ xs, symbolizer.isUnsupported = false) (ys : List Symbolizer)
    (p : Progress) :
    rule.writeSymbolizers index position (xs ++ ys) p =
      rule.writeSymbolizers index (position + xs.length) ys
        (p.write (xs.filterMap Symbolizer.node?)) := by
  induction xs generalizing position p with
  | nil => rfl
  | cons symbolizer xs ih =>
    obtain ⟨node, written, found⟩ := Symbolizer.node_of_supported (known symbolizer (by simp))
    have rest := ih (position + 1) (fun s member => known s (by simp [member])) (p.write [node])
    have count : position + (symbolizer :: xs).length = position + 1 + xs.length := by
      simp only [List.length_cons]
      omega
    rw [List.cons_append, writeSymbolizers, written]
    simp only [rest, List.filterMap_cons, found, count]
    rw [← Progress.write_append, List.singleton_append]

/-- Progress in a rule up to its first symbolizer. -/
def opened (rule : Rule) (index : Nat) (p : Progress) : Progress :=
  (p.openElement "Rule" []).extend rule.frontNodes (rule.warnings index) (rule.filterRecords index)

theorem write_eq (rule : Rule) (index : Nat) (p : Progress) :
    rule.write index p =
      match rule.writeSymbolizers index 0 rule.symbolizers (rule.opened index p) with
      | .ok p => .ok p.close
      | .error stop => .error stop := by
  have same : (rule.writeFilter index ((p.openElement "Rule" []).write rule.headNodes)).write
      rule.scaleNodes = rule.opened index p := by
    rw [writeFilter_eq, Progress.write_eq_extend, Progress.write_eq_extend, Progress.extend_extend,
      Progress.extend_extend, opened, frontNodes]
    simp
  rw [← same]
  rfl

/-- A rule with symbolizers of known kinds becomes one element. -/
theorem write_supported (rule : Rule) (index : Nat) (p : Progress)
    (known : ∀ symbolizer ∈ rule.symbolizers, symbolizer.isUnsupported = false) :
    rule.write index p =
      .ok (p.extend [rule.tree] (rule.warnings index) (rule.filterRecords index)) := by
  have written := writeSymbolizers_append rule index 0 known [] (rule.opened index p)
  rw [List.append_nil] at written
  rw [write_eq, written, writeSymbolizers]
  simp [opened, tree, Progress.extend, Progress.close, Progress.write, Progress.openElement,
    Builder.addAll, Builder.add, Builder.addAll_append]

/-- A rule stops at its first symbolizer of an unknown kind, after what stands before it. -/
theorem write_unsupported (rule : Rule) (index : Nat) (p : Progress) {xs ys : List Symbolizer}
    {json : Json} (known : ∀ symbolizer ∈ xs, symbolizer.isUnsupported = false)
    (split : rule.symbolizers = xs ++ .unsupported json :: ys) :
    rule.write index p =
      .error
        { error := .unsupportedSymbolizer (Symbolizer.unsupported json).kind index rule.label
            xs.length
          progress := ((rule.opened index p).write (xs.filterMap Symbolizer.node?)).record
            (unsupportedRecord index (Symbolizer.unsupported json).kind) } := by
  rw [write_eq, split, writeSymbolizers_append rule index 0 known, writeSymbolizers]
  simp [Symbolizer.node]

end Rule

/-! ## Documents -/

namespace Style

/-- The warnings of rules, the first of which stands at `index`. -/
def warningsFrom : Nat → List Rule → List Warning
  | _, [] => []
  | index, rule :: rest => rule.warnings index ++ warningsFrom (index + 1) rest

/-- The records about the filters of rules, the first of which stands at `index`. -/
def recordsFrom : Nat → List Rule → List Log.Entry
  | _, [] => []
  | index, rule :: rest => rule.filterRecords index ++ recordsFrom (index + 1) rest

/-- Rules with symbolizers of known kinds are written one after the other. -/
theorem writeRules_append (index : Nat) {xs : List Rule}
    (known : ∀ rule ∈ xs, ∀ symbolizer ∈ rule.symbolizers, symbolizer.isUnsupported = false)
    (ys : List Rule) (p : Progress) :
    writeRules index (xs ++ ys) p =
      writeRules (index + xs.length) ys
        (p.extend (xs.map Rule.tree) (warningsFrom index xs) (recordsFrom index xs)) := by
  induction xs generalizing index p with
  | nil => simp [warningsFrom, recordsFrom, Progress.extend, Builder.addAll]
  | cons rule xs ih =>
    have rest := ih (index + 1) (fun r member => known r (by simp [member]))
      (p.extend [rule.tree] (rule.warnings index) (rule.filterRecords index))
    have count : index + (rule :: xs).length = index + 1 + xs.length := by
      simp only [List.length_cons]
      omega
    rw [List.cons_append, writeRules, Rule.write_supported rule index p (known rule (by simp))]
    simp only [rest, Progress.extend_extend, count]
    rfl

/-- The tree of a style's document. -/
def tree (style : Style) (layer : Option String) : Node :=
  .element "StyledLayerDescriptor" rootAttributes
    [.element "NamedLayer" []
      [.text "Name" (style.effectiveLayer layer),
       .element "UserStyle" []
        (.text "Name" style.effectiveName ::
          (textElement "Title" style.title ++ textElement "Abstract" style.abstractText ++
            [.element "FeatureTypeStyle" []
              (textElement "Name" style.featureTypeStyle.name ++
                textElement "Title" style.featureTypeStyle.title ++
                style.rules.map Rule.tree)]))]]

/-- A style with symbolizers of known kinds has a document, the lines of its tree. -/
theorem compile_supported {style : Style} (known : style.Supported) (layer : Option String) :
    style.compile layer =
      let document : Document :=
        { text := Builder.declaration ++ String.ofList ((style.tree layer).render 0)
          warnings := warningsFrom 0 style.rules }
      { outcome := .ok document
        log := style.startRecord :: (recordsFrom 0 style.rules ++ [completeRecord document]) } := by
  have rules := writeRules_append 0 known [] (style.writeHead layer style.begin)
  rw [List.append_nil, writeRules] at rules
  have text := Builder.finish_add_empty (style.tree layer)
  rw [compile, rules]
  simp only [writeHead, begin, Progress.extend, Progress.write, Progress.openElement, Progress.close,
    tree, Builder.addAll, Builder.add, Builder.addAll_append, List.append_assoc,
    List.nil_append] at text ⊢
  rw [text]
  simp

/-- A style stops at its first symbolizer of an unknown kind. -/
theorem compile_unsupported {style : Style} {before after : List Rule} {rule : Rule}
    {xs ys : List Symbolizer} {json : Json} (rules : style.rules = before ++ rule :: after)
    (known : ∀ r ∈ before, ∀ symbolizer ∈ r.symbolizers, symbolizer.isUnsupported = false)
    (symbolizers : rule.symbolizers = xs ++ .unsupported json :: ys)
    (knownInside : ∀ symbolizer ∈ xs, symbolizer.isUnsupported = false) (layer : Option String) :
    (style.compile layer).outcome =
      .error (.unsupportedSymbolizer (Symbolizer.unsupported json).kind before.length rule.label
        xs.length) := by
  have written := writeRules_append 0 known (rule :: after) (style.writeHead layer style.begin)
  rw [← rules, writeRules, Rule.write_unsupported rule _ _ knownInside symbolizers] at written
  rw [compile, written]
  simp

end Style

end MapStyle
