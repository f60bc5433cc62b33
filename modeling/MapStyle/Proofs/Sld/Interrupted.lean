import MapStyle.Proofs.Sld.Vocabulary
import MapStyle.Proofs.Xml.TreeCalls

/-!
# Rules that cannot be written to the end

A symbolizer of an unknown kind stops the writing of its rule. What has been written by then is what
the rule comes to with the symbolizers in front of that one, but for the end tag of the rule, and
finishing the document puts the end tag there. Main statement: `Rule.write_interrupted`.
-/

namespace MapStyle

open Xml (Node Builder Call indented endTag)
open Sld

/-- Of two builders, the first is what the second was before its last line, which closed `name`. -/
structure Xml.Builder.LacksEnd (name : String) (part whole : Builder) : Prop where
  openElements : part.openElements = name :: whole.openElements
  text : whole.text = part.text ++ String.ofList (indented whole.depth (endTag name))

theorem Xml.Builder.lacksEnd_close {b : Builder} {name : String} {names : List String}
    (inside : b.openElements = name :: names) : LacksEnd name b b.close := by
  rw [close_of_open inside]
  exact ⟨inside, rfl⟩

namespace Rule

/-- The rule with its first `j` symbolizers only. -/
def upTo (rule : Rule) (j : Nat) : Rule := { rule with symbolizers := rule.symbolizers.take j }

/-- The first symbolizer of an unknown kind, and what stands before it. -/
theorem exists_split_of_findIdx? {rule : Rule} {j : Nat}
    (first : rule.symbolizers.findIdx? Symbolizer.isUnsupported = some j) :
    ∃ json rest, rule.symbolizers = (rule.upTo j).symbolizers ++ .unsupported json :: rest ∧
      (rule.upTo j).symbolizers.length = j ∧
      ∀ symbolizer ∈ (rule.upTo j).symbolizers, symbolizer.isUnsupported = false := by
  obtain ⟨inside, foreign, clean⟩ := List.findIdx?_eq_some_iff_getElem.1 first
  obtain ⟨json, here⟩ : ∃ json, rule.symbolizers[j] = .unsupported json := by
    cases symbolizer : rule.symbolizers[j] with
    | unsupported json => exact ⟨json, rfl⟩
    | _ => simp [symbolizer, Symbolizer.isUnsupported] at foreign
  refine ⟨json, rule.symbolizers.drop (j + 1), ?_, ?_, ?_⟩
  · rw [← here, List.getElem_cons_drop, upTo, List.take_append_drop]
  · rw [upTo, List.length_take]
    omega
  · intro symbolizer member
    obtain ⟨i, before, rfl⟩ := List.mem_take_iff_getElem.1 member
    simpa using clean i (by omega)

/-- What a rule's element holds up to the symbolizer at a position. -/
def nodesUpTo (rule : Rule) (j : Nat) : List Node :=
  rule.frontNodes ++ (rule.upTo j).symbolizers.filterMap Symbolizer.node?

/-- Writing stops with the element of the rule open and all in it closed. -/
theorem write_of_first {rule : Rule} {j : Nat} (index : Nat) (p : Progress)
    (first : rule.symbolizers.findIdx? Symbolizer.isUnsupported = some j) :
    ∃ json, rule.symbolizers[j]? = some (.unsupported json) ∧
      rule.write index p = .error
        { error := .unsupportedSymbolizer (Symbolizer.unsupported json).kind index rule.label j
          progress := ((p.openElement "Rule" []).extend (rule.nodesUpTo j) (rule.warnings index)
            (rule.filterRecords index)).record
              (unsupportedRecord index (Symbolizer.unsupported json).kind) } := by
  obtain ⟨json, rest, split, length, known⟩ := exists_split_of_findIdx? first
  have stopped := rule.write_unsupported index p known split
  have here : rule.symbolizers[j]? = some (.unsupported json) := by
    rw [split, List.getElem?_append_right (by omega), length, Nat.sub_self]
    rfl
  rw [length, Progress.write_eq_extend, opened, Progress.extend_extend, List.append_nil,
    List.append_nil] at stopped
  exact ⟨json, here, stopped⟩

/-- The rule with the symbolizers in front is written to the end. -/
theorem write_upTo {rule : Rule} {j : Nat} (index : Nat) (p : Progress)
    (first : rule.symbolizers.findIdx? Symbolizer.isUnsupported = some j) :
    (rule.upTo j).write index p =
      .ok (p.extend [.element "Rule" [] (rule.nodesUpTo j)] (rule.warnings index)
        (rule.filterRecords index)) := by
  obtain ⟨json, rest, -, -, known⟩ := exists_split_of_findIdx? first
  exact (rule.upTo j).write_supported index p known

/-- A rule with symbolizers of unknown kinds cannot be written to the end, whatever has been written
    before: the first of them is blamed, with its place and the rule's label. What is written by then
    is what the rule comes to with the symbolizers in front of that one, but for the end tag of the
    rule: its element is open, with whole trees in it and none of them from that symbolizer or a
    later one. The warnings are those of the rule without its symbolizers of unknown kinds.
    Finishing puts the end tag in its place, so after any calls the document is the text of the
    forest that the calls and the rule that far describe, and is read as it if names are names. -/
theorem write_interrupted (rule : Rule) (index j : Nat) (p : Progress)
    (first : rule.symbolizers.findIdx? Symbolizer.isUnsupported = some j) :
    ∃ json stop q r, rule.symbolizers[j]? = some (.unsupported json) ∧
      rule.write index p = .error stop ∧
      (rule.upTo j).write index p = .ok q ∧
      rule.cleaned.write index p = .ok r ∧
      stop.error =
        .unsupportedSymbolizer (Symbolizer.unsupported json).kind index rule.label j ∧
      stop.progress.builder = (p.builder.openElement "Rule" []).addAll (rule.nodesUpTo j) ∧
      Builder.LacksEnd "Rule" stop.progress.builder q.builder ∧
      q.builder.openElements = p.builder.openElements ∧
      stop.progress.warnings = r.warnings ∧
      stop.progress.builder.finish = q.builder.finish ∧
      ∀ calls forest, p.builder = Builder.empty.run calls →
        forest = Call.forest (calls ++ (rule.upTo j).tree.calls) →
        stop.progress.builder.finish =
            Builder.declaration ++ String.ofList (Node.renderAll 0 forest) ∧
          ((∀ call ∈ calls, call.isWellNamed = true) →
            Xml.readForest stop.progress.builder.finish =
              some (.char '\n' :: Node.laidOutAll 0 forest)) := by
  obtain ⟨json, here, stopped⟩ := rule.write_of_first index p first
  have written := rule.write_upTo index p first
  have known : ∀ symbolizer ∈ rule.cleaned.symbolizers, symbolizer.isUnsupported = false := by
    simp [cleaned]
  have cleaned := rule.cleaned.write_supported index p known
  have inside : ((p.builder.openElement "Rule" []).addAll (rule.nodesUpTo j)).openElements =
      "Rule" :: p.builder.openElements := Builder.addAll_openElements _ _
  have finished := p.builder.finish_openElement_addAll "Rule" [] (rule.nodesUpTo j)
  refine ⟨json, _, _, _, here, stopped, written, cleaned, rfl, rfl, Builder.lacksEnd_close inside,
    Builder.add_openElements p.builder _, rfl, finished, ?_⟩
  rintro calls forest filled rfl
  have text : ((p.builder.openElement "Rule" []).addAll (rule.nodesUpTo j)).finish =
      ((Builder.empty.run calls).add (rule.upTo j).tree).finish :=
    finished.trans (congrArg (fun b => (Builder.add b _).finish) filled)
  refine ⟨text.trans (Builder.finish_run_add calls _), ?_⟩
  intro named
  have tree : (rule.upTo j).tree.WellNamed := (spoken_rule (fun _ => trivial) (rule.upTo j)).wellNamed
  exact (congrArg Xml.readForest text).trans (Xml.readForest_run_add named tree)

/-- A rule with a blank name, a filter that cannot be understood and two circles, which are of no known
    kind. -/
def circular : Rule :=
  { name := some " "
    filter := some "x--y"
    symbolizers :=
      [.line {}, .unsupported (.object [("type", .string "circle")]), .point {},
       .unsupported (.object [("type", .string "circle")])] }

/-- Calls that leave an element open, with a text that looks like its end tag. -/
def callsBefore : List Call :=
  [.close, .openElement "a" [("x", "\x22")], .close, .openElement "b" [], .leaf "c" [] "</b>"]

theorem write_interrupted_circular :
    circular.symbolizers.findIdx? Symbolizer.isUnsupported = some 1 ∧
      (∀ call ∈ callsBefore, call.isWellNamed = true) ∧
      ∃ stop, circular.write 7 ⟨Builder.empty.run callsBefore, [], []⟩ = .error stop ∧
        stop.error = .unsupportedSymbolizer "circle" 7 "unnamed" 1 ∧
        stop.progress.builder.openElements = ["Rule", "b"] ∧
        Xml.readForest stop.progress.builder.finish = some (.char '\n' :: Node.laidOutAll 0
          [.element "a" [("x", "\x22")] [],
           .element "b" []
            [.leaf "c" [] "</b>",
             .element "Rule" []
              [.comment "Unparsable filter expression: x--y", .element "LineSymbolizer" [] []]]]) := by
  have first : circular.symbolizers.findIdx? Symbolizer.isUnsupported = some 1 := rfl
  have named : ∀ call ∈ callsBefore, call.isWellNamed = true := by decide
  obtain ⟨json, stop, q, r, here, stopped, -, -, error, -, part, closed, -, -, read⟩ :=
    write_interrupted circular 7 1 ⟨Builder.empty.run callsBefore, [], []⟩ first
  have circle : Symbolizer.unsupported (.object [("type", .string "circle")]) = .unsupported json :=
    Option.some.inj here
  rw [← circle] at error
  refine ⟨first, named, stop, stopped, error, ?_, ?_⟩
  · rw [part.openElements, closed]
    rfl
  · exact (read callsBefore _ rfl rfl).2 named

end Rule

end MapStyle
