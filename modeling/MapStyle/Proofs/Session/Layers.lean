import MapStyle.Proofs.Session.Edits
import MapStyle.Proofs.Sld.DocumentShape
import MapStyle.Proofs.Sld.Unsupported

/-!
# The layer of a document

A blank name means no layer wherever a layer is named: in a session, for the editor and for the
compiler. So a session exports what its style compiles to for the layer that was asked for. Main
statement: `Session.layers_exact`.
-/

namespace MapStyle

open Xml (Node Builder Item)
open Sld

/-! ## Names that are set -/

namespace Text

/-- A text if it is set and not blank, and another one if not. -/
def filledOr (other : String) : Option String → String
  | some text => if isBlank text then other else text
  | none => other

theorem isBlank_of_nonBlank? {given : Option String} {text : String}
    (filled : nonBlank? given = some text) : isBlank text = false := by
  have kept := Option.filter_eq_some_iff.1 filled
  simpa using kept.2

theorem nonBlank?_of_filled {given : Option String}
    (filled : ∀ text, given = some text → isBlank text = false) : nonBlank? given = given := by
  cases given with
  | none => rfl
  | some text => rw [nonBlank?_some, filled text rfl]; rfl

theorem nonBlank?_nonBlank? (given : Option String) :
    nonBlank? (nonBlank? given) = nonBlank? given :=
  nonBlank?_of_filled fun _ => isBlank_of_nonBlank?

theorem getD_nonBlank? (other : String) (given : Option String) :
    (nonBlank? given).getD other = filledOr other given := by
  cases given with
  | none => rfl
  | some text =>
    rw [nonBlank?_some, filledOr]
    split <;> rfl

theorem isBlank_filledOr {other : String} (filled : isBlank other = false)
    (given : Option String) : isBlank (filledOr other given) = false := by
  cases given with
  | none => exact filled
  | some text =>
    rw [filledOr]
    split
    · exact filled
    · next notBlank => exact Bool.eq_false_iff.2 notBlank

end Text

/-! ## Sessions that editing leads to -/

/-- The sessions that operations lead to from the starter session. One that is loaded must have been
    among them when it was stored. -/
inductive Session.Reachable : Session → Prop
  | starter : Reachable Session.starter
  | edit {s : Session} (before : Reachable s) (e : Edit)
      (stored : ∀ loaded, e = .load loaded → Reachable loaded) : Reachable (s.after e)
  | respond {s : Session} (before : Reachable s) (request : Editor.Request) :
    Reachable (Editor.respond s request).session

/-- The layer of a session is unset or has a name that is not blank. -/
def Session.LayerFilled (s : Session) : Prop :=
  ∀ name, s.layerName = some name → Text.isBlank name = false

namespace Editor

/-- The edit that a request makes, if it makes one. -/
def Request.change? : Request → Option Session.Edit
  | .setTargetLayer layer => some (.setLayerName (Text.nonBlank? layer))
  | request => request.edit?.map Prod.fst

theorem Request.change?_ne_load {request : Request} {e : Session.Edit}
    (changes : request.change? = some e) (loaded : Session) : e ≠ .load loaded := by
  rintro rfl
  cases request <;> cases changes

/-- A request makes its edit or leaves the session as it is; the host has no part in it. -/
theorem session_respond {ν : Type} [Host ν] (s : Session) (request : Request) :
    (respond s request : Response ν).session = (request.change?.map s.after).getD s := by
  cases request with
  | setTargetLayer layer => rfl
  | exportDocument =>
    rw [respond]
    cases s.compile.outcome <;> rfl
  | showStyle =>
    rw [respond, handOver_eq_concluded, concluded_session]
    rfl
  | resetStyle => exact session_respond_of_edit? (e := .reset) rfl
  | addRule => exact session_respond_of_edit? (e := .addRule) rfl
  | deleteRule index => exact session_respond_of_edit? rfl
  | addSymbolizer rule => exact session_respond_of_edit? rfl
  | deleteSymbolizer rule index => exact session_respond_of_edit? rfl
  | parseDocument text => rfl
  | log level text => rfl

end Editor

namespace Session

variable {s : Session}

theorem layerFilled_of_none (unset : s.layerName = none) : s.LayerFilled := by
  intro name set
  rw [unset] at set
  cases set

/-- No edit gives the layer a blank name, unless it loads one. -/
theorem LayerFilled.after (filled : s.LayerFilled) {e : Edit}
    (stored : ∀ loaded, e = .load loaded → loaded.LayerFilled) : (s.after e).LayerFilled := by
  cases result : s.edit e with
  | error error =>
    rw [after_of_error result]
    exact filled
  | ok made =>
    obtain ⟨answer, t⟩ := made
    rw [after_of_ok result]
    cases effect_iff.2 result with
    | create style => exact layerFilled_of_none rfl
    | reset => exact layerFilled_of_none rfl
    | load loaded => exact stored t rfl
    | setLayerName layer => intro name set; exact Text.isBlank_of_nonBlank? set
    | replaceStyle style => exact filled
    | addRule => exact filled
    | removeRule rules => exact filled
    | addSymbolizer rules => exact filled
    | removeSymbolizer rules symbolizers => exact filled

theorem Reachable.layerFilled (reachable : s.Reachable) : s.LayerFilled := by
  induction reachable with
  | starter => exact layerFilled_of_none rfl
  | edit _ e _ filled stored => exact filled.after stored
  | @respond s _ request filled =>
    rw [Editor.session_respond]
    cases changes : request.change? with
    | none => exact filled
    | some e =>
      have fresh := Editor.Request.change?_ne_load changes
      exact filled.after fun loaded load => absurd load (fresh loaded)

end Session

/-! ## Exports -/

/-- What compiling comes to for the editor. -/
def Editor.exported : Except Sld.Error String → Except String String
  | .ok text => .ok text
  | .error e => .error ("SLD export error: " ++ e.message)

theorem Editor.result_exportDocument (s : Session) :
    (respond s .exportDocument).result = (exported s.toSld).map some := by
  rw [respond, Session.toSld, Style.toSld, ← Session.compile]
  cases s.compile.outcome <;> rfl

namespace Style

/-- The compiler takes a blank name for none by itself. -/
theorem compile_nonBlank? (style : Style) (layer : Option String) :
    style.compile (Text.nonBlank? layer) = style.compile layer := by
  have same : style.effectiveLayer (Text.nonBlank? layer) = style.effectiveLayer layer := by
    rw [effectiveLayer, effectiveLayer, Text.nonBlank?_nonBlank?]
  simp only [compile, writeHead, same]

theorem toSld_nonBlank? (style : Style) (layer : Option String) :
    style.toSld (Text.nonBlank? layer) = style.toSld layer := by
  rw [toSld, toSld, compile_nonBlank?]

end Style

theorem Editor.generate_fst (style : Style) (layer : Option String) :
    (generate style layer).1 = exported (style.toSld layer) := by
  rw [generate, Style.compile_nonBlank?, Style.toSld]
  cases (style.compile layer).outcome <;> rfl

namespace Session

variable {s : Session}

/-- A style and a layer may be put into a session in either order; the layer's name is then that
    asked for, unless it is blank. -/
theorem eq_of_placed {style : Style} {raw : Option String} {t : Session}
    (placed : t = (Editor.respond (s.after (.replaceStyle style)) (.setTargetLayer raw)).session ∨
      t = (Editor.respond s (.setTargetLayer raw)).session.after (.replaceStyle style)) :
    t = ⟨style, Text.nonBlank? raw⟩ := by
  have twice := Text.nonBlank?_nonBlank? raw
  rcases placed with rfl | rfl
  · exact congrArg (Session.mk style) twice
  · exact congrArg (Session.mk style) twice

end Session

/-! ## Documents for several layers -/

namespace Sld

/-- The root element of documents: two names, and what stands behind the second. -/
def rootAround (layerName styleName : String) (rest : List Node) : Node :=
  .element "StyledLayerDescriptor" rootAttributes
    [.element "NamedLayer" []
      [.leaf "Name" [] layerName, .element "UserStyle" [] (.leaf "Name" [] styleName :: rest)]]

/-- The lines of every document up to the name of its layer. -/
def openingLines : List Char :=
  Xml.indented 0 (Xml.startTag "StyledLayerDescriptor" rootAttributes) ++
    Xml.indented 1 (Xml.startTag "NamedLayer" []) ++ List.replicate 4 ' ' ++ Xml.startTag "Name" []

/-- The lines of a document behind the name of its layer. -/
def closingLines (styleName : String) (rest : List Node) : List Char :=
  Xml.endTag "Name" ++ '\n' ::
    (Node.render 2 (.element "UserStyle" [] (.leaf "Name" [] styleName :: rest)) ++
      Xml.indented 1 (Xml.endTag "NamedLayer") ++
      Xml.indented 0 (Xml.endTag "StyledLayerDescriptor"))

/-- The name of the layer stands in one place of a document's text. -/
theorem render_rootAround (layerName styleName : String) (rest : List Node) :
    (rootAround layerName styleName rest).render 0 =
      openingLines ++ Xml.escape layerName.toList ++ closingLines styleName rest := by
  rw [openingLines, closingLines, rootAround]
  simp only [Node.render, Node.renderAll, Xml.leafLine, Xml.indented, List.append_assoc,
    List.append_nil, List.cons_append, List.nil_append, Nat.reduceAdd, Nat.reduceMul]

end Sld

namespace Style

/-- What stands in a style's element behind its name. -/
def innerNodes (style : Style) : List Node :=
  textElement "Title" style.title ++ textElement "Abstract" style.abstractText ++
    [.element "FeatureTypeStyle" []
      (textElement "Name" style.featureTypeStyle.name ++
        textElement "Title" style.featureTypeStyle.title ++ style.rules.map Rule.tree)]

theorem tree_eq_rootAround (style : Style) (layer : Option String) :
    style.tree layer =
      rootAround (style.effectiveLayer layer) style.effectiveName style.innerNodes := rfl

theorem effectiveName_eq (style : Style) :
    style.effectiveName = Text.filledOr "default_style" style.name :=
  Text.getD_nonBlank? _ _

theorem effectiveLayer_eq (style : Style) (layer : Option String) :
    style.effectiveLayer layer = Text.filledOr style.effectiveName layer :=
  Text.getD_nonBlank? _ _

theorem isBlank_effectiveName (style : Style) : Text.isBlank style.effectiveName = false := by
  rw [effectiveName_eq]
  exact Text.isBlank_filledOr (by decide) _

/-- The text of a style's document with the layer named as given. -/
def textNamed (style : Style) (layerName : String) : String :=
  Builder.declaration ++ String.ofList openingLines ++
    String.ofList (Xml.escape layerName.toList) ++
    String.ofList (closingLines style.effectiveName style.innerNodes)

/-- Whether there is a document, what it warns about and what stands in it is the same for all
    layers, but for the one element that holds the layer's name. -/
theorem compile_layer (style : Style) :
    ∃ outcome : Except Sld.Error (List Warning), ∀ layer,
      (style.compile layer).outcome =
        outcome.map fun warnings => ⟨style.textNamed (style.effectiveLayer layer), warnings⟩ := by
  by_cases known : style.Supported
  · refine ⟨.ok (warningsFrom 0 style.rules), ?_⟩
    intro layer
    rw [compile_supported known, tree_eq_rootAround, render_rootAround, textNamed]
    simp only [String.ofList_append, String.append_assoc]
    rfl
  · obtain ⟨before, rule, after, xs, source, ys, rules, clean, symbolizers, cleanInside⟩ :=
      exists_first_unsupported known
    refine ⟨.error (.unsupportedSymbolizer (Symbolizer.unsupported source).kind before.length
      rule.label xs.length), ?_⟩
    intro layer
    rw [compile_unsupported rules clean symbolizers cleanInside]
    rfl

/-- A reader finds the name of the layer and the name of the style at their places. -/
theorem readForest_textNamed (style : Style) (layer : Option String) :
    Xml.readForest (style.textNamed (style.effectiveLayer layer)) =
      some [.char '\n', (rootAround (style.effectiveLayer layer) style.effectiveName
        style.innerNodes).laidOut 0, .char '\n'] := by
  have named := wellNamed_tree style layer
  rw [tree_eq_rootAround] at named
  have read := Xml.readForest_tree named
  rw [render_rootAround, String.ofList_append, String.ofList_append, ← String.append_assoc,
    ← String.append_assoc] at read
  exact read

end Style

/-- However a session was come by, its layer is unset or has a name that is not blank. Once a style
    and a layer have been put into it, in either order, it exports what the style compiles to for
    that layer, document or error, and so does compiling without a session. The layer of a document
    is named as asked for, by default as the style, and the style as it says itself, by default
    `default_style`; a blank name is none. The documents of one style for all layers have the same
    warnings and differ in nothing but the text of the element that names the layer. -/
theorem Session.layers_exact {s : Session} (reachable : s.Reachable) (style : Style)
    (raw : Option String) :
    s.LayerFilled ∧
      (∀ t, t = (Editor.respond (s.after (.replaceStyle style)) (.setTargetLayer raw)).session ∨
          t = (Editor.respond s (.setTargetLayer raw)).session.after (.replaceStyle style) →
        t.toSld = style.toSld raw ∧
          (Editor.respond t .exportDocument).result =
            (Editor.exported (style.toSld raw)).map some) ∧
      (Editor.generate style raw).1 = Editor.exported (style.toSld raw) ∧
      ∃ outcome : Except Sld.Error (List Warning), ∀ layer,
        let styleName := Text.filledOr "default_style" style.name
        let layerName := Text.filledOr styleName layer
        (style.compile layer).outcome =
            outcome.map (fun warnings => ⟨style.textNamed layerName, warnings⟩) ∧
          Xml.readForest (style.textNamed layerName) =
            some [.char '\n', (rootAround layerName styleName style.innerNodes).laidOut 0,
              .char '\n'] ∧
          Text.isBlank layerName = false ∧ Text.isBlank styleName = false := by
  refine ⟨reachable.layerFilled, ?_, Editor.generate_fst style raw, ?_⟩
  · intro t placed
    obtain rfl := eq_of_placed placed
    have text : Session.toSld ⟨style, Text.nonBlank? raw⟩ = style.toSld raw :=
      style.toSld_nonBlank? raw
    exact ⟨text, text ▸ Editor.result_exportDocument _⟩
  · obtain ⟨outcome, compiled⟩ := style.compile_layer
    refine ⟨outcome, ?_⟩
    intro layer
    have filled := style.isBlank_effectiveName
    have layerFilled := Text.isBlank_filledOr filled layer
    have documents := compiled layer
    have read := style.readForest_textNamed layer
    rw [Style.effectiveLayer_eq, Style.effectiveName_eq] at documents read
    rw [Style.effectiveName_eq] at filled layerFilled
    exact ⟨documents, read, layerFilled, filled⟩

/-- A session after a refused edit, for a layer with white space around its name. -/
def Session.padded : Session :=
  (Editor.respond (Session.starter.after (.removeRule 7)) (.setTargetLayer (some " roads\t"))).session

theorem Session.layers_exact_padded :
    Session.padded.Reachable ∧ Session.padded.layerName = some " roads\t" ∧
      (Editor.respond (Session.padded.after (.replaceStyle Style.hostile))
        (.setTargetLayer (some "\u3000"))).session.toSld = Style.hostile.toSld (some "\u3000") ∧
      ∃ outcome : Except Sld.Error (List Warning), (Style.hostile.compile (some "\u3000")).outcome =
        outcome.map (fun warnings => ⟨Style.hostile.textNamed "</Name>\n<!-- ", warnings⟩) := by
  have reachable : Session.padded.Reachable :=
    .respond (.edit .starter (.removeRule 7) (fun _ load => by cases load)) _
  obtain ⟨-, placed, -, outcome, documents⟩ :=
    Session.layers_exact reachable Style.hostile (some "\u3000")
  exact ⟨reachable, rfl, (placed _ (.inl rfl)).1, outcome, (documents (some "\u3000")).1⟩

end MapStyle
