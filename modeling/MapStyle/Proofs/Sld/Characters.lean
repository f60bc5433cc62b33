import MapStyle.Proofs.Sld.DocumentShape
import MapStyle.Proofs.Xml.LineEnds
import MapStyle.Proofs.Xml.Selection
import MapStyle.Style.Format

/-!
# What a processor of XML 1.0 makes of documents

Texts are written with five characters escaped and all others as they are. So a document holds every
character that may not stand in a document of XML 1.0 if a text of the style does, and a carriage
return in a text is read as a line feed. Main statement: `Style.characters_exact`.
-/

namespace MapStyle

open Xml (Node Item Attributes PassesOver select normalizeText normalizeValues)
open Sld

/-! ## The texts of leaves -/

mutual
/-- The texts of the leaves of a tree, in order. -/
def Xml.Node.leafTexts : Node → List String
  | .leaf _ _ text => [text]
  | .element _ _ children => leafTextsIn children
  | .comment _ => []

/-- The texts of the leaves of trees. -/
def Xml.Node.leafTextsIn : List Node → List String
  | [] => []
  | node :: rest => node.leafTexts ++ leafTextsIn rest
end

namespace Sld

/-- The text of an element that holds a text. -/
def leafText? : Item → Option String
  | .element name _ content => if name ∈ leafNames then Xml.text? content else none
  | _ => none

/-- The texts of the elements that hold a text, wherever they stand. -/
def leafTexts (items : List Item) : List String := select leafText? items

theorem passesOver_leafText : PassesOver leafText? IsElement :=
  fun _ _ _ known => if_neg fun leaf => not_mem_elementNames _ leaf known.1

variable {comment : String → Prop}

mutual
/-- The texts of leaves are read back. -/
theorem select_leafText (depth : Nat) {node : Node} (spoken : Spoken comment node) :
    select leafText? [node.laidOut depth] = node.leafTexts := by
  cases node with
  | leaf name attributes text =>
    have known : name ∈ leafNames := spoken.1
    rw [Xml.select_leaf (fun _ => rfl), leafText?, if_pos known, Xml.text?_chars,
      String.ofList_toList, Node.leafTexts]
    rfl
  | comment text => rw [Node.laidOut, Xml.select_comment, Node.leafTexts]; rfl
  | element name attributes children =>
    obtain ⟨here, inside⟩ : IsElement name attributes ∧ SpokenAll comment children := spoken
    rw [Node.laidOut_element, Xml.select_element, passesOver_leafText _ _ _ here,
      Xml.select_inside (fun _ => rfl), select_all_leafText (depth + 1) inside, Node.leafTexts]
    rfl

theorem select_all_leafText (depth : Nat) {nodes : List Node} (spoken : SpokenAll comment nodes) :
    select leafText? (Node.laidOutAll depth nodes) = Node.leafTextsIn nodes := by
  cases nodes with
  | nil => rfl
  | cons node rest =>
    obtain ⟨here, there⟩ : Spoken comment node ∧ SpokenAll comment rest := spoken
    rw [Xml.select_laidOutAll_cons (fun _ => rfl), select_leafText depth here,
      select_all_leafText depth there, Node.leafTextsIn]
end

/-- The texts of leaves are read back from a document. -/
theorem leafTexts_document {node : Node} (spoken : Spoken comment node) :
    leafTexts [.char '\n', node.laidOut 0, .char '\n'] = node.leafTexts := by
  rw [leafTexts, Xml.select_document (fun _ => rfl), select_leafText 0 spoken]

end Sld

/-! ## Leaves with other line ends -/

mutual
theorem Xml.Node.leafTexts_normalized (node : Node) :
    node.normalized.leafTexts = node.leafTexts.map normalizeText := by
  cases node with
  | leaf name attributes text => rw [Node.normalized, leafTexts, leafTexts]; rfl
  | comment text => rw [Node.normalized, leafTexts, leafTexts]; rfl
  | element name attributes children =>
    rw [Node.normalized, leafTexts, leafTexts, leafTextsIn_normalizedAll children]

theorem Xml.Node.leafTextsIn_normalizedAll (nodes : List Node) :
    leafTextsIn (normalizedAll nodes) = (leafTextsIn nodes).map normalizeText := by
  cases nodes with
  | nil => rfl
  | cons node rest =>
    rw [normalizedAll, leafTextsIn, leafTextsIn, leafTexts_normalized node,
      leafTextsIn_normalizedAll rest, List.map_append]
end

namespace Sld

theorem fst_normalizeValues (attributes : Attributes) :
    (normalizeValues attributes).map Prod.fst = attributes.map Prod.fst := by
  rw [normalizeValues, List.map_map]
  rfl

/-- Other line ends do not take a tree out of the vocabulary. -/
theorem Spoken.normalized {node : Node} (spoken : Spoken (fun _ => True) node) :
    Spoken (fun _ => True) node.normalized := by
  apply Node.All.normalized _ _ spoken
  · intro name attributes known
    rw [IsLeaf, fst_normalizeValues]
    exact known
  · intro name attributes known
    rw [IsElement, fst_normalizeValues]
    exact known

end Sld

theorem Xml.normalizeText_eq_self_iff {s : String} : normalizeText s = s ↔ '\r' ∉ s.toList := by
  rw [← normalizeEnds_eq_self_iff, normalizeText, ← String.toList_inj, String.toList_ofList]

theorem Xml.map_normalizeText_eq_self_iff {texts : List String} :
    texts.map normalizeText = texts ↔ ∀ text ∈ texts, '\r' ∉ text.toList := by
  induction texts with
  | nil => simp
  | cons text rest ih =>
    rw [List.map_cons, List.cons.injEq, ih, normalizeText_eq_self_iff, List.forall_mem_cons]

/-! ## Documents -/

namespace Style

/-- A document is read after its line ends have been replaced, with every leaf's text treated so. -/
theorem readForest_normalized (style : Style) (layer : Option String) :
    ∃ items, Xml.readForest (normalizeText (Xml.Builder.declaration ++
        String.ofList ((style.tree layer).render 0))) = some items ∧
      leafTexts items = (style.tree layer).leafTexts.map normalizeText := by
  have spoken := spoken_tree style layer
  rw [Xml.normalizeText_document spoken.wellNamed]
  refine ⟨_, Xml.readForest_tree spoken.normalized.wellNamed, ?_⟩
  rw [leafTexts_document spoken.normalized, Node.leafTexts_normalized]

/-- The document of a style is made of characters that may stand in a document of XML 1.0 exactly if
    all that is written in it as a text is. Once its line ends are replaced as a processor of XML 1.0
    does, it can still be read, and each leaf holds its text with the line ends replaced; so all
    leaves hold the texts they were written from exactly if none of these has a carriage return. -/
theorem characters_exact (style : Style) (layer : Option String) (known : style.Supported) :
    ∃ document root, (style.compile layer).outcome = .ok document ∧ style.HasShape layer root ∧
      (Xml.isXmlText document.text = true ↔ ∀ text ∈ root.texts, Xml.isXmlText text = true) ∧
      ∃ items, Xml.readForest (normalizeText document.text) = some items ∧
        leafTexts items = root.leafTexts.map normalizeText ∧
        (leafTexts items = root.leafTexts ↔ ∀ text ∈ root.leafTexts, '\r' ∉ text.toList) := by
  have compiled := congrArg Run.outcome (compile_supported known layer)
  obtain ⟨items, read, texts⟩ := style.readForest_normalized layer
  refine ⟨_, style.tree layer, compiled, hasShape_tree known layer, ?_, items, read, texts, ?_⟩
  · rw [Xml.isXmlText_document (wellNamed_tree style layer), List.all_eq_true]
  · rw [texts, Xml.map_normalizeText_eq_self_iff]

theorem characters_exact_hostile : Style.hostile.Supported ∧
    ∃ document root, (Style.hostile.compile none).outcome = .ok document ∧
      Style.hostile.HasShape none root ∧
      ∃ items, Xml.readForest (normalizeText document.text) = some items ∧
        leafTexts items = root.leafTexts.map normalizeText := by
  have known : Style.hostile.Supported := by decide
  obtain ⟨document, root, compiled, shape, -, items, read, texts, -⟩ :=
    characters_exact Style.hostile none known
  exact ⟨known, document, root, compiled, shape, items, read, texts⟩

/-- The JSON of a style whose name and title have characters that are lost or refused. -/
def unsafeJson : Json := .object [("name", .string "a\rb"), ("title", .string "\u0001")]

/-- The style that it is decoded to. -/
def unsafeStyle : Style := { name := some "a\rb", title := some "\u0001" }

/-- There are documents that no processor of XML 1.0 accepts, and from which it would read other names
    than were written. -/
theorem compile_unsafe : Style.format.read unsafeJson = .ok unsafeStyle ∧ unsafeStyle.Supported ∧
    ∃ document items, (unsafeStyle.compile none).outcome = .ok document ∧
      Xml.isXmlText document.text = false ∧
      Xml.readForest (normalizeText document.text) = some items ∧
      leafTexts items = ["a\nb", "a\nb", "\u0001"] := by
  have known : unsafeStyle.Supported := by decide
  have compiled := congrArg Run.outcome (compile_supported known none)
  obtain ⟨items, read, texts⟩ := unsafeStyle.readForest_normalized none
  refine ⟨rfl, known, _, items, compiled, ?_, read, texts⟩
  rw [Xml.isXmlText_document (wellNamed_tree unsafeStyle none)]
  decide +kernel

end Style

end MapStyle
