import MapStyle.Proofs.Json.Silent
import MapStyle.Proofs.Style.RoundTrip

/-!
# Styles from other versions

An editor may store keys that are not known here, and may leave out what is unset or write null for
it. Neither makes a difference to the style that is read, or to the fault if none can be read. Main
statement: `Style.read_edited`.
-/

namespace MapStyle

open Json (Schema Edit Follows RecordFormat fits_field fits_optional follows_leaf apart_of_comm)

/-! ## Schemas

A layout lists the fields of a record in their order, with what each is read as. -/

def Fill.layout : List (String × Schema) := [
  ("color", .optional .leaf), ("opacity", .optional .leaf)]

def Stroke.layout : List (String × Schema) := [
  ("color", .optional .leaf), ("width", .optional .leaf), ("opacity", .optional .leaf),
  ("dashArray", .optional .leaf)]

def Mark.layout : List (String × Schema) := [
  ("wellKnownName", .optional .leaf), ("fill", .optional (.record Fill.layout)),
  ("stroke", .optional (.record Stroke.layout)), ("size", .optional .leaf)]

def Font.layout : List (String × Schema) := [
  ("family", .optional .leaf), ("size", .optional .leaf), ("style", .optional .leaf),
  ("weight", .optional .leaf), ("fill", .optional (.record Fill.layout))]

def Label.layout : List (String × Schema) := [("propertyName", .leaf)]

def PointPlacement.layout : List (String × Schema) := [
  ("anchorPointX", .optional .leaf), ("anchorPointY", .optional .leaf),
  ("displacementX", .optional .leaf), ("displacementY", .optional .leaf),
  ("rotation", .optional .leaf)]

def LinePlacement.layout : List (String × Schema) := [
  ("perpendicularOffset", .optional .leaf), ("isAligned", .optional .leaf),
  ("repeat", .optional .leaf), ("initialGap", .optional .leaf)]

def LabelPlacement.layout : List (String × Schema) := [
  ("type", .leaf), ("point", .optional (.record PointPlacement.layout)),
  ("line", .optional (.record LinePlacement.layout))]

def Halo.layout : List (String × Schema) := [
  ("enabled", .leaf), ("radius", .optional .leaf), ("fill", .optional (.record Fill.layout))]

def VendorOptions.layout : List (String × Schema) := [
  ("labelObstacle", .optional .leaf), ("forceLeftToRight", .optional .leaf),
  ("conflictResolution", .optional .leaf), ("followLine", .optional .leaf),
  ("spaceAround", .optional .leaf), ("maxDisplacement", .optional .leaf),
  ("minGroupDistance", .optional .leaf), ("repeat", .optional .leaf), ("autoWrap", .optional .leaf),
  ("maxAngleDelta", .optional .leaf), ("goodnessOfFit", .optional .leaf)]

def PolygonSymbolizer.layout : List (String × Schema) := [
  ("fill", .optional (.record Fill.layout)), ("stroke", .optional (.record Stroke.layout))]

def LineSymbolizer.layout : List (String × Schema) := [
  ("stroke", .optional (.record Stroke.layout))]

def PointSymbolizer.layout : List (String × Schema) := [("mark", .record Mark.layout)]

def TextSymbolizer.layout : List (String × Schema) := [
  ("label", .optional (.record Label.layout)), ("font", .optional (.record Font.layout)),
  ("labelPlacement", .optional (.record LabelPlacement.layout)),
  ("halo", .optional (.record Halo.layout)), ("vendorOptions", .record VendorOptions.layout)]

/-- A symbolizer is read by its kind, and kept as it is where the kind is unknown. -/
def Symbolizer.schema : Schema := .tagged "type" [
  ("polygon", .record PolygonSymbolizer.layout), ("line", .record LineSymbolizer.layout),
  ("point", .record PointSymbolizer.layout), ("text", .record TextSymbolizer.layout)]

def Rule.layout : List (String × Schema) := [
  ("name", .optional .leaf), ("title", .optional .leaf), ("filter", .optional .leaf),
  ("minScaleDenominator", .optional .leaf), ("maxScaleDenominator", .optional .leaf),
  ("symbolizers", .list Symbolizer.schema)]

def FeatureTypeStyle.layout : List (String × Schema) := [
  ("name", .optional .leaf), ("title", .optional .leaf), ("rules", .list (.record Rule.layout))]

def Style.layout : List (String × Schema) := [
  ("name", .optional .leaf), ("title", .optional .leaf), ("abstract", .optional .leaf),
  ("featureTypeStyle", .record FeatureTypeStyle.layout)]

/-! ## Readers

Every record is read as its layout says, from the innermost ones to the style. -/

theorem Fill.fits : Fill.format.Fits Fill.layout where
  each := by
    simp only [Fill.layout, Fill.format, List.forall₂_cons, List.forall₂_nil_right_iff, and_true]
    and_intros <;> exact fits_optional (follows_leaf _) rfl
  apart := List.pairwise_pair.2 (apart_of_comm fun _ _ _ => rfl)
  required := rfl

theorem Stroke.fits : Stroke.format.Fits Stroke.layout where
  each := by
    simp only [Stroke.layout, Stroke.format, List.forall₂_cons,
      List.forall₂_nil_right_iff, and_true]
    and_intros <;> exact fits_optional (follows_leaf _) rfl
  apart := by
    simp only [Stroke.format, List.pairwise_cons, List.forall_mem_cons, List.not_mem_nil,
      false_imp_iff, implies_true, and_true, List.Pairwise.nil]
    and_intros <;> exact apart_of_comm fun _ _ _ => rfl
  required := rfl

theorem Mark.fits : Mark.format.Fits Mark.layout where
  each := by
    simp only [Mark.layout, Mark.format, List.forall₂_cons, List.forall₂_nil_right_iff, and_true]
    refine ⟨?_, ?_, ?_, ?_⟩
    · exact fits_optional (follows_leaf _) rfl
    · exact fits_optional Fill.fits.follows rfl
    · exact fits_optional Stroke.fits.follows rfl
    · exact fits_optional (follows_leaf _) rfl
  apart := by
    simp only [Mark.format, List.pairwise_cons, List.forall_mem_cons, List.not_mem_nil,
      false_imp_iff, implies_true, and_true, List.Pairwise.nil]
    and_intros <;> exact apart_of_comm fun _ _ _ => rfl
  required := rfl

theorem Font.fits : Font.format.Fits Font.layout where
  each := by
    simp only [Font.layout, Font.format, List.forall₂_cons, List.forall₂_nil_right_iff, and_true]
    refine ⟨?_, ?_, ?_, ?_, ?_⟩
    · exact fits_optional (follows_leaf _) rfl
    · exact fits_optional (follows_leaf _) rfl
    · exact fits_optional (follows_leaf _) rfl
    · exact fits_optional (follows_leaf _) rfl
    · exact fits_optional Fill.fits.follows rfl
  apart := by
    simp only [Font.format, List.pairwise_cons, List.forall_mem_cons, List.not_mem_nil,
      false_imp_iff, implies_true, and_true, List.Pairwise.nil]
    and_intros <;> exact apart_of_comm fun _ _ _ => rfl
  required := rfl

theorem Label.fits : Label.format.Fits Label.layout where
  each := by
    simp only [Label.layout, Label.format, List.forall₂_cons, List.forall₂_nil_right_iff, and_true]
    exact fits_field (follows_leaf _) rfl
  apart := List.pairwise_singleton _ _
  required := rfl

theorem PointPlacement.fits : PointPlacement.format.Fits PointPlacement.layout where
  each := by
    simp only [PointPlacement.layout, PointPlacement.format, List.forall₂_cons,
      List.forall₂_nil_right_iff, and_true]
    and_intros <;> exact fits_optional (follows_leaf _) rfl
  apart := by
    simp only [PointPlacement.format, List.pairwise_cons, List.forall_mem_cons, List.not_mem_nil,
      false_imp_iff, implies_true, and_true, List.Pairwise.nil]
    and_intros <;> exact apart_of_comm fun _ _ _ => rfl
  required := rfl

theorem LinePlacement.fits : LinePlacement.format.Fits LinePlacement.layout where
  each := by
    simp only [LinePlacement.layout, LinePlacement.format, List.forall₂_cons,
      List.forall₂_nil_right_iff, and_true]
    and_intros <;> exact fits_optional (follows_leaf _) rfl
  apart := by
    simp only [LinePlacement.format, List.pairwise_cons, List.forall_mem_cons, List.not_mem_nil,
      false_imp_iff, implies_true, and_true, List.Pairwise.nil]
    and_intros <;> exact apart_of_comm fun _ _ _ => rfl
  required := rfl

theorem LabelPlacement.fits : LabelPlacement.format.Fits LabelPlacement.layout where
  each := by
    simp only [LabelPlacement.layout, LabelPlacement.format, List.forall₂_cons,
      List.forall₂_nil_right_iff, and_true]
    refine ⟨?_, ?_, ?_⟩
    · exact fits_field (follows_leaf _) rfl
    · exact fits_optional PointPlacement.fits.follows rfl
    · exact fits_optional LinePlacement.fits.follows rfl
  apart := by
    simp only [LabelPlacement.format, List.pairwise_cons, List.forall_mem_cons, List.not_mem_nil,
      false_imp_iff, implies_true, and_true, List.Pairwise.nil]
    and_intros <;> exact apart_of_comm fun _ _ _ => rfl
  required := rfl

theorem Halo.fits : Halo.format.Fits Halo.layout where
  each := by
    simp only [Halo.layout, Halo.format, List.forall₂_cons, List.forall₂_nil_right_iff, and_true]
    refine ⟨?_, ?_, ?_⟩
    · exact fits_field (follows_leaf _) rfl
    · exact fits_optional (follows_leaf _) rfl
    · exact fits_optional Fill.fits.follows rfl
  apart := by
    simp only [Halo.format, List.pairwise_cons, List.forall_mem_cons, List.not_mem_nil,
      false_imp_iff, implies_true, and_true, List.Pairwise.nil]
    and_intros <;> exact apart_of_comm fun _ _ _ => rfl
  required := rfl

theorem VendorOptions.fits : VendorOptions.format.Fits VendorOptions.layout where
  each := by
    simp only [VendorOptions.layout, VendorOptions.format, List.forall₂_cons,
      List.forall₂_nil_right_iff, and_true]
    and_intros <;> exact fits_optional (follows_leaf _) rfl
  apart := by
    simp only [VendorOptions.format, List.pairwise_cons, List.forall_mem_cons, List.not_mem_nil,
      false_imp_iff, implies_true, and_true, List.Pairwise.nil]
    and_intros <;> exact apart_of_comm fun _ _ _ => rfl
  required := rfl

theorem PolygonSymbolizer.fits : PolygonSymbolizer.format.Fits PolygonSymbolizer.layout where
  each := by
    simp only [PolygonSymbolizer.layout, PolygonSymbolizer.format, List.forall₂_cons,
      List.forall₂_nil_right_iff, and_true]
    refine ⟨?_, ?_⟩
    · exact fits_optional Fill.fits.follows rfl
    · exact fits_optional Stroke.fits.follows rfl
  apart := List.pairwise_pair.2 (apart_of_comm fun _ _ _ => rfl)
  required := rfl

theorem LineSymbolizer.fits : LineSymbolizer.format.Fits LineSymbolizer.layout where
  each := by
    simp only [LineSymbolizer.layout, LineSymbolizer.format, List.forall₂_cons,
      List.forall₂_nil_right_iff, and_true]
    exact fits_optional Stroke.fits.follows rfl
  apart := List.pairwise_singleton _ _
  required := rfl

theorem PointSymbolizer.fits : PointSymbolizer.format.Fits PointSymbolizer.layout where
  each := by
    simp only [PointSymbolizer.layout, PointSymbolizer.format, List.forall₂_cons,
      List.forall₂_nil_right_iff, and_true]
    exact fits_field Mark.fits.follows rfl
  apart := List.pairwise_singleton _ _
  required := rfl

theorem TextSymbolizer.fits : TextSymbolizer.format.Fits TextSymbolizer.layout where
  each := by
    simp only [TextSymbolizer.layout, TextSymbolizer.format, List.forall₂_cons,
      List.forall₂_nil_right_iff, and_true]
    refine ⟨?_, ?_, ?_, ?_, ?_⟩
    · exact fits_optional Label.fits.follows rfl
    · exact fits_optional Font.fits.follows rfl
    · exact fits_optional LabelPlacement.fits.follows rfl
    · exact fits_optional Halo.fits.follows rfl
    · exact fits_field VendorOptions.fits.follows rfl
  apart := by
    simp only [TextSymbolizer.format, List.pairwise_cons, List.forall_mem_cons, List.not_mem_nil,
      false_imp_iff, implies_true, and_true, List.Pairwise.nil]
    and_intros <;> exact apart_of_comm fun _ _ _ => rfl
  required := rfl

namespace Symbolizer

/-- A silent edit leaves a symbolizer of the kind that it is. -/
theorem kindOf?_of_edit {fields : List (String × Schema)} {value value' : Json} {kind : String}
    (edit : Edit (.record fields) value value') (untyped : fields.lookup "type" = none)
    (named : value.get? "type" = some (Json.string kind)) :
    kindOf? value = some kind ∧ kindOf? value' = some kind := by
  have kept := Json.get?_of_edit edit untyped named
  rw [kindOf?, kindOf?, named, kept]
  exact ⟨rfl, rfl⟩

theorem ofJson_of_edit {α : Type} {fields : List (String × Schema)} {format : RecordFormat Json α}
    {kind : String} {value value' : Json} (make : α → Symbolizer) (fits : format.Fits fields)
    (untyped : fields.lookup "type" = none) (edit : Edit (.record fields) value value')
    (named : value.get? "type" = some (Json.string kind))
    (reads : ∀ json, kindOf? json = some kind → ofJson json = readRecord kind format make json) :
    ofJson value = ofJson value' := by
  obtain ⟨before, after⟩ := kindOf?_of_edit edit untyped named
  rw [reads value before, reads value' after, readRecord, readRecord, fits.follows _ _ edit]

theorem follows : Follows schema ofJson := by
  intro value value' edit
  cases edit with
  | @inKind _ kind _ inner _ _ named known inside =>
    obtain ⟨front, back, kinds, -⟩ := List.lookup_eq_some_iff.1 known
    have listed : (kind, inner) ∈ front ++ (kind, inner) :: back := by simp
    rw [← kinds] at listed
    simp only [List.mem_cons, Prod.mk.injEq, List.not_mem_nil, or_false] at listed
    rcases listed with ⟨rfl, rfl⟩ | ⟨rfl, rfl⟩ | ⟨rfl, rfl⟩ | ⟨rfl, rfl⟩
    · refine ofJson_of_edit .polygon PolygonSymbolizer.fits rfl inside named fun json kind => ?_
      rw [ofJson, kind]
      rfl
    · refine ofJson_of_edit .line LineSymbolizer.fits rfl inside named fun json kind => ?_
      rw [ofJson, kind]
      rfl
    · refine ofJson_of_edit .point PointSymbolizer.fits rfl inside named fun json kind => ?_
      rw [ofJson, kind]
      rfl
    · refine ofJson_of_edit .text TextSymbolizer.fits rfl inside named fun json kind => ?_
      rw [ofJson, kind]
      rfl

end Symbolizer

theorem Rule.fits : Rule.format.Fits Rule.layout where
  each := by
    simp only [Rule.layout, Rule.format, List.forall₂_cons, List.forall₂_nil_right_iff, and_true]
    refine ⟨?_, ?_, ?_, ?_, ?_, ?_⟩
    · exact fits_optional (follows_leaf _) rfl
    · exact fits_optional (follows_leaf _) rfl
    · exact fits_optional (follows_leaf _) rfl
    · exact fits_optional (follows_leaf _) rfl
    · exact fits_optional (follows_leaf _) rfl
    · exact fits_field Symbolizer.follows.list rfl
  apart := by
    simp only [Rule.format, List.pairwise_cons, List.forall_mem_cons, List.not_mem_nil,
      false_imp_iff, implies_true, and_true, List.Pairwise.nil]
    and_intros <;> exact apart_of_comm fun _ _ _ => rfl
  required := rfl

theorem FeatureTypeStyle.fits : FeatureTypeStyle.format.Fits FeatureTypeStyle.layout where
  each := by
    simp only [FeatureTypeStyle.layout, FeatureTypeStyle.format, List.forall₂_cons,
      List.forall₂_nil_right_iff, and_true]
    refine ⟨?_, ?_, ?_⟩
    · exact fits_optional (follows_leaf _) rfl
    · exact fits_optional (follows_leaf _) rfl
    · exact fits_field Rule.fits.follows.list rfl
  apart := by
    simp only [FeatureTypeStyle.format, List.pairwise_cons, List.forall_mem_cons, List.not_mem_nil,
      false_imp_iff, implies_true, and_true, List.Pairwise.nil]
    and_intros <;> exact apart_of_comm fun _ _ _ => rfl
  required := rfl

theorem Style.fits : Style.format.Fits Style.layout where
  each := by
    simp only [Style.layout, Style.format, List.forall₂_cons, List.forall₂_nil_right_iff, and_true]
    refine ⟨?_, ?_, ?_, ?_⟩
    · exact fits_optional (follows_leaf _) rfl
    · exact fits_optional (follows_leaf _) rfl
    · exact fits_optional (follows_leaf _) rfl
    · exact fits_field FeatureTypeStyle.fits.follows rfl
  apart := by
    simp only [Style.format, List.pairwise_cons, List.forall_mem_cons, List.not_mem_nil,
      false_imp_iff, implies_true, and_true, List.Pairwise.nil]
    and_intros <;> exact apart_of_comm fun _ _ _ => rfl
  required := rfl

/-! ## Edited styles -/

/-- However many silent edits lie between two JSON values, wherever they are, the same style is read
    from both, or the same fault is reported. -/
theorem Style.read_edited {value value' : Json}
    (edited : Relation.ReflTransGen (Edit (.record Style.layout)) value value') :
    Style.format.read value = Style.format.read value' :=
  Style.fits.follows.edited edited

/-- A style of one rule, which draws areas with this fill. -/
def Style.filledWith (fill : Json) : Json :=
  .object [("featureTypeStyle", .object [("rules", .array [.object [("symbolizers",
    .array [.object [("type", .string "polygon"), ("fill", fill)]])]])])]

theorem Style.edit_filledWith {fill fill' : Json} (edit : Edit (.record Fill.layout) fill fill') :
    Edit (.record Style.layout) (Style.filledWith fill) (Style.filledWith fill') := by
  have polygon : Edit Symbolizer.schema (.object [("type", .string "polygon"), ("fill", fill)])
      (.object [("type", .string "polygon"), ("fill", fill')]) :=
    .inKind rfl rfl
      (@Edit.inMember _ [("type", .string "polygon")] [] _ _ _ _ rfl (.inOptional edit))
  refine @Edit.inMember _ [] [] _ (.record FeatureTypeStyle.layout) _ _ rfl ?_
  refine @Edit.inMember _ [] [] _ (.list (.record Rule.layout)) _ _ rfl ?_
  refine @Edit.inItem _ [] [] _ _ ?_
  refine @Edit.inMember _ [] [] _ (.list Symbolizer.schema) _ _ rfl ?_
  exact @Edit.inItem _ [] [] _ _ polygon

theorem Style.read_edited_fill :
    ∃ style,
      Style.format.read (filledWith (.object [("opacity", .null), ("color", .string "red")])) =
        .ok style ∧
      Style.format.read (filledWith (.object [("color", .string "red"),
        ("hatch", .array [.string "cross"])])) = .ok style := by
  have removed : Edit (.record Fill.layout) (.object [("opacity", .null), ("color", .string "red")])
      (.object [("color", .string "red")]) :=
    @Edit.removeNull _ [] _ _ .leaf (by decide) rfl
  have added : Edit (.record Fill.layout) (.object [("color", .string "red")])
      (.object [("color", .string "red"), ("hatch", .array [.string "cross"])]) :=
    @Edit.addUnknown _ [("color", .string "red")] [] _ _ (by decide) rfl
  have same := Style.read_edited
    (.tail (.single (Style.edit_filledWith removed)) (Style.edit_filledWith added))
  exact ⟨_, same.trans rfl, rfl⟩

/-- A style is read back from its snapshot, whatever silent edits that has been through. -/
theorem Style.read_of_edited_toJson {style : Style} {value : Json} (storable : style.Storable)
    (edited : Relation.ReflTransGen (Edit (.record Style.layout)) style.toJson value) :
    Style.format.read value = .ok style :=
  (Style.fits.follows.edited edited).symm.trans (Style.read_toJson storable)

end MapStyle
