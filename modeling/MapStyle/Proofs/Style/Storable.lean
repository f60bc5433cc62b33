import MapStyle.Proofs.Json.Ensures
import MapStyle.Proofs.Style.Decoded
import MapStyle.Session.Basic

/-!
# Styles that can be stored

JSON has no infinities and no missing numbers, and tells a symbolizer's kind by a text. A style whose
numbers are finite, and whose symbolizers of unknown kinds are JSON of an unknown kind, can be stored
without loss. Whatever is decoded is such a style.
-/

namespace MapStyle

open Json (Tame Ensures)

/-! ## Numbers -/

/-- Numbers that are all finite. -/
def AllFinite (xs : List Binary64) : Prop := ∀ x ∈ xs, x.isFinite = true

instance (xs : List Binary64) : Decidable (AllFinite xs) :=
  inferInstanceAs (Decidable (∀ x ∈ xs, x.isFinite = true))

@[simp] theorem allFinite_nil : AllFinite [] := by simp [AllFinite]

@[simp] theorem allFinite_append {xs ys : List Binary64} :
    AllFinite (xs ++ ys) ↔ AllFinite xs ∧ AllFinite ys :=
  List.forall_mem_append

@[simp] theorem allFinite_toList {x : Option Binary64} :
    AllFinite x.toList ↔ ∀ y ∈ x, y.isFinite = true := by
  simp [AllFinite]

@[simp] theorem allFinite_flatMap {α : Type} {numbers : α → List Binary64} {as : List α} :
    AllFinite (as.flatMap numbers) ↔ ∀ a ∈ as, AllFinite (numbers a) := by
  simp only [AllFinite, List.mem_flatMap]
  exact ⟨fun h a member x inside => h x ⟨a, member, inside⟩, fun h x ⟨a, member, inside⟩ =>
    h a member x inside⟩

/-- The numbers in a fill. -/
def Fill.numbers (r : Fill) : List Binary64 := r.opacity.toList

/-- The numbers in a stroke. -/
def Stroke.numbers (r : Stroke) : List Binary64 := r.width.toList ++ r.opacity.toList

/-- The numbers in a mark. -/
def Mark.numbers (r : Mark) : List Binary64 :=
  r.fill.toList.flatMap Fill.numbers ++ r.stroke.toList.flatMap Stroke.numbers ++ r.size.toList

/-- The numbers in a font. -/
def Font.numbers (r : Font) : List Binary64 := r.size.toList ++ r.fill.toList.flatMap Fill.numbers

/-- The numbers in a placement beside a point. -/
def PointPlacement.numbers (r : PointPlacement) : List Binary64 :=
  r.anchorPointX.toList ++ r.anchorPointY.toList ++ r.displacementX.toList ++
    r.displacementY.toList ++ r.rotation.toList

/-- The numbers in a placement along a line. -/
def LinePlacement.numbers (r : LinePlacement) : List Binary64 :=
  r.perpendicularOffset.toList ++ r.repeatDistance.toList ++ r.initialGap.toList

/-- The numbers in both placements, in effect or not. -/
def LabelPlacement.numbers (r : LabelPlacement) : List Binary64 :=
  r.point.toList.flatMap PointPlacement.numbers ++ r.line.toList.flatMap LinePlacement.numbers

/-- The numbers in a halo. -/
def Halo.numbers (r : Halo) : List Binary64 :=
  r.radius.toList ++ r.fill.toList.flatMap Fill.numbers

/-- The numbers in vendor options. -/
def VendorOptions.numbers (r : VendorOptions) : List Binary64 :=
  r.spaceAround.toList ++ r.maxDisplacement.toList ++ r.minGroupDistance.toList ++
    r.repeatDistance.toList ++ r.autoWrap.toList ++ r.maxAngleDelta.toList ++
    r.goodnessOfFit.toList

/-- The numbers in a polygon symbolizer. -/
def PolygonSymbolizer.numbers (r : PolygonSymbolizer) : List Binary64 :=
  r.fill.toList.flatMap Fill.numbers ++ r.stroke.toList.flatMap Stroke.numbers

/-- The numbers in a line symbolizer. -/
def LineSymbolizer.numbers (r : LineSymbolizer) : List Binary64 :=
  r.stroke.toList.flatMap Stroke.numbers

/-- The numbers in a point symbolizer. -/
def PointSymbolizer.numbers (r : PointSymbolizer) : List Binary64 := r.mark.numbers

/-- The numbers in a text symbolizer. -/
def TextSymbolizer.numbers (r : TextSymbolizer) : List Binary64 :=
  r.font.toList.flatMap Font.numbers ++ r.labelPlacement.toList.flatMap LabelPlacement.numbers ++
    r.halo.toList.flatMap Halo.numbers ++ r.vendorOptions.numbers

/-- The numbers in a symbolizer; those in JSON that was kept are left to it. -/
def Symbolizer.numbers : Symbolizer → List Binary64
  | .polygon r => r.numbers
  | .line r => r.numbers
  | .point r => r.numbers
  | .text r => r.numbers
  | .unsupported _ => []

/-- The numbers in a rule. -/
def Rule.numbers (r : Rule) : List Binary64 :=
  r.minScaleDenominator.toList ++ r.maxScaleDenominator.toList ++
    r.symbolizers.flatMap Symbolizer.numbers

/-- The numbers in a style. -/
def Style.numbers (r : Style) : List Binary64 := r.rules.flatMap Rule.numbers

/-! ## What can be stored -/

/-- A symbolizer of an unknown kind is JSON of an unknown kind. -/
def Symbolizer.IsKept : Symbolizer → Prop
  | .unsupported json => ∃ kind, kindOf? json = some kind ∧ kind ∉ knownKinds
  | _ => True

/-- A symbolizer that can be stored without loss. -/
def Symbolizer.Storable (s : Symbolizer) : Prop := AllFinite s.numbers ∧ s.IsKept

/-- A rule that can be stored without loss. -/
def Rule.Storable (r : Rule) : Prop :=
  AllFinite r.numbers ∧ ∀ symbolizer ∈ r.symbolizers, symbolizer.IsKept

/-- A style that can be stored without loss: its numbers are finite, and its symbolizers of unknown
    kinds are JSON of unknown kinds. -/
def Style.Storable (r : Style) : Prop :=
  AllFinite r.numbers ∧ ∀ rule ∈ r.rules, ∀ symbolizer ∈ rule.symbolizers, symbolizer.IsKept

/-- A session that can be stored without loss. -/
def Session.Storable (s : Session) : Prop := s.style.Storable

theorem Style.storable_iff {r : Style} : r.Storable ↔ ∀ rule ∈ r.rules, rule.Storable := by
  simp only [Style.Storable, Style.numbers, Rule.Storable, allFinite_flatMap]
  exact ⟨fun h rule member => ⟨h.1 rule member, h.2 rule member⟩,
    fun h => ⟨fun rule member => (h rule member).1, fun rule member => (h rule member).2⟩⟩

theorem Style.storable_starter : Style.starter.Storable := by
  refine ⟨by decide, ?_⟩
  intro rule member symbolizer inside
  obtain rfl := List.mem_singleton.1 member
  obtain rfl := List.mem_singleton.1 inside
  trivial

/-! ## Whatever is decoded can be stored -/

section Decoding

variable {σ : Type} [Json.Source σ] {Good : σ → Prop}

theorem Fill.ensures (tame : Tame Good) :
    Ensures Good Fill.format.read fun r => AllFinite r.numbers := by
  refine .record tame (by simp [Fill.format, Fill.numbers]) ?_
  simp only [Fill.format, List.forall_mem_cons]
  refine ⟨?_, ?_, by simp⟩
  · exact .field .any fun _ _ old _ => old
  · exact .field (.optional (.number tame)) fun _ _ old new => by simp_all [Fill.numbers]

theorem Stroke.ensures (tame : Tame Good) :
    Ensures Good Stroke.format.read fun r => AllFinite r.numbers := by
  refine .record tame (by simp [Stroke.format, Stroke.numbers]) ?_
  simp only [Stroke.format, List.forall_mem_cons]
  refine ⟨?_, ?_, ?_, ?_, by simp⟩
  · exact .field .any fun _ _ old _ => old
  · exact .field (.optional (.number tame)) fun _ _ old new => by simp_all [Stroke.numbers]
  · exact .field (.optional (.number tame)) fun _ _ old new => by simp_all [Stroke.numbers]
  · exact .field .any fun _ _ old _ => old

theorem Mark.ensures (tame : Tame Good) :
    Ensures Good Mark.format.read fun r => AllFinite r.numbers := by
  refine .record tame (by simp [Mark.format, Mark.numbers]) ?_
  simp only [Mark.format, List.forall_mem_cons]
  refine ⟨?_, ?_, ?_, ?_, by simp⟩
  · exact .field .any fun _ _ old _ => old
  · exact .field (.optional (Fill.ensures tame)) fun _ _ old new => by simp_all [Mark.numbers]
  · exact .field (.optional (Stroke.ensures tame)) fun _ _ old new => by simp_all [Mark.numbers]
  · exact .field (.optional (.number tame)) fun _ _ old new => by simp_all [Mark.numbers]

theorem Font.ensures (tame : Tame Good) :
    Ensures Good Font.format.read fun r => AllFinite r.numbers := by
  refine .record tame (by simp [Font.format, Font.numbers]) ?_
  simp only [Font.format, List.forall_mem_cons]
  refine ⟨?_, ?_, ?_, ?_, ?_, by simp⟩
  · exact .field .any fun _ _ old _ => old
  · exact .field (.optional (.number tame)) fun _ _ old new => by simp_all [Font.numbers]
  · exact .field .any fun _ _ old _ => old
  · exact .field .any fun _ _ old _ => old
  · exact .field (.optional (Fill.ensures tame)) fun _ _ old new => by simp_all [Font.numbers]

theorem PointPlacement.ensures (tame : Tame Good) :
    Ensures Good PointPlacement.format.read fun r => AllFinite r.numbers := by
  refine .record tame (by simp [PointPlacement.format, PointPlacement.numbers]) ?_
  simp only [PointPlacement.format, List.forall_mem_cons]
  refine ⟨?_, ?_, ?_, ?_, ?_, by simp⟩
  · exact .field (.optional (.number tame)) fun _ _ old new => by simp_all [PointPlacement.numbers]
  · exact .field (.optional (.number tame)) fun _ _ old new => by simp_all [PointPlacement.numbers]
  · exact .field (.optional (.number tame)) fun _ _ old new => by simp_all [PointPlacement.numbers]
  · exact .field (.optional (.number tame)) fun _ _ old new => by simp_all [PointPlacement.numbers]
  · exact .field (.optional (.number tame)) fun _ _ old new => by simp_all [PointPlacement.numbers]

theorem LinePlacement.ensures (tame : Tame Good) :
    Ensures Good LinePlacement.format.read fun r => AllFinite r.numbers := by
  refine .record tame (by simp [LinePlacement.format, LinePlacement.numbers]) ?_
  simp only [LinePlacement.format, List.forall_mem_cons]
  refine ⟨?_, ?_, ?_, ?_, by simp⟩
  · exact .field (.optional (.number tame)) fun _ _ old new => by simp_all [LinePlacement.numbers]
  · exact .field .any fun _ _ old _ => old
  · exact .field (.optional (.number tame)) fun _ _ old new => by simp_all [LinePlacement.numbers]
  · exact .field (.optional (.number tame)) fun _ _ old new => by simp_all [LinePlacement.numbers]

theorem LabelPlacement.ensures (tame : Tame Good) :
    Ensures Good LabelPlacement.format.read fun r => AllFinite r.numbers := by
  refine .record tame (by simp [LabelPlacement.format, LabelPlacement.numbers]) ?_
  simp only [LabelPlacement.format, List.forall_mem_cons]
  refine ⟨?_, ?_, ?_, by simp⟩
  · exact .field .any fun _ _ old _ => old
  · exact .field (.optional (PointPlacement.ensures tame)) fun _ _ old new => by
      simp_all [LabelPlacement.numbers]
  · exact .field (.optional (LinePlacement.ensures tame)) fun _ _ old new => by
      simp_all [LabelPlacement.numbers]

theorem Halo.ensures (tame : Tame Good) :
    Ensures Good Halo.format.read fun r => AllFinite r.numbers := by
  refine .record tame (by simp [Halo.format, Halo.numbers]) ?_
  simp only [Halo.format, List.forall_mem_cons]
  refine ⟨?_, ?_, ?_, by simp⟩
  · exact .field .any fun _ _ old _ => old
  · exact .field (.optional (.number tame)) fun _ _ old new => by simp_all [Halo.numbers]
  · exact .field (.optional (Fill.ensures tame)) fun _ _ old new => by simp_all [Halo.numbers]

theorem VendorOptions.ensures (tame : Tame Good) :
    Ensures Good VendorOptions.format.read fun r => AllFinite r.numbers := by
  refine .record tame (by simp [VendorOptions.format, VendorOptions.numbers]) ?_
  simp only [VendorOptions.format, List.forall_mem_cons]
  refine ⟨?_, ?_, ?_, ?_, ?_, ?_, ?_, ?_, ?_, ?_, ?_, by simp⟩
  -- four flags, then seven numbers
  iterate 4 exact .field .any fun _ _ old _ => old
  all_goals
    exact .field (.optional (.number tame)) fun _ _ old new => by simp_all [VendorOptions.numbers]

theorem PolygonSymbolizer.ensures (tame : Tame Good) :
    Ensures Good PolygonSymbolizer.format.read fun r => AllFinite r.numbers := by
  refine .record tame (by simp [PolygonSymbolizer.format, PolygonSymbolizer.numbers]) ?_
  simp only [PolygonSymbolizer.format, List.forall_mem_cons]
  refine ⟨?_, ?_, by simp⟩
  · exact .field (.optional (Fill.ensures tame)) fun _ _ old new => by
      simp_all [PolygonSymbolizer.numbers]
  · exact .field (.optional (Stroke.ensures tame)) fun _ _ old new => by
      simp_all [PolygonSymbolizer.numbers]

theorem LineSymbolizer.ensures (tame : Tame Good) :
    Ensures Good LineSymbolizer.format.read fun r => AllFinite r.numbers := by
  refine .record tame (by simp [LineSymbolizer.format, LineSymbolizer.numbers]) ?_
  simp only [LineSymbolizer.format, List.forall_mem_cons]
  refine ⟨?_, by simp⟩
  exact .field (.optional (Stroke.ensures tame)) fun _ _ _ new => by
    simpa [LineSymbolizer.numbers] using new

theorem PointSymbolizer.ensures (tame : Tame Good) :
    Ensures Good PointSymbolizer.format.read fun r => AllFinite r.numbers := by
  refine .record tame (by simp [PointSymbolizer.format, PointSymbolizer.numbers, Mark.numbers]) ?_
  simp only [PointSymbolizer.format, List.forall_mem_cons]
  refine ⟨?_, by simp⟩
  exact .field (Mark.ensures tame) fun _ _ _ new => new

theorem TextSymbolizer.ensures (tame : Tame Good) :
    Ensures Good TextSymbolizer.format.read fun r => AllFinite r.numbers := by
  refine .record tame
    (by simp [TextSymbolizer.format, TextSymbolizer.numbers, VendorOptions.numbers]) ?_
  simp only [TextSymbolizer.format, List.forall_mem_cons]
  refine ⟨?_, ?_, ?_, ?_, ?_, by simp⟩
  · exact .field .any fun _ _ old _ => old
  · exact .field (.optional (Font.ensures tame)) fun _ _ old new => by
      simp_all [TextSymbolizer.numbers]
  · exact .field (.optional (LabelPlacement.ensures tame)) fun _ _ old new => by
      simp_all [TextSymbolizer.numbers]
  · exact .field (.optional (Halo.ensures tame)) fun _ _ old new => by
      simp_all [TextSymbolizer.numbers]
  · exact .field (VendorOptions.ensures tame) fun _ _ old new => by
      simp_all [TextSymbolizer.numbers]

/-- Whatever symbolizer is decoded from what JSON can hold can be stored. -/
theorem Symbolizer.ofJson_ensures : Ensures Json.Representable ofJson Symbolizer.Storable := by
  intro json good symbolizer decoded
  obtain ⟨kind, named, ⟨-, a, read, rfl⟩ | ⟨-, a, read, rfl⟩ | ⟨-, a, read, rfl⟩ | ⟨-, a, read, rfl⟩ |
    ⟨foreign, rfl⟩⟩ := ofJson_eq_ok decoded
  · exact ⟨PolygonSymbolizer.ensures Json.tame_json json good a read, trivial⟩
  · exact ⟨LineSymbolizer.ensures Json.tame_json json good a read, trivial⟩
  · exact ⟨PointSymbolizer.ensures Json.tame_json json good a read, trivial⟩
  · exact ⟨TextSymbolizer.ensures Json.tame_json json good a read, trivial⟩
  · exact ⟨allFinite_nil, kind, named, foreign⟩

theorem Symbolizer.ensures (tame : Tame Good) : Ensures Good Symbolizer.read Symbolizer.Storable := by
  intro source good symbolizer decoded
  rw [Symbolizer.read] at decoded
  cases held : Json.Source.value? source with
  | none =>
    rw [held] at decoded
    cases decoded
  | some json =>
    rw [held] at decoded
    exact ofJson_ensures json (tame.value good held) symbolizer decoded

theorem Rule.ensures (tame : Tame Good) : Ensures Good Rule.format.read Rule.Storable := by
  refine .record tame (by simp [Rule.format, Rule.Storable, Rule.numbers]) ?_
  simp only [Rule.format, List.forall_mem_cons]
  refine ⟨?_, ?_, ?_, ?_, ?_, ?_, by simp⟩
  · exact .field .any fun _ _ old _ => old
  · exact .field .any fun _ _ old _ => old
  · exact .field .any fun _ _ old _ => old
  · exact .field (.optional (.number tame)) fun _ _ old new => by
      simp_all [Rule.Storable, Rule.numbers]
  · exact .field (.optional (.number tame)) fun _ _ old new => by
      simp_all [Rule.Storable, Rule.numbers]
  · exact .field (.list tame (Symbolizer.ensures tame)) fun _ _ old new => by
      simp_all [Rule.Storable, Rule.numbers, Symbolizer.Storable]

theorem FeatureTypeStyle.ensures (tame : Tame Good) :
    Ensures Good FeatureTypeStyle.format.read fun r => ∀ rule ∈ r.rules, rule.Storable := by
  refine .record tame (by simp [FeatureTypeStyle.format]) ?_
  simp only [FeatureTypeStyle.format, List.forall_mem_cons]
  refine ⟨?_, ?_, ?_, by simp⟩
  · exact .field .any fun _ _ old _ => old
  · exact .field .any fun _ _ old _ => old
  · exact .field (.list tame (Rule.ensures tame)) fun _ _ _ new => new

/-- Whatever style is decoded from what JSON can hold can be stored. -/
theorem Style.ensures (tame : Tame Good) : Ensures Good Style.format.read Style.Storable := by
  refine .record tame (by simp [Style.format, Style.storable_iff, Style.rules]) ?_
  simp only [Style.format, List.forall_mem_cons]
  refine ⟨?_, ?_, ?_, ?_, by simp⟩
  · exact .field .any fun _ _ old _ => old
  · exact .field .any fun _ _ old _ => old
  · exact .field .any fun _ _ old _ => old
  · exact .field (FeatureTypeStyle.ensures tame) fun _ _ _ new => Style.storable_iff.2 new

/-- Whatever session is decoded from what JSON can hold can be stored. -/
theorem Session.ensures (tame : Tame Good) :
    Ensures Good Session.format.read Session.Storable := by
  refine .record tame Style.storable_starter ?_
  simp only [Session.format, List.forall_mem_cons]
  refine ⟨?_, ?_, by simp⟩
  · exact .field (Style.ensures tame) fun _ _ _ new => new
  · exact .field .any fun _ _ old _ => old

end Decoding

end MapStyle
