import MapStyle.Filter.Format
import MapStyle.Proofs.Style.Storable

/-!
# Snapshots are read back

Reading the snapshot of what can be stored gives the very same thing: nothing is taken for something
else, and nothing is lost. Main statement: `snapshot_roundTrip`.
-/

namespace MapStyle

open Json (Source RecordFormat Reader Ensures readText readNumber readFlag readOptional readList
  readMembers optional number string bool shape)

/-! ## Readers and writers -/

namespace Json

/-- What may be unset is read back, if what is set is and does not look unset. -/
theorem readOptional_optional {α : Type} {read : Reader Json α} {write : α → Json} {o : Option α}
    (back : ∀ a ∈ o, read (write a) = .ok a) (set : ∀ a ∈ o, write a ≠ null) :
    readOptional read (optional write o) = .ok o := by
  cases o with
  | none => rfl
  | some a =>
    have here : (read (write a)).map some = .ok (some a) := by rw [back a rfl]; rfl
    have visible := set a rfl
    rw [readOptional, optional]
    split
    · next unset =>
      cases held : write a with
      | scalar v =>
        rw [held] at unset
        obtain rfl := Shape.scalar.inj unset
        exact absurd held visible
      | array items => rw [held] at unset; cases unset
      | object members => rw [held] at unset; cases unset
    · exact here

@[simp] theorem readOptional_string (o : Option String) :
    readOptional readText (optional string o) = .ok o :=
  readOptional_optional (fun _ _ => rfl) (fun _ _ => by simp)

@[simp] theorem readOptional_bool (o : Option Bool) :
    readOptional readFlag (optional bool o) = .ok o :=
  readOptional_optional (fun _ _ => rfl) (fun _ _ => by simp)

/-- A finite number is read back with its sign, even where it is zero. -/
theorem readOptional_number {o : Option Binary64} (finite : ∀ x ∈ o, x.isFinite = true) :
    readOptional readNumber (optional number o) = .ok o := by
  have held : ∀ x ∈ o, number x = .scalar (.float x) := fun x here => if_pos (finite x here)
  apply readOptional_optional
  · intro x here
    rw [held x here]
    rfl
  · intro x here
    rw [held x here]
    simp

theorem readList_map {α : Type} {read : Reader Json α} {write : α → Json} {as : List α}
    (back : ∀ a ∈ as, read (write a) = .ok a) : readList read (.array (as.map write)) = .ok as := by
  have items : readItems read (as.map write) = .ok as := by
    rw [readItems_eq_ok, List.forall₂_map_left_iff, List.forall₂_same]
    exact back
  show readItems read (as.map write) >>= (fun as => pure as) = .ok as
  rw [items]
  rfl

theorem readOptional_record {α : Type} {read : Reader Json α} {write : α → Json} {o : Option α}
    (object : ∀ a, ∃ members, write a = .object members) (back : ∀ a ∈ o, read (write a) = .ok a) :
    readOptional read (optional write o) = .ok o := by
  refine readOptional_optional back fun a _ => ?_
  obtain ⟨members, held⟩ := object a
  rw [held]
  simp

/-- Reading an object is reading its members and looking for what is missing. -/
theorem read_object {α : Type} (format : RecordFormat Json α) (members : List (String × Json)) :
    format.read (.object members) =
      readMembers format.fields format.empty [] members >>= fun (record, seen) =>
        match format.required.find? (!seen.contains ·) with
        | some name => throw (.missingField name)
        | none => pure record := rfl

end Json

section Records

-- reading a record from the members of its snapshot, one after the other
attribute [local simp] Json.read_object readMembers Json.field Json.optionalField Source.shape shape
  Except.map bind Except.bind pure Except.pure

theorem Fill.read_toJson {r : Fill} (finite : AllFinite r.numbers) :
    Fill.format.read r.toJson = .ok r := by
  have opacity := Json.readOptional_number (allFinite_toList.1 finite)
  simp [Fill.format, Fill.toJson, opacity]

theorem Json.readOptional_fill {o : Option Fill} (finite : ∀ r ∈ o, AllFinite r.numbers) :
    readOptional Fill.format.read (optional Fill.toJson o) = .ok o :=
  readOptional_record (fun _ => ⟨_, rfl⟩) fun r here => Fill.read_toJson (finite r here)

theorem Stroke.read_toJson {r : Stroke} (finite : AllFinite r.numbers) :
    Stroke.format.read r.toJson = .ok r := by
  simp only [Stroke.numbers, allFinite_append, allFinite_toList] at finite
  obtain ⟨width, opacity⟩ := finite
  simp [Stroke.format, Stroke.toJson, Json.readOptional_number width,
    Json.readOptional_number opacity]

theorem Json.readOptional_stroke {o : Option Stroke} (finite : ∀ r ∈ o, AllFinite r.numbers) :
    readOptional Stroke.format.read (optional Stroke.toJson o) = .ok o :=
  readOptional_record (fun _ => ⟨_, rfl⟩) fun r here => Stroke.read_toJson (finite r here)

theorem Mark.read_toJson {r : Mark} (finite : AllFinite r.numbers) :
    Mark.format.read r.toJson = .ok r := by
  simp only [Mark.numbers, allFinite_append, allFinite_flatMap, allFinite_toList,
    Option.mem_toList] at finite
  obtain ⟨⟨fill, stroke⟩, size⟩ := finite
  simp [Mark.format, Mark.toJson, Json.readOptional_fill fill, Json.readOptional_stroke stroke,
    Json.readOptional_number size]

theorem Font.read_toJson {r : Font} (finite : AllFinite r.numbers) :
    Font.format.read r.toJson = .ok r := by
  simp only [Font.numbers, allFinite_append, allFinite_flatMap, allFinite_toList,
    Option.mem_toList] at finite
  obtain ⟨size, fill⟩ := finite
  simp [Font.format, Font.toJson, Json.readOptional_number size, Json.readOptional_fill fill]

theorem Label.read_toJson (r : Label) : Label.format.read r.toJson = .ok r := by
  simp [Label.format, Label.toJson, readText]

theorem PointPlacement.read_toJson {r : PointPlacement} (finite : AllFinite r.numbers) :
    PointPlacement.format.read r.toJson = .ok r := by
  simp only [PointPlacement.numbers, allFinite_append, allFinite_toList] at finite
  obtain ⟨⟨⟨⟨anchorX, anchorY⟩, displacementX⟩, displacementY⟩, rotation⟩ := finite
  simp [PointPlacement.format, PointPlacement.toJson, Json.readOptional_number anchorX,
    Json.readOptional_number anchorY, Json.readOptional_number displacementX,
    Json.readOptional_number displacementY, Json.readOptional_number rotation]

theorem LinePlacement.read_toJson {r : LinePlacement} (finite : AllFinite r.numbers) :
    LinePlacement.format.read r.toJson = .ok r := by
  simp only [LinePlacement.numbers, allFinite_append, allFinite_toList] at finite
  obtain ⟨⟨offset, distance⟩, gap⟩ := finite
  simp [LinePlacement.format, LinePlacement.toJson, Json.readOptional_number offset,
    Json.readOptional_number distance, Json.readOptional_number gap]

/-- Both placements come back, in effect or not. -/
theorem LabelPlacement.read_toJson {r : LabelPlacement} (finite : AllFinite r.numbers) :
    LabelPlacement.format.read r.toJson = .ok r := by
  simp only [LabelPlacement.numbers, allFinite_append, allFinite_flatMap,
    Option.mem_toList] at finite
  have point : readOptional PointPlacement.format.read (optional PointPlacement.toJson r.point) =
      .ok r.point :=
    Json.readOptional_record (fun _ => ⟨_, rfl⟩) fun p here =>
      PointPlacement.read_toJson (finite.1 p here)
  have line : readOptional LinePlacement.format.read (optional LinePlacement.toJson r.line) =
      .ok r.line :=
    Json.readOptional_record (fun _ => ⟨_, rfl⟩) fun p here =>
      LinePlacement.read_toJson (finite.2 p here)
  simp [LabelPlacement.format, LabelPlacement.toJson, readText, point, line]

theorem Halo.read_toJson {r : Halo} (finite : AllFinite r.numbers) :
    Halo.format.read r.toJson = .ok r := by
  simp only [Halo.numbers, allFinite_append, allFinite_flatMap, allFinite_toList,
    Option.mem_toList] at finite
  obtain ⟨radius, fill⟩ := finite
  simp [Halo.format, Halo.toJson, readFlag, Json.readOptional_number radius,
    Json.readOptional_fill fill]

theorem VendorOptions.read_toJson {r : VendorOptions} (finite : AllFinite r.numbers) :
    VendorOptions.format.read r.toJson = .ok r := by
  simp only [VendorOptions.numbers, allFinite_append, allFinite_toList] at finite
  obtain ⟨⟨⟨⟨⟨⟨space, displacement⟩, group⟩, distance⟩, wrap⟩, angle⟩, fit⟩ := finite
  simp [VendorOptions.format, VendorOptions.toJson, Json.readOptional_number space,
    Json.readOptional_number displacement, Json.readOptional_number group,
    Json.readOptional_number distance, Json.readOptional_number wrap,
    Json.readOptional_number angle, Json.readOptional_number fit]

/-! ## Symbolizers -/

/-- The snapshot of a symbolizer of a known kind names the kind. -/
theorem Symbolizer.kindOf?_toJson {s : Symbolizer} (known : s.isUnsupported = false) :
    kindOf? s.toJson = some s.kind := by
  cases s with
  | polygon r => rfl
  | line r => rfl
  | point r => rfl
  | text r => rfl
  | unsupported json => simp [isUnsupported] at known

theorem PolygonSymbolizer.read_toJson {r : PolygonSymbolizer} (finite : AllFinite r.numbers) :
    PolygonSymbolizer.format.read (Symbolizer.polygon r).toJson = .ok r := by
  simp only [PolygonSymbolizer.numbers, allFinite_append, allFinite_flatMap,
    Option.mem_toList] at finite
  obtain ⟨fill, stroke⟩ := finite
  simp [PolygonSymbolizer.format, Symbolizer.toJson, Json.readOptional_fill fill,
    Json.readOptional_stroke stroke, Source.passable]

theorem LineSymbolizer.read_toJson {r : LineSymbolizer} (finite : AllFinite r.numbers) :
    LineSymbolizer.format.read (Symbolizer.line r).toJson = .ok r := by
  simp only [LineSymbolizer.numbers, allFinite_flatMap, Option.mem_toList] at finite
  simp [LineSymbolizer.format, Symbolizer.toJson, Json.readOptional_stroke finite, Source.passable]

theorem PointSymbolizer.read_toJson {r : PointSymbolizer} (finite : AllFinite r.numbers) :
    PointSymbolizer.format.read (Symbolizer.point r).toJson = .ok r := by
  have mark := Mark.read_toJson finite
  simp [PointSymbolizer.format, Symbolizer.toJson, mark, Source.passable]

theorem TextSymbolizer.read_toJson {r : TextSymbolizer} (finite : AllFinite r.numbers) :
    TextSymbolizer.format.read (Symbolizer.text r).toJson = .ok r := by
  simp only [TextSymbolizer.numbers, allFinite_append, allFinite_flatMap,
    Option.mem_toList] at finite
  obtain ⟨⟨⟨fonts, placements⟩, halos⟩, options⟩ := finite
  have label : readOptional Label.format.read (optional Label.toJson r.label) = .ok r.label :=
    Json.readOptional_record (fun _ => ⟨_, rfl⟩) fun label _ => label.read_toJson
  have font : readOptional Font.format.read (optional Font.toJson r.font) = .ok r.font :=
    Json.readOptional_record (fun _ => ⟨_, rfl⟩) fun f here => Font.read_toJson (fonts f here)
  have placement : readOptional LabelPlacement.format.read
      (optional LabelPlacement.toJson r.labelPlacement) = .ok r.labelPlacement :=
    Json.readOptional_record (fun _ => ⟨_, rfl⟩) fun p here =>
      LabelPlacement.read_toJson (placements p here)
  have halo : readOptional Halo.format.read (optional Halo.toJson r.halo) = .ok r.halo :=
    Json.readOptional_record (fun _ => ⟨_, rfl⟩) fun h here => Halo.read_toJson (halos h here)
  have vendor := VendorOptions.read_toJson options
  simp [TextSymbolizer.format, Symbolizer.toJson, label, font, placement, halo, vendor,
    Source.passable]

/-- A symbolizer that can be stored is read back from its snapshot. -/
theorem Symbolizer.ofJson_toJson {s : Symbolizer} (storable : s.Storable) :
    ofJson s.toJson = .ok s := by
  obtain ⟨finite, kept⟩ := storable
  cases s with
  | polygon r =>
    have named : kindOf? (Symbolizer.polygon r).toJson = some "polygon" := rfl
    simp [ofJson, named, readRecord, PolygonSymbolizer.read_toJson finite]
  | line r =>
    have named : kindOf? (Symbolizer.line r).toJson = some "line" := rfl
    simp [ofJson, named, readRecord, LineSymbolizer.read_toJson finite]
  | point r =>
    have named : kindOf? (Symbolizer.point r).toJson = some "point" := rfl
    simp [ofJson, named, readRecord, PointSymbolizer.read_toJson finite]
  | text r =>
    have named : kindOf? (Symbolizer.text r).toJson = some "text" := rfl
    simp [ofJson, named, readRecord, TextSymbolizer.read_toJson finite]
  | unsupported json =>
    obtain ⟨kind, named, foreign⟩ := kept
    simp only [knownKinds, List.mem_cons, List.not_mem_nil, or_false, not_or] at foreign
    obtain ⟨polygon, line, point, text⟩ := foreign
    simp [ofJson, toJson, named, polygon, line, point, text]

/-! ## Rules and styles -/

theorem Rule.read_toJson {r : Rule} (storable : r.Storable) : Rule.format.read r.toJson = .ok r := by
  obtain ⟨finite, kept⟩ := storable
  simp only [Rule.numbers, allFinite_append, allFinite_flatMap, allFinite_toList] at finite
  obtain ⟨⟨least, most⟩, inside⟩ := finite
  have symbolizers : readList Symbolizer.read (Json.array (r.symbolizers.map Symbolizer.toJson)) =
      .ok r.symbolizers :=
    Json.readList_map fun s member => Symbolizer.ofJson_toJson ⟨inside s member, kept s member⟩
  simp [Rule.format, Rule.toJson, Json.readOptional_number least, Json.readOptional_number most,
    symbolizers]

theorem FeatureTypeStyle.read_toJson {r : FeatureTypeStyle}
    (storable : ∀ rule ∈ r.rules, rule.Storable) :
    FeatureTypeStyle.format.read r.toJson = .ok r := by
  have rules : readList Rule.format.read (Json.array (r.rules.map Rule.toJson)) = .ok r.rules :=
    Json.readList_map fun rule member => Rule.read_toJson (storable rule member)
  simp [FeatureTypeStyle.format, FeatureTypeStyle.toJson, rules]

/-- A style that can be stored is read back from its snapshot. -/
theorem Style.read_toJson {r : Style} (storable : r.Storable) :
    Style.format.read r.toJson = .ok r := by
  have list := FeatureTypeStyle.read_toJson (Style.storable_iff.1 storable)
  simp [Style.format, Style.toJson, list]

/-- A session that can be stored is read back from its snapshot. -/
theorem Session.read_toJson {s : Session} (storable : s.Storable) :
    Session.format.read s.toJson = .ok s := by
  have style := Style.read_toJson storable
  simp [Session.format, Session.toJson, style]

/-! ## Conditions -/

/-- An operator is found by its name. -/
theorem Filter.Operator.ofJson_name (operator : Operator) :
    Operator.ofJson (.string operator.name) = .ok operator := by
  cases operator <;> rfl

/-- A condition is read back from its snapshot. -/
theorem Filter.Condition.ofJson_toJson (condition : Condition) :
    Condition.ofJson condition.toJson = .ok condition := by
  cases condition with
  | comparison operator property literal =>
    have parts : ComparisonParts.format.read (.object [("literal", .string literal),
        ("operator", .string operator.name), ("property", .string property)]) =
          .ok ⟨operator, property, literal⟩ := by
      simp [ComparisonParts.format, Operator.ofJson_name, readText]
    simp [Condition.ofJson, Condition.toJson, variant?, readContent, parts]
  | like property pattern =>
    have parts : LikeParts.format.read (.object [("pattern", .string pattern),
        ("property", .string property)]) = .ok ⟨property, pattern⟩ := by
      simp [LikeParts.format, readText]
    simp [Condition.ofJson, Condition.toJson, variant?, readContent, parts]

end Records

/-! ## Snapshots -/

/-- Storing loses nothing of what can be stored, and what was loaded can be stored: the snapshot of
    what was loaded stays the same however often it is loaded and stored again. -/
def RoundTrips {α : Type} (read : Reader Json α) (write : α → Json) (Storable : α → Prop) : Prop :=
  (∀ a, Storable a → read (write a) = .ok a) ∧
    ∀ json a, json.Representable → read json = .ok a →
      Storable a ∧ (read (write a)).map write = .ok (write a)

theorem RoundTrips.of_ensures {α : Type} {read : Reader Json α} {write : α → Json}
    {Storable : α → Prop} (back : ∀ a, Storable a → read (write a) = .ok a)
    (loaded : Ensures Json.Representable read Storable) : RoundTrips read write Storable := by
  refine ⟨back, fun json a good decoded => ?_⟩
  have storable := loaded json good a decoded
  refine ⟨storable, ?_⟩
  rw [back a storable]
  rfl

/-- Styles, sessions and conditions round trip through their snapshots. The snapshot of a symbolizer
    names its kind, and a symbolizer of an unknown kind is stored as the very JSON it was loaded from.
    Nothing but representable JSON is ever read from a text, and styles that are loaded from a text
    directly can be stored as well. -/
theorem snapshot_roundTrip :
    RoundTrips Style.format.read Style.toJson Style.Storable ∧
      RoundTrips Session.format.read Session.toJson Session.Storable ∧
      RoundTrips Filter.Condition.ofJson Filter.Condition.toJson (fun _ => True) ∧
      (∀ s : Symbolizer, s.isUnsupported = false → Symbolizer.kindOf? s.toJson = some s.kind) ∧
      (∀ json, (Symbolizer.unsupported json).toJson = json) ∧
      (∀ json s, Symbolizer.ofJson json = .ok s → s.isUnsupported = true → s.toJson = json) ∧
      (∀ text json, Json.ofText? text = some json → json.Representable) ∧
      ∀ text style, Style.ofText text = .ok style → style.Storable := by
  refine ⟨?_, ?_, ?_, ?_, ?_, ?_, ?_, ?_⟩
  · exact .of_ensures (fun _ => Style.read_toJson) (Style.ensures Json.tame_json)
  · exact .of_ensures (fun _ => Session.read_toJson) (Session.ensures Json.tame_json)
  · exact .of_ensures (fun c _ => c.ofJson_toJson) .any
  · exact fun _ => Symbolizer.kindOf?_toJson
  · exact fun _ => rfl
  · intro json s decoded unknown
    rcases (Symbolizer.ofJson_kind decoded).2 with ⟨-, known⟩ | ⟨-, rfl⟩
    · simp [known] at unknown
    · rfl
  · exact fun _ _ => Json.representable_ofText?
  · exact fun _ _ => Json.decodeText_ensures (Style.ensures Json.tame_term)

/-- The JSON of a style that is easily spoilt: an empty title, a flag that is off, a placement that is
    not in effect, a zero with a sign, and a symbolizer of an unknown kind with numbers of its own. -/
def delicateJson : Json :=
  .object [("featureTypeStyle", .object [("rules", .array [
      .object [("symbolizers", .array [
        .object [
          ("labelPlacement", .object [
            ("line", .object [("initialGap", .scalar (.float (.ofRank true 0)))]),
            ("type", .string "point")]),
          ("type", .string "text"),
          ("vendorOptions", .object [("followLine", .bool false)])],
        .object [("radius", .scalar (.int 3)), ("size", .scalar (.float .one)),
          ("type", .string "circle")]])]])]),
    ("title", .string "")]

theorem snapshot_roundTrip_delicate :
    delicateJson.Representable ∧ ∃ style, Style.format.read delicateJson = .ok style ∧
      style.Storable ∧ Style.format.read style.toJson = .ok style := by
  have representable : delicateJson.Representable := by
    simp [delicateJson, Json.Representable, Json.RepresentableItems, Json.RepresentableMembers,
      Scalar.Representable, Binary64.isFinite, Binary64.ofRank, Binary64.one]
  obtain ⟨⟨back, loaded⟩, -⟩ := snapshot_roundTrip
  have decoded : ∃ style, Style.format.read delicateJson = .ok style := ⟨_, rfl⟩
  obtain ⟨style, here⟩ := decoded
  have storable := (loaded delicateJson style representable here).1
  exact ⟨representable, style, here, storable, back style storable⟩

end MapStyle
