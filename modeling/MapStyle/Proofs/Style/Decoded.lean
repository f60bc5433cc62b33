import MapStyle.Proofs.Json.Readers
import MapStyle.Style.Format

/-!
# What decoding keeps of a style

A decoded style has the rules and symbolizers of its JSON, one for one and in order. A symbolizer is
of the kind that its JSON names.
-/

namespace MapStyle

open Json (part itemsOf Keeps)

/-! ## Symbolizers -/

/-- The kinds of symbolizers that have markup. -/
def Symbolizer.knownKinds : List String := ["polygon", "line", "point", "text"]

namespace Symbolizer

theorem readRecord_eq_ok {α : Type} {kind : String} {format : Json.RecordFormat Json α}
    {make : α → Symbolizer} {json : Json} {symbolizer : Symbolizer}
    (decoded : readRecord kind format make json = .ok symbolizer) :
    ∃ a, format.read json = .ok a ∧ symbolizer = make a := by
  rw [readRecord] at decoded
  split at decoded
  · next a ok => exact ⟨a, ok, (Except.ok.inj decoded).symm⟩
  · cases decoded

/-- A symbolizer is decoded by its kind, and kept as it is where the kind is unknown. -/
theorem ofJson_eq_ok {json : Json} {symbolizer : Symbolizer}
    (decoded : ofJson json = .ok symbolizer) :
    ∃ kind, kindOf? json = some kind ∧
      (kind = "polygon" ∧ (∃ a, PolygonSymbolizer.format.read json = .ok a ∧ symbolizer = .polygon a) ∨
        kind = "line" ∧ (∃ a, LineSymbolizer.format.read json = .ok a ∧ symbolizer = .line a) ∨
        kind = "point" ∧ (∃ a, PointSymbolizer.format.read json = .ok a ∧ symbolizer = .point a) ∨
        kind = "text" ∧ (∃ a, TextSymbolizer.format.read json = .ok a ∧ symbolizer = .text a) ∨
        kind ∉ knownKinds ∧ symbolizer = .unsupported json) := by
  rw [ofJson] at decoded
  cases named : kindOf? json with
  | none => simp [named] at decoded
  | some kind =>
    simp only [named] at decoded
    refine ⟨kind, rfl, ?_⟩
    by_cases polygon : kind = "polygon"
    · rw [if_pos polygon] at decoded
      exact .inl ⟨polygon, readRecord_eq_ok decoded⟩
    by_cases line : kind = "line"
    · rw [if_neg polygon, if_pos line] at decoded
      exact .inr (.inl ⟨line, readRecord_eq_ok decoded⟩)
    by_cases point : kind = "point"
    · rw [if_neg polygon, if_neg line, if_pos point] at decoded
      exact .inr (.inr (.inl ⟨point, readRecord_eq_ok decoded⟩))
    by_cases text : kind = "text"
    · rw [if_neg polygon, if_neg line, if_neg point, if_pos text] at decoded
      exact .inr (.inr (.inr (.inl ⟨text, readRecord_eq_ok decoded⟩)))
    · rw [if_neg polygon, if_neg line, if_neg point, if_neg text] at decoded
      refine .inr (.inr (.inr (.inr ⟨?_, (Except.ok.inj decoded).symm⟩)))
      simp [knownKinds, polygon, line, point, text]

/-- A decoded symbolizer has the kind that its JSON names, and is known exactly if that is. -/
theorem ofJson_kind {json : Json} {symbolizer : Symbolizer}
    (decoded : ofJson json = .ok symbolizer) :
    kindOf? json = some symbolizer.kind ∧
      (symbolizer.kind ∈ knownKinds ∧ symbolizer.isUnsupported = false ∨
        symbolizer.kind ∉ knownKinds ∧ symbolizer = .unsupported json) := by
  obtain ⟨kind, named, ⟨rfl, a, -, rfl⟩ | ⟨rfl, a, -, rfl⟩ | ⟨rfl, a, -, rfl⟩ | ⟨rfl, a, -, rfl⟩ |
    ⟨foreign, rfl⟩⟩ := ofJson_eq_ok decoded
  · exact ⟨named, .inl ⟨by simp [Symbolizer.kind, knownKinds], rfl⟩⟩
  · exact ⟨named, .inl ⟨by simp [Symbolizer.kind, knownKinds], rfl⟩⟩
  · exact ⟨named, .inl ⟨by simp [Symbolizer.kind, knownKinds], rfl⟩⟩
  · exact ⟨named, .inl ⟨by simp [Symbolizer.kind, knownKinds], rfl⟩⟩
  · have same : (Symbolizer.unsupported json).kind = kind := by simp [Symbolizer.kind, named]
    rw [same]
    exact ⟨named, .inr ⟨foreign, rfl⟩⟩

end Symbolizer

/-! ## Rules -/

/-- The rules in the JSON of a style. -/
def Style.rulesIn (json : Json) : List Json :=
  itemsOf ((json.part "featureTypeStyle" 3).bind (part "rules" 2))

/-- The symbolizers in the JSON of a rule. -/
def Rule.symbolizersIn (json : Json) : List Json := itemsOf (json.part "symbolizers" 5)

theorem Rule.keeps_symbolizers :
    Keeps Rule.format "symbolizers" 5 (Json.readList Symbolizer.ofJson) Rule.symbolizers where
  here := ⟨_, rfl, fun _ _ => rfl⟩
  distinct := by decide
  apart := by
    intro f known other
    simp only [Rule.format, List.mem_cons, List.not_mem_nil, or_false] at known
    rcases known with rfl | rfl | rfl | rfl | rfl | rfl
    all_goals first | exact Json.field_apart fun _ _ => rfl | exact absurd rfl other

theorem FeatureTypeStyle.keeps_rules :
    Keeps FeatureTypeStyle.format "rules" 2 (Json.readList Rule.format.read)
      FeatureTypeStyle.rules where
  here := ⟨_, rfl, fun _ _ => rfl⟩
  distinct := by decide
  apart := by
    intro f known other
    simp only [FeatureTypeStyle.format, List.mem_cons, List.not_mem_nil, or_false] at known
    rcases known with rfl | rfl | rfl
    all_goals first | exact Json.field_apart fun _ _ => rfl | exact absurd rfl other

theorem Style.keeps_featureTypeStyle :
    Keeps Style.format "featureTypeStyle" 3 FeatureTypeStyle.format.read
      Style.featureTypeStyle where
  here := ⟨_, rfl, fun _ _ => rfl⟩
  distinct := by decide
  apart := by
    intro f known other
    simp only [Style.format, List.mem_cons, List.not_mem_nil, or_false] at known
    rcases known with rfl | rfl | rfl | rfl
    all_goals first | exact Json.field_apart fun _ _ => rfl | exact absurd rfl other

/-- The rules of a decoded style come one by one from those in its JSON. -/
theorem Style.forall₂_rules {json : Json} {style : Style}
    (decoded : Style.format.read json = .ok style) :
    List.Forall₂ (fun source rule => Rule.format.read source = .ok rule) (rulesIn json)
      style.rules := by
  have yields := keeps_featureTypeStyle.yields decoded
  rw [rulesIn]
  cases found : json.part "featureTypeStyle" 3 with
  | none =>
    rw [found] at yields
    have missing : style.featureTypeStyle = {} := yields
    rw [Style.rules, missing]
    exact .nil
  | some source =>
    rw [found] at yields
    exact FeatureTypeStyle.keeps_rules.forall₂ rfl yields

/-- The symbolizers of a decoded rule come one by one from those in its JSON. -/
theorem Rule.forall₂_symbolizers {json : Json} {rule : Rule}
    (decoded : Rule.format.read json = .ok rule) :
    List.Forall₂ (fun source symbolizer => Symbolizer.ofJson source = .ok symbolizer)
      (symbolizersIn json) rule.symbolizers :=
  keeps_symbolizers.forall₂ rfl decoded

end MapStyle
