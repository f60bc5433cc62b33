import MapStyle.Proofs.Sld.Tree
import MapStyle.Proofs.Style.Decoded

/-!
# Symbolizers of unknown kinds

Compiling a style that was decoded fails for one reason only: some symbolizer in the JSON is of a
kind without markup. Then it is the first of these, in the order of rules and symbolizers, that the
error names. Main statement: `Style.compile_decoded`.
-/

namespace MapStyle

/-! ## Symbolizers in JSON -/

/-- The JSON of a style has a symbolizer at a place whose `type` is none of the known kinds. -/
def Style.ForeignAt (json : Json) (i j : Nat) (kind : String) : Prop :=
  ∃ rule symbolizer, (rulesIn json)[i]? = some rule ∧
    (Rule.symbolizersIn rule)[j]? = some symbolizer ∧
    Symbolizer.kindOf? symbolizer = some kind ∧ kind ∉ Symbolizer.knownKinds

/-- The first such place, by rules and then by symbolizers. -/
def Style.FirstForeign (json : Json) (i j : Nat) (kind : String) : Prop :=
  ForeignAt json i j kind ∧
    ∀ i' j' kind', ForeignAt json i' j' kind' → i < i' ∨ i = i' ∧ j ≤ j'

/-- Where lists go together, a member of one has its partner at the same place of the other. -/
theorem exists_partner {α β : Type} {R : α → β → Prop} {xs : List α} {ys : List β} {a : α} {i : Nat}
    (together : List.Forall₂ R xs ys) (here : xs[i]? = some a) : ∃ b, ys[i]? = some b ∧ R a b := by
  induction together generalizing i with
  | nil => simp at here
  | @cons x y xs ys first _ ih =>
    cases i with
    | zero =>
      obtain rfl : x = a := by simpa using here
      exact ⟨y, rfl, first⟩
    | succ i => exact ih here

namespace Style

/-- A decoded style has symbolizers of unknown kinds where its JSON has them. -/
theorem foreignAt_iff {json : Json} {style : Style} (decoded : Style.format.read json = .ok style)
    {i j : Nat} {kind : String} :
    ForeignAt json i j kind ↔ ∃ rule source, style.rules[i]? = some rule ∧
      rule.symbolizers[j]? = some (.unsupported source) ∧
      (Symbolizer.unsupported source).kind = kind := by
  constructor
  · rintro ⟨r, s, atI, atJ, named, foreign⟩
    obtain ⟨rule, atI', readRule⟩ := exists_partner (forall₂_rules decoded) atI
    obtain ⟨symbolizer, atJ', readSymbolizer⟩ :=
      exists_partner (Rule.forall₂_symbolizers readRule) atJ
    obtain ⟨named', origin⟩ := Symbolizer.ofJson_kind readSymbolizer
    obtain rfl : kind = symbolizer.kind := Option.some.inj (named.symm.trans named')
    rcases origin with ⟨known, -⟩ | ⟨-, same⟩
    · exact absurd known foreign
    · exact ⟨rule, s, atI', same ▸ atJ', same ▸ rfl⟩
  · rintro ⟨rule, source, atI, atJ, rfl⟩
    obtain ⟨r, atI', readRule⟩ := exists_partner (forall₂_rules decoded).flip atI
    obtain ⟨s, atJ', readSymbolizer⟩ :=
      exists_partner (Rule.forall₂_symbolizers readRule).flip atJ
    obtain ⟨named, ⟨-, known⟩ | ⟨foreign, -⟩⟩ := Symbolizer.ofJson_kind readSymbolizer
    · simp [Symbolizer.isUnsupported] at known
    · exact ⟨r, s, atI', atJ', named, foreign⟩

/-! ## Compiling what was decoded -/

/-- A list with a member that passes a test has a first one. -/
theorem exists_first {α : Type} {p : α → Bool} {xs : List α} (some : ∃ a ∈ xs, p a = true) :
    ∃ before a after, xs = before ++ a :: after ∧ p a = true ∧ ∀ b ∈ before, p b = false := by
  obtain ⟨a, found⟩ := Option.isSome_iff_exists.1 (List.find?_isSome.2 some)
  obtain ⟨passes, before, after, split, others⟩ := List.find?_eq_some_iff_append.1 found
  exact ⟨before, a, after, split, passes, by simpa using others⟩

/-- What passes a test stands behind a beginning where nothing does. -/
theorem length_le_of_getElem?_append {α : Type} {p : α → Prop} {before rest : List α} {a : α}
    {i : Nat} (clean : ∀ b ∈ before, ¬ p b) (here : (before ++ rest)[i]? = some a) (passes : p a) :
    before.length ≤ i := by
  by_contra less
  rw [List.getElem?_append_left (by omega)] at here
  exact clean a (List.mem_of_getElem? here) passes

/-- A style without markup has a first rule with a symbolizer of an unknown kind, and there a first
    such symbolizer. -/
theorem exists_first_unsupported {style : Style} (unknown : ¬ style.Supported) :
    ∃ before rule after xs source ys, style.rules = before ++ rule :: after ∧
      (∀ r ∈ before, ∀ s ∈ r.symbolizers, s.isUnsupported = false) ∧
      rule.symbolizers = xs ++ .unsupported source :: ys ∧ ∀ s ∈ xs, s.isUnsupported = false := by
  have some : ∃ rule ∈ style.rules, rule.symbolizers.any Symbolizer.isUnsupported = true := by
    simpa [Supported] using unknown
  obtain ⟨before, rule, after, rules, has, clean⟩ := exists_first some
  obtain ⟨xs, symbolizer, ys, symbolizers, foreign, cleanInside⟩ :=
    exists_first (List.any_eq_true.1 has)
  cases symbolizer with
  | unsupported source =>
    exact ⟨before, rule, after, xs, source, ys, rules, by simpa using clean, symbolizers,
      cleanInside⟩
  | polygon s => simp [Symbolizer.isUnsupported] at foreign
  | line s => simp [Symbolizer.isUnsupported] at foreign
  | point s => simp [Symbolizer.isUnsupported] at foreign
  | text s => simp [Symbolizer.isUnsupported] at foreign

/-- A style with a document has symbolizers of known kinds only. -/
theorem supported_of_compile {style : Style} {layer : Option String} {document : Sld.Document}
    (compiled : (style.compile layer).outcome = .ok document) : style.Supported := by
  by_contra unknown
  obtain ⟨before, rule, after, xs, source, ys, rules, clean, symbolizers, cleanInside⟩ :=
    exists_first_unsupported unknown
  rw [compile_unsupported rules clean symbolizers cleanInside] at compiled
  cases compiled

/-- The first symbolizer of an unknown kind in a decoded style is the first in its JSON. -/
theorem firstForeign_of_split {json : Json} {style : Style}
    (decoded : Style.format.read json = .ok style) {before after : List Rule} {rule : Rule}
    {xs ys : List Symbolizer} {source : Json} (rules : style.rules = before ++ rule :: after)
    (known : ∀ r ∈ before, ∀ s ∈ r.symbolizers, s.isUnsupported = false)
    (symbolizers : rule.symbolizers = xs ++ .unsupported source :: ys)
    (knownInside : ∀ s ∈ xs, s.isUnsupported = false) :
    FirstForeign json before.length xs.length (Symbolizer.unsupported source).kind := by
  have ruleAt : style.rules[before.length]? = some rule := by simp [rules]
  have sourceAt : rule.symbolizers[xs.length]? = some (.unsupported source) := by simp [symbolizers]
  refine ⟨(foreignAt_iff decoded).2 ⟨rule, source, ruleAt, sourceAt, rfl⟩, ?_⟩
  intro i' j' kind' other
  obtain ⟨rule', source', atI, atJ, -⟩ := (foreignAt_iff decoded).1 other
  have notBefore : before.length ≤ i' := by
    rw [rules] at atI
    apply length_le_of_getElem?_append (p := fun r => Symbolizer.unsupported source' ∈ r.symbolizers)
      _ atI (List.mem_of_getElem? atJ)
    intro r member inside
    simpa [Symbolizer.isUnsupported] using known r member _ inside
  have notEarlier : i' = before.length → xs.length ≤ j' := by
    rintro rfl
    obtain rfl := Option.some.inj (ruleAt.symm.trans atI)
    rw [symbolizers] at atJ
    apply length_le_of_getElem?_append (p := fun s => s = .unsupported source') _ atJ rfl
    rintro s member rfl
    simpa [Symbolizer.isUnsupported] using knownInside _ member
  omega

/-- Either no symbolizer is foreign and there is a document, or the first one stops compiling. -/
theorem compile_cases {json : Json} {style : Style} (decoded : Style.format.read json = .ok style)
    (layer : Option String) :
    (∃ document, (style.compile layer).outcome = .ok document) ∧
        (∀ i j kind, ¬ ForeignAt json i j kind) ∨
      ∃ i j kind rule, FirstForeign json i j kind ∧ style.rules[i]? = some rule ∧
        (style.compile layer).outcome = .error (.unsupportedSymbolizer kind i rule.label j) := by
  by_cases known : style.Supported
  · left
    refine ⟨⟨_, congrArg Sld.Run.outcome (compile_supported known layer)⟩, ?_⟩
    intro i j kind foreign
    obtain ⟨rule, source, atI, atJ, -⟩ := (foreignAt_iff decoded).1 foreign
    have clean := known rule (List.mem_of_getElem? atI) _ (List.mem_of_getElem? atJ)
    simp [Symbolizer.isUnsupported] at clean
  · right
    obtain ⟨before, rule, after, xs, source, ys, rules, clean, symbolizers, cleanInside⟩ :=
      exists_first_unsupported known
    exact ⟨_, _, _, rule, firstForeign_of_split decoded rules clean symbolizers cleanInside,
      by simp [rules], compile_unsupported rules clean symbolizers cleanInside layer⟩

theorem FirstForeign.unique {json : Json} {i j i' j' : Nat} {kind kind' : String}
    (first : FirstForeign json i j kind) (other : FirstForeign json i' j' kind') :
    i = i' ∧ j = j' ∧ kind = kind' := by
  have before := first.2 i' j' kind' other.1
  have behind := other.2 i j kind first.1
  obtain ⟨rfl, rfl⟩ : i = i' ∧ j = j' := by omega
  obtain ⟨rule, source, atI, atJ, named, -⟩ := first.1
  obtain ⟨rule', source', atI', atJ', named', -⟩ := other.1
  obtain rfl := Option.some.inj (atI.symm.trans atI')
  obtain rfl := Option.some.inj (atJ.symm.trans atJ')
  exact ⟨rfl, rfl, Option.some.inj (named.symm.trans named')⟩

/-- The kind and place of the symbolizer that a run blames. -/
def blamed? (style : Style) (layer : Option String) : Option (String × Nat × Nat) :=
  match (style.compile layer).outcome with
  | .error (.unsupportedSymbolizer kind i _ j) => some (kind, i, j)
  | _ => none

/-- Compiling a decoded style fails exactly if some symbolizer in its JSON has a `type` that is none
    of the known kinds. The error then names that text and the place of the first such symbolizer, by
    rules and then by symbolizers, and the rule's name, or `unnamed` if that is unset or blank.
    Nothing else in the style or in what it was decoded from has any part in this: another style
    whose JSON has foreign symbolizers at the same places fails at the same place or not at all. -/
theorem compile_decoded (json : Json) (style : Style) (layer : Option String)
    (decoded : Style.format.read json = .ok style) :
    ((∃ error, (style.compile layer).outcome = .error error) ↔
        ∃ i j kind, ForeignAt json i j kind) ∧
      (∀ error, (style.compile layer).outcome = .error error →
        ∃ i j kind rule, FirstForeign json i j kind ∧ style.rules[i]? = some rule ∧
          error = .unsupportedSymbolizer kind i ((Text.nonBlank? rule.name).getD "unnamed") j) ∧
      ∀ other otherStyle otherLayer, Style.format.read other = .ok otherStyle →
        (∀ i j kind, ForeignAt json i j kind ↔ ForeignAt other i j kind) →
        style.blamed? layer = otherStyle.blamed? otherLayer := by
  refine ⟨?_, ?_, ?_⟩
  · rcases compile_cases decoded layer with ⟨⟨document, ok⟩, none⟩ | ⟨i, j, kind, rule, first, _, stop⟩
    · refine iff_of_false ?_ ?_
      · rintro ⟨error, failed⟩
        cases ok.symm.trans failed
      · rintro ⟨i, j, kind, foreign⟩
        exact none i j kind foreign
    · exact iff_of_true ⟨_, stop⟩ ⟨i, j, kind, first.1⟩
  · intro error failed
    rcases compile_cases decoded layer with ⟨⟨document, ok⟩, -⟩ | ⟨i, j, kind, rule, first, here, stop⟩
    · cases ok.symm.trans failed
    · exact ⟨i, j, kind, rule, first, here, Except.error.inj (failed.symm.trans stop)⟩
  · intro other otherStyle otherLayer otherDecoded same
    rcases compile_cases decoded layer with ⟨⟨document, ok⟩, none⟩ | ⟨i, j, kind, rule, first, _, stop⟩
    · rcases compile_cases otherDecoded otherLayer with
        ⟨⟨document', ok'⟩, -⟩ | ⟨i, j, kind, rule, first, _, _⟩
      · rw [blamed?, blamed?, ok, ok']
      · exact absurd ((same i j kind).2 first.1) (none i j kind)
    · rcases compile_cases otherDecoded otherLayer with
        ⟨-, none⟩ | ⟨i', j', kind', rule', first', _, stop'⟩
      · exact absurd ((same i j kind).1 first.1) (none i j kind)
      · have moved : FirstForeign json i' j' kind' := by
          simpa only [FirstForeign, same] using first'
        obtain ⟨rfl, rfl, rfl⟩ := first.unique moved
        rw [blamed?, blamed?, stop, stop']

/-- The JSON of a circle, which is no known symbolizer. -/
def circle : Json := .object [("radius", .scalar (.int 3)), ("type", .string "circle")]

/-- The JSON of a style with a circle behind a line. -/
def circleJson : Json :=
  .object [("featureTypeStyle", .object [("rules", .array [
    .object [("symbolizers", .array [.object [("type", .string "line")], circle])]])])]

/-- The style that it is decoded to. -/
def circleStyle : Style :=
  { featureTypeStyle := { rules := [{ symbolizers := [.line {}, .unsupported circle] }] } }

theorem compile_decoded_circle : Style.format.read circleJson = .ok circleStyle ∧
    ∃ error, (circleStyle.compile (some "layer")).outcome = .error error := by
  have decoded : Style.format.read circleJson = .ok circleStyle := rfl
  have foreign : ForeignAt circleJson 0 1 "circle" := ⟨_, circle, rfl, rfl, rfl, by decide⟩
  obtain ⟨fails, -, -⟩ := compile_decoded circleJson circleStyle (some "layer") decoded
  exact ⟨decoded, fails.2 ⟨0, 1, "circle", foreign⟩⟩

end Style

end MapStyle
