import MapStyle.Proofs.Session.Edits
import MapStyle.Proofs.Sld.Unsupported

/-!
# Repairing a style by its errors

The error of an export names a symbolizer, and taking that symbolizer out is a round of repair.
Rounds go through the symbolizers of unknown kinds in their order and touch nothing else, so after
as many rounds as there are such symbolizers the export succeeds. From then on it succeeds whatever
edits are made, unless one brings another style. Main statement: `Session.repair_exact`.
-/

namespace MapStyle

open Sld

/-! ## Symbolizers of unknown kinds -/

/-- The style without its symbolizers of unknown kinds. -/
def Style.cleaned (style : Style) : Style := style.withRules (style.rules.map Rule.cleaned)

/-- How many symbolizers of unknown kinds a style has. -/
def Style.unsupportedCount (style : Style) : Nat :=
  (style.rules.flatMap Rule.symbolizers).countP Symbolizer.isUnsupported

theorem Rule.cleaned_of_known {rule : Rule}
    (known : ∀ x ∈ rule.symbolizers, x.isUnsupported = false) : rule.cleaned = rule := by
  have all : rule.symbolizers.filter (fun x => !x.isUnsupported) = rule.symbolizers :=
    List.filter_eq_self.2 fun x member => by simp [known x member]
  rw [cleaned, all]

theorem Style.cleaned_of_supported {style : Style} (known : style.Supported) :
    style.cleaned = style := by
  have each : ∀ rule ∈ style.rules, rule.cleaned = id rule := fun rule member =>
    Rule.cleaned_of_known (known rule member)
  rw [cleaned, List.map_congr_left each, List.map_id]
  rfl

theorem Style.unsupportedCount_eq_zero {style : Style} :
    style.unsupportedCount = 0 ↔ style.Supported := by
  rw [unsupportedCount, List.countP_eq_zero]
  simp only [List.mem_flatMap, Supported, Bool.not_eq_true]
  constructor
  · intro all rule inStyle x inRule
    exact all x ⟨rule, inStyle, inRule⟩
  · rintro all x ⟨rule, inStyle, inRule⟩
    exact all rule inStyle x inRule

namespace Session

/-! ## What an export blames -/

/-- The first symbolizer of an unknown kind: it stands in `rule` behind `xs`, and the rule stands
    behind `before`. -/
structure FirstUnsupported (s : Session) (before : List Rule) (rule : Rule) (after : List Rule)
    (xs : List Symbolizer) (json : Json) (ys : List Symbolizer) : Prop where
  rules : s.rules = before ++ rule :: after
  known : ∀ r ∈ before, ∀ x ∈ r.symbolizers, x.isUnsupported = false
  symbolizers : rule.symbolizers = xs ++ .unsupported json :: ys
  knownInside : ∀ x ∈ xs, x.isUnsupported = false

/-- The session once what stands between `xs` and `ys` is taken out of the rule behind `before`. -/
def shortened (s : Session) (before : List Rule) (rule : Rule) (after : List Rule)
    (xs ys : List Symbolizer) : Session :=
  s.withRules (before ++ { rule with symbolizers := xs ++ ys } :: after)

section First

variable {s : Session} {before after : List Rule} {rule : Rule} {xs ys : List Symbolizer}
  {json : Json}

theorem toSld_of_supported (known : s.style.Supported) : ∃ text, s.toSld = .ok text := by
  rw [toSld, Style.toSld, Style.compile_supported known]
  exact ⟨_, rfl⟩

theorem FirstUnsupported.toSld (first : s.FirstUnsupported before rule after xs json ys) :
    s.toSld = .error (.unsupportedSymbolizer (Symbolizer.unsupported json).kind before.length
      rule.label xs.length) := by
  rw [Session.toSld, Style.toSld, Style.compile_unsupported first.rules first.known
    first.symbolizers first.knownInside]
  rfl

theorem exists_firstUnsupported (unknown : ¬ s.style.Supported) :
    ∃ before rule after xs json ys, s.FirstUnsupported before rule after xs json ys := by
  obtain ⟨before, rule, after, xs, json, ys, rules, known, symbolizers, knownInside⟩ :=
    Style.exists_first_unsupported unknown
  exact ⟨before, rule, after, xs, json, ys, rules, known, symbolizers, knownInside⟩

/-- An export succeeds exactly if all symbolizers are of known kinds. -/
theorem toSld_isOk_iff : (∃ text, s.toSld = .ok text) ↔ s.style.Supported := by
  refine ⟨?_, toSld_of_supported⟩
  rintro ⟨text, ok⟩
  by_contra unknown
  obtain ⟨before, rule, after, xs, json, ys, first⟩ := exists_firstUnsupported unknown
  cases first.toSld.symm.trans ok

/-- An export that fails blames the first symbolizer of an unknown kind. -/
theorem firstUnsupported_of_error {error : Sld.Error} (failed : s.toSld = .error error) :
    ∃ before rule after xs json ys, s.FirstUnsupported before rule after xs json ys ∧
      error = .unsupportedSymbolizer (Symbolizer.unsupported json).kind before.length rule.label
        xs.length := by
  have unknown : ¬ s.style.Supported := by
    intro known
    obtain ⟨text, ok⟩ := toSld_of_supported known
    cases ok.symm.trans failed
  obtain ⟨before, rule, after, xs, json, ys, first⟩ := exists_firstUnsupported unknown
  exact ⟨before, rule, after, xs, json, ys, first,
    Except.error.inj (failed.symm.trans first.toSld)⟩

/-! ## Taking it out -/

namespace FirstUnsupported

theorem unsupportedCount (first : s.FirstUnsupported before rule after xs json ys) :
    (s.shortened before rule after xs ys).style.unsupportedCount + 1 =
      s.style.unsupportedCount := by
  have now : (s.shortened before rule after xs ys).style.rules =
      before ++ { rule with symbolizers := xs ++ ys } :: after := rfl
  have here : s.style.rules = before ++ rule :: after := first.rules
  rw [Style.unsupportedCount, Style.unsupportedCount, now, here]
  simp only [List.flatMap_append, List.flatMap_cons, List.countP_append, first.symbolizers,
    List.countP_cons, Symbolizer.isUnsupported, if_true]
  omega

theorem cleaned (first : s.FirstUnsupported before rule after xs json ys) :
    (s.shortened before rule after xs ys).style.cleaned = s.style.cleaned := by
  have same : Rule.cleaned { rule with symbolizers := xs ++ ys } = rule.cleaned := by
    simp [Rule.cleaned, first.symbolizers, Symbolizer.isUnsupported]
  have here : s.style.rules = before ++ rule :: after := first.rules
  have now : (s.shortened before rule after xs ys).style.cleaned =
      s.style.withRules
        ((before ++ { rule with symbolizers := xs ++ ys } :: after).map Rule.cleaned) := rfl
  rw [now, Style.cleaned, here, List.map_append, List.map_append, List.map_cons, List.map_cons,
    same]

end FirstUnsupported

/-- What was blamed is taken out, and nothing else. -/
theorem FirstUnsupported.removeSymbolizer
    (first : s.FirstUnsupported before rule after xs json ys) :
    s.removeSymbolizer before.length xs.length =
      .ok (.unsupported json, s.shortened before rule after xs ys) :=
  removeSymbolizer_split first.rules first.symbolizers

end First

/-! ## Rounds of repair -/

/-- What one round took out, and how the error had named it. -/
structure Removal where
  kind : String
  rule : Nat
  index : Nat
  symbolizer : Symbolizer

/-- A removal does not stand before another: by rules, and by symbolizers in one rule. -/
def Removal.NotBehind (first next : Removal) : Prop :=
  first.rule < next.rule ∨ first.rule = next.rule ∧ first.index ≤ next.index

/-- Rounds of repair from one session to another: the export fails, and the symbolizer at the place
    that the error gives is taken out. -/
inductive Rounds : Session → List Removal → Session → Prop
  | none (s : Session) : Rounds s [] s
  | round {s next t : Session} {kind label : String} {i j : Nat} {symbolizer : Symbolizer}
      {rest : List Removal} (failed : s.toSld = .error (.unsupportedSymbolizer kind i label j))
      (removed : s.removeSymbolizer i j = .ok (symbolizer, next)) (more : Rounds next rest t) :
    Rounds s (⟨kind, i, j, symbolizer⟩ :: rest) t

/-- Before a place, all symbolizers are of known kinds. -/
def KnownBefore (s : Session) (i j : Nat) : Prop :=
  ∀ i' j' x, s.symbolizer? (i', j') = some x → i' < i ∨ i' = i ∧ j' < j → x.isUnsupported = false

section Rounds

variable {s t : Session} {log : List Removal}

/-- A round takes out the first symbolizer of an unknown kind. -/
theorem round_cases {next : Session} {kind label : String} {i j : Nat} {symbolizer : Symbolizer}
    (failed : s.toSld = .error (.unsupportedSymbolizer kind i label j))
    (removed : s.removeSymbolizer i j = .ok (symbolizer, next)) :
    ∃ before rule after xs json ys, s.FirstUnsupported before rule after xs json ys ∧
      kind = (Symbolizer.unsupported json).kind ∧ i = before.length ∧ j = xs.length ∧
      symbolizer = .unsupported json ∧
      next = s.shortened before rule after xs ys := by
  obtain ⟨before, rule, after, xs, json, ys, first, same⟩ := firstUnsupported_of_error failed
  obtain ⟨rfl, rfl, -, rfl⟩ := Sld.Error.unsupportedSymbolizer.inj same
  obtain ⟨rfl, rfl⟩ := Prod.mk.inj (Except.ok.inj (removed.symm.trans first.removeSymbolizer))
  exact ⟨before, rule, after, xs, json, ys, first, rfl, rfl, rfl, rfl, rfl⟩

/-- Each round takes out one symbolizer of an unknown kind and leaves the rest of the style. -/
theorem Rounds.counted (rounds : Rounds s log t) :
    log.length + t.style.unsupportedCount = s.style.unsupportedCount ∧
      t.style.cleaned = s.style.cleaned ∧ t.layerName = s.layerName := by
  induction rounds with
  | none s => simp
  | round failed removed more ih =>
    obtain ⟨before, rule, after, xs, json, ys, first, -, -, -, -, rfl⟩ := round_cases failed removed
    obtain ⟨count, cleaned, layer⟩ := ih
    refine ⟨?_, cleaned.trans first.cleaned, layer⟩
    have fewer := first.unsupportedCount
    simp only [List.length_cons]
    omega

/-- What a round takes out is of an unknown kind, the one that the error names. -/
theorem Rounds.removed (rounds : Rounds s log t) :
    ∀ removal ∈ log, removal.symbolizer.isUnsupported = true ∧
      removal.symbolizer.kind = removal.kind := by
  induction rounds with
  | none s => simp
  | round failed removed more ih =>
    obtain ⟨before, rule, after, xs, json, ys, -, rfl, -, -, rfl, -⟩ := round_cases failed removed
    exact List.forall_mem_cons.2 ⟨⟨rfl, rfl⟩, ih⟩

section Order

variable {before after : List Rule} {rule : Rule} {xs ys : List Symbolizer} {json : Json}
  {i j : Nat}

theorem FirstUnsupported.symbolizer? (first : s.FirstUnsupported before rule after xs json ys) :
    s.symbolizer? (before.length, xs.length) = some (.unsupported json) := by
  refine symbolizer?_eq_some.2 ⟨rule, ?_, ?_⟩
  · simp [first.rules]
  · simp [first.symbolizers]

/-- What is known to be clean lies before the first symbolizer of an unknown kind. -/
theorem KnownBefore.le (clean : s.KnownBefore i j)
    (first : s.FirstUnsupported before rule after xs json ys) :
    i < before.length ∨ i = before.length ∧ j ≤ xs.length := by
  by_contra behind
  have known := clean _ _ _ first.symbolizer? (by omega)
  simp [Symbolizer.isUnsupported] at known

/-- After a round, everything before the place where it took something out is of known kinds. -/
theorem FirstUnsupported.knownBefore (first : s.FirstUnsupported before rule after xs json ys) :
    (s.shortened before rule after xs ys).KnownBefore before.length xs.length := by
  intro i' j' x here earlier
  rw [shortened, symbolizer?_withRules first.rules] at here
  split at here
  · next same =>
    have inside : j' < xs.length := by omega
    rw [List.getElem?_append_left inside] at here
    exact first.knownInside x (List.mem_of_getElem? here)
  · next other =>
    have inside : i' < before.length := by omega
    obtain ⟨r, atI, atJ⟩ := symbolizer?_eq_some.1 here
    rw [first.rules, List.getElem?_append_left inside] at atI
    exact first.known r (List.mem_of_getElem? atI) x (List.mem_of_getElem? atJ)

theorem KnownBefore.mono {i' j' : Nat} (clean : s.KnownBefore i' j')
    (le : i < i' ∨ i = i' ∧ j ≤ j') : s.KnownBefore i j :=
  fun k l x here earlier => clean k l x here (by omega)

/-- No round goes back before a place up to which everything is clean. -/
theorem Rounds.behind (rounds : Rounds s log t) (clean : s.KnownBefore i j) :
    ∀ removal ∈ log, i < removal.rule ∨ i = removal.rule ∧ j ≤ removal.index := by
  induction rounds with
  | none s => simp
  | round failed removed more ih =>
    obtain ⟨before, rule, after, xs, json, ys, first, -, rfl, rfl, -, rfl⟩ :=
      round_cases failed removed
    have here := clean.le first
    exact List.forall_mem_cons.2 ⟨here, ih (first.knownBefore.mono here)⟩

end Order

/-- Rounds go through the style in order. -/
theorem Rounds.ordered (rounds : Rounds s log t) : log.Pairwise Removal.NotBehind := by
  induction rounds with
  | none s => exact .nil
  | round failed removed more ih =>
    obtain ⟨before, rule, after, xs, json, ys, first, -, rfl, rfl, -, rfl⟩ :=
      round_cases failed removed
    exact .cons (fun removal member => more.behind first.knownBefore removal member) ih

/-- Rounds can go on until the export succeeds. -/
theorem exists_rounds (s : Session) :
    ∃ log t text, Rounds s log t ∧ t.toSld = .ok text := by
  generalize count : s.style.unsupportedCount = n
  induction n generalizing s with
  | zero =>
    obtain ⟨text, ok⟩ := toSld_of_supported (Style.unsupportedCount_eq_zero.1 count)
    exact ⟨[], s, text, .none s, ok⟩
  | succ n ih =>
    have unknown : ¬ s.style.Supported := by
      rw [← Style.unsupportedCount_eq_zero]
      omega
    obtain ⟨before, rule, after, xs, json, ys, first⟩ := exists_firstUnsupported unknown
    have fewer := first.unsupportedCount
    obtain ⟨log, t, text, rounds, ok⟩ := ih (s.shortened before rule after xs ys) (by omega)
    exact ⟨_, t, text, .round first.toSld first.removeSymbolizer rounds, ok⟩

end Rounds

/-! ## After the repair -/

/-- Whether an edit puts a style from outside into the session. -/
def Edit.bringsStyle : Edit → Bool
  | .create _ | .load _ | .replaceStyle _ => true
  | _ => false

/-- An edit that brings no style brings no symbolizer of an unknown kind. -/
theorem supported_after {s : Session} {e : Edit} (known : s.style.Supported)
    (own : e.bringsStyle = false) : (s.after e).style.Supported := by
  have whole : (s.style.withRules s.rules).Supported := known
  cases result : s.edit e with
  | error error => rwa [after_of_error result]
  | ok made =>
    obtain ⟨answer, t⟩ := made
    rw [after_of_ok result]
    cases effect_iff.2 result with
    | create style => cases own
    | load session => cases own
    | replaceStyle style => cases own
    | reset =>
      show Style.starter.Supported
      decide
    | setLayerName layer => exact known
    | addRule => exact Style.supported_addRule known _
    | removeRule rules =>
      rw [rules] at whole
      obtain ⟨left, -, right⟩ := Style.supported_split.1 whole
      exact List.forall_mem_append.2 ⟨left, right⟩
    | addSymbolizer rules =>
      rw [rules] at whole
      obtain ⟨left, inside, right⟩ := Style.supported_split.1 whole
      refine Style.supported_split.2 ⟨left, ?_, right⟩
      exact List.forall_mem_append.2 ⟨inside, List.forall_mem_singleton.2 rfl⟩
    | removeSymbolizer rules symbolizers =>
      rw [rules] at whole
      obtain ⟨left, inside, right⟩ := Style.supported_split.1 whole
      rw [symbolizers] at inside
      obtain ⟨first, rest⟩ := List.forall_mem_append.1 inside
      refine Style.supported_split.2 ⟨left, ?_, right⟩
      exact List.forall_mem_append.2 ⟨first, (List.forall_mem_cons.1 rest).2⟩

theorem supported_afterAll {s : Session} {edits : List Edit} (known : s.style.Supported)
    (own : ∀ e ∈ edits, e.bringsStyle = false) : (s.afterAll edits).style.Supported := by
  induction edits generalizing s with
  | nil => rwa [afterAll_nil]
  | cons e edits ih =>
    obtain ⟨here, later⟩ := List.forall_mem_cons.1 own
    rw [afterAll_cons]
    exact ih (supported_after known here) later

/-- The errors of exports can be acted on. Whatever rounds of repair have been made, either the
    export fails for a symbolizer of an unknown kind, which can be taken out at the place that the
    error gives and is of the kind that it names; or the export succeeds, there were as many rounds
    as the style had such symbolizers, and the style is what it was without them. Rounds never go
    back in the style, and they come to an end. After an export that succeeds, exports go on to
    succeed under all edits that bring no other style. -/
theorem repair_exact (s : Session) :
    (∀ log t, Rounds s log t →
      ((∃ kind i label j json next,
            t.toSld = .error (.unsupportedSymbolizer kind i label j) ∧
              t.removeSymbolizer i j = .ok (.unsupported json, next) ∧
              (Symbolizer.unsupported json).kind = kind ∧
              log.length < s.style.unsupportedCount) ∨
          (∃ text, t.toSld = .ok text) ∧ log.length = s.style.unsupportedCount ∧
            t = { s with style := s.style.cleaned }) ∧
        (∀ removal ∈ log, removal.symbolizer.isUnsupported = true ∧
          removal.symbolizer.kind = removal.kind) ∧
        log.Pairwise Removal.NotBehind) ∧
      (∃ log t text, Rounds s log t ∧ t.toSld = .ok text) ∧
      ((∃ text, s.toSld = .ok text) → ∀ edits, (∀ e ∈ edits, e.bringsStyle = false) →
        ∃ text, (s.afterAll edits).toSld = .ok text) := by
  refine ⟨?_, exists_rounds s, ?_⟩
  · intro log t rounds
    obtain ⟨count, cleaned, layer⟩ := rounds.counted
    refine ⟨?_, rounds.removed, rounds.ordered⟩
    by_cases known : t.style.Supported
    · right
      have none := Style.unsupportedCount_eq_zero.2 known
      rw [Style.cleaned_of_supported known] at cleaned
      refine ⟨toSld_of_supported known, by omega, ?_⟩
      rw [← cleaned, ← layer]
    · left
      obtain ⟨before, rule, after, xs, json, ys, first⟩ := exists_firstUnsupported known
      have fewer := first.unsupportedCount
      exact ⟨_, _, _, _, _, _, first.toSld, first.removeSymbolizer, rfl, by omega⟩
  · intro ok edits own
    exact toSld_of_supported (supported_afterAll (toSld_isOk_iff.1 ok) own)

/-- A session with three symbolizers of unknown kinds in two rules. -/
def scattered : Session :=
  { style :=
      { featureTypeStyle :=
          { rules := [
              { symbolizers := [.unsupported (.object [("type", .string "circle")]), .line {},
                  .unsupported (.object [("type", .string "raster")])] },
              Rule.starter 2,
              { name := some "last"
                symbolizers := [.unsupported (.object [("type", .string "circle")])] }] } }
    layerName := some "layer" }

theorem repair_exact_scattered :
    ∃ log t, Rounds scattered log t ∧ log.length = 3 ∧ log.Pairwise Removal.NotBehind ∧
      t = { scattered with style := scattered.style.cleaned } ∧ (∃ text, t.toSld = .ok text) ∧
      ∃ text, (t.afterAll [.addRule, .removeSymbolizer 0 5, .reset, .removeRule 0]).toSld =
        .ok text := by
  obtain ⟨each, ⟨log, t, text, rounds, ok⟩, -⟩ := repair_exact scattered
  obtain ⟨outcome, -, ordered⟩ := each log t rounds
  rcases outcome with ⟨kind, i, label, j, json, next, failed, -⟩ | ⟨-, length, same⟩
  · cases ok.symm.trans failed
  · obtain ⟨-, -, later⟩ := repair_exact t
    exact ⟨log, t, rounds, length, ordered, same, ⟨text, ok⟩, later ⟨text, ok⟩ _ (by decide)⟩

end Session

end MapStyle
