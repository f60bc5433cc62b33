import MapStyle.Editor
import MapStyle.Proofs.Session.Steps
import MapStyle.Proofs.Style.Decoded

/-!
# Edits, one by one and in runs

`Session.Effect` says what every edit comes to: the change with its answer, or the refusal with its
error. A symbolizer keeps its contents under all edits, and `Edit.move` says where it stands after
one; so a symbolizer of an unknown kind is found in every later snapshot as it was loaded, until it
is taken out. Main statement: `Session.edit_exact`.
-/

namespace MapStyle

open Sld

namespace Session

/-! ## What an edit comes to -/

/-- The rule that an edit addresses by position. -/
def Edit.rule? : Edit → Option Nat
  | .removeRule index => some index
  | .addSymbolizer rule => some rule
  | .removeSymbolizer rule _ => some rule
  | _ => none

/-- Whether the positions that an edit names are in range. -/
def Edit.InRange (s : Session) : Edit → Prop
  | .removeRule index => index < s.rules.length
  | .addSymbolizer rule => rule < s.rules.length
  | .removeSymbolizer rule index => ∃ r, s.rules[rule]? = some r ∧ index < r.symbolizers.length
  | _ => True

/-- What an edit of `s` comes to. What is not mentioned stays: the other rules with all their fields
    and in their order, the other fields of the rule addressed, and everything in the session
    besides. -/
inductive Effect (s : Session) : Edit → Except Error (Answer × Session) → Prop
  | create (style : Style) : Effect s (.create style) (.ok (.nothing, ⟨style, none⟩))
  | load (session : Session) : Effect s (.load session) (.ok (.nothing, session))
  | replaceStyle (style : Style) :
    Effect s (.replaceStyle style) (.ok (.nothing, ⟨style, s.layerName⟩))
  | reset : Effect s .reset (.ok (.nothing, ⟨Style.starter, none⟩))
  | setLayerName (layer : Option String) :
    Effect s (.setLayerName layer) (.ok (.nothing, ⟨s.style, Text.nonBlank? layer⟩))
  | addRule :
    Effect s .addRule (.ok (.index s.rules.length,
      s.withRules (s.rules ++ [Rule.starter (s.rules.length + 1)])))
  | removeRule {before after : List Rule} {rule : Rule}
      (rules : s.rules = before ++ rule :: after) :
    Effect s (.removeRule before.length) (.ok (.rule rule, s.withRules (before ++ after)))
  | addSymbolizer {before after : List Rule} {rule : Rule}
      (rules : s.rules = before ++ rule :: after) :
    Effect s (.addSymbolizer before.length) (.ok (.index rule.symbolizers.length, s.withRules
      (before ++ { rule with symbolizers := rule.symbolizers ++ [.starter] } :: after)))
  | removeSymbolizer {before after : List Rule} {rule : Rule} {xs ys : List Symbolizer}
      {symbolizer : Symbolizer} (rules : s.rules = before ++ rule :: after)
      (symbolizers : rule.symbolizers = xs ++ symbolizer :: ys) :
    Effect s (.removeSymbolizer before.length xs.length) (.ok (.symbolizer symbolizer, s.withRules
      (before ++ { rule with symbolizers := xs ++ ys } :: after)))
  /-- The rule's position is looked at first. -/
  | noRule {edit : Edit} {index : Nat} (addressed : edit.rule? = some index)
      (outside : s.rules.length ≤ index) :
    Effect s edit (.error (.ruleOutOfRange index s.rules.length))
  | noSymbolizer {before after : List Rule} {rule : Rule} {index : Nat}
      (rules : s.rules = before ++ rule :: after) (outside : rule.symbolizers.length ≤ index) :
    Effect s (.removeSymbolizer before.length index)
      (.error (.symbolizerOutOfRange before.length index rule.symbolizers.length))

theorem Edit.rule?_cases {e : Edit} {i : Nat} (addressed : e.rule? = some i) :
    e = .removeRule i ∨ e = .addSymbolizer i ∨ ∃ j, e = .removeSymbolizer i j := by
  cases e with
  | removeRule index => exact .inl (congrArg _ (Option.some.inj addressed))
  | addSymbolizer rule => exact .inr (.inl (congrArg _ (Option.some.inj addressed)))
  | removeSymbolizer rule j =>
    exact .inr (.inr ⟨j, congrArg (Edit.removeSymbolizer · j) (Option.some.inj addressed)⟩)
  | create style => cases addressed
  | load session => cases addressed
  | replaceStyle style => cases addressed
  | reset => cases addressed
  | setLayerName layer => cases addressed
  | addRule => cases addressed

theorem effect_edit (s : Session) (e : Edit) : Effect s e (s.edit e) := by
  cases e with
  | create style => exact .create style
  | load session => exact .load session
  | replaceStyle style => exact .replaceStyle style
  | reset => exact .reset
  | setLayerName layer => exact .setLayerName layer
  | addRule => exact .addRule
  | removeRule index =>
    by_cases inside : index < s.rules.length
    · obtain ⟨before, rule, after, rules, rfl⟩ := exists_split inside
      rw [edit, removeRule_split rules]
      exact .removeRule rules
    · rw [edit, removeRule_of_le (Nat.le_of_not_lt inside)]
      exact .noRule rfl (Nat.le_of_not_lt inside)
  | addSymbolizer index =>
    by_cases inside : index < s.rules.length
    · obtain ⟨before, rule, after, rules, rfl⟩ := exists_split inside
      rw [edit, addSymbolizer_split rules]
      exact .addSymbolizer rules
    · rw [edit, addSymbolizer_of_le (Nat.le_of_not_lt inside)]
      exact .noRule rfl (Nat.le_of_not_lt inside)
  | removeSymbolizer index position =>
    by_cases inside : index < s.rules.length
    · obtain ⟨before, rule, after, rules, rfl⟩ := exists_split inside
      by_cases there : position < rule.symbolizers.length
      · obtain ⟨xs, symbolizer, ys, symbolizers, rfl⟩ := exists_split there
        rw [edit, removeSymbolizer_split rules symbolizers]
        exact .removeSymbolizer rules symbolizers
      · rw [edit, removeSymbolizer_of_le_inside rules (Nat.le_of_not_lt there)]
        exact .noSymbolizer rules (Nat.le_of_not_lt there)
    · rw [edit, removeSymbolizer_of_le (Nat.le_of_not_lt inside)]
      exact .noRule rfl (Nat.le_of_not_lt inside)

/-- An edit comes to what `Effect` says, and to nothing else. -/
theorem effect_iff {s : Session} {e : Edit} {result : Except Error (Answer × Session)} :
    Effect s e result ↔ s.edit e = result := by
  constructor
  · intro effect
    cases effect with
    | create style => rfl
    | load session => rfl
    | replaceStyle style => rfl
    | reset => rfl
    | setLayerName layer => rfl
    | addRule => rfl
    | removeRule rules => rw [edit, removeRule_split rules]; rfl
    | addSymbolizer rules => rw [edit, addSymbolizer_split rules]; rfl
    | removeSymbolizer rules symbolizers =>
      rw [edit, removeSymbolizer_split rules symbolizers]
      rfl
    | noSymbolizer rules outside =>
      rw [edit, removeSymbolizer_of_le_inside rules outside]
      rfl
    | noRule addressed outside =>
      rcases Edit.rule?_cases addressed with rfl | rfl | ⟨j, rfl⟩
      · rw [edit, removeRule_of_le outside]
        rfl
      · rw [edit, addSymbolizer_of_le outside]
        rfl
      · rw [edit, removeSymbolizer_of_le outside]
        rfl
  · rintro rfl
    exact s.effect_edit e

theorem Effect.inRange {s : Session} {e : Edit} {made : Answer × Session}
    (effect : Effect s e (.ok made)) : e.InRange s := by
  cases effect with
  | create style => trivial
  | load session => trivial
  | replaceStyle style => trivial
  | reset => trivial
  | setLayerName layer => trivial
  | addRule => trivial
  | @removeRule before after rule rules =>
    show before.length < s.rules.length
    simp [rules]
  | @addSymbolizer before after rule rules =>
    show before.length < s.rules.length
    simp [rules]
  | @removeSymbolizer before after rule xs ys symbolizer rules symbolizers =>
    exact ⟨rule, by simp [rules], by simp [symbolizers]⟩

theorem Effect.not_inRange {s : Session} {e : Edit} {error : Error}
    (effect : Effect s e (.error error)) : ¬ e.InRange s := by
  cases effect with
  | noRule addressed outside =>
    rcases Edit.rule?_cases addressed with rfl | rfl | ⟨j, rfl⟩
    · exact Nat.not_lt_of_le outside
    · exact Nat.not_lt_of_le outside
    · rintro ⟨rule, here, -⟩
      rw [List.getElem?_eq_none outside] at here
      cases here
  | @noSymbolizer before after rule index rules outside =>
    rintro ⟨other, here, inside⟩
    obtain rfl : rule = other := by simpa [rules] using here
    exact Nat.not_lt_of_le outside inside

/-- An edit is made exactly if the positions it names are in range. -/
theorem edit_isOk_iff {s : Session} {e : Edit} : (∃ made, s.edit e = .ok made) ↔ e.InRange s := by
  have effect := s.effect_edit e
  cases result : s.edit e with
  | ok made =>
    rw [result] at effect
    exact iff_of_true ⟨made, rfl⟩ effect.inRange
  | error error =>
    rw [result] at effect
    exact iff_of_false (by simp) effect.not_inRange

/-! ## Symbolizers through edits -/

/-- The symbolizer at a position in a rule. -/
def symbolizer? (s : Session) (place : Nat × Nat) : Option Symbolizer :=
  s.rules[place.1]?.bind fun rule => rule.symbolizers[place.2]?

/-- Where something stands in a list once the item at `gone` is taken out; that item is nowhere. -/
def movedPast (gone i : Nat) : Option Nat :=
  if gone = i then none else some (if gone < i then i - 1 else i)

/-- Where a symbolizer stands after an edit. It is nowhere once it is taken out: alone, with its
    rule, or with the whole style. -/
def Edit.move : Edit → Nat × Nat → Option (Nat × Nat)
  | .create _, _ | .load _, _ | .replaceStyle _, _ | .reset, _ => none
  | .setLayerName _, place | .addRule, place | .addSymbolizer _, place => some place
  | .removeRule index, (i, j) => (movedPast index i).map (·, j)
  | .removeSymbolizer rule index, (i, j) =>
    if rule = i then (movedPast index j).map (i, ·) else some (i, j)

/-- Where a symbolizer stands after edits made one after the other. -/
def Edit.moveAll (edits : List Edit) (place : Nat × Nat) : Option (Nat × Nat) :=
  edits.foldlM (fun place e => e.move place) place

theorem movedPast_of_lt {gone i : Nat} (before : i < gone) : movedPast gone i = some i := by
  rw [movedPast, if_neg (by omega), if_neg (by omega)]

/-- What is not taken out of a list is found at its new place. -/
theorem getElem?_movedPast {α : Type} {xs : List α} {gone i k : Nat}
    (moved : movedPast gone i = some k) : (xs.eraseIdx gone)[k]? = xs[i]? := by
  rw [movedPast] at moved
  split at moved
  · cases moved
  · next other =>
    obtain rfl := Option.some.inj moved
    rw [List.getElem?_eraseIdx]
    by_cases behind : gone < i
    · rw [if_pos behind, if_neg (by omega), Nat.sub_add_cancel (by omega)]
    · rw [if_neg behind, if_pos (by omega)]

section Places

variable {s : Session} {before after : List Rule} {rule : Rule} {i j : Nat} {x : Symbolizer}
  {next : Nat × Nat}

theorem symbolizer?_eq_some :
    s.symbolizer? (i, j) = some x ↔
      ∃ there, s.rules[i]? = some there ∧ there.symbolizers[j]? = some x :=
  Option.bind_eq_some_iff

/-- Other symbolizers in one rule leave those of the other rules where they are. -/
theorem symbolizer?_withRules (rules : s.rules = before ++ rule :: after) (ys : List Symbolizer)
    (i j : Nat) :
    (s.withRules (before ++ { rule with symbolizers := ys } :: after)).symbolizer? (i, j) =
      if before.length = i then ys[j]? else s.symbolizer? (i, j) := by
  have inside : before.length < s.rules.length := by simp [rules]
  have set : (s.withRules (before ++ { rule with symbolizers := ys } :: after)).rules =
      s.rules.set before.length { rule with symbolizers := ys } := by
    rw [rules, List.set_append_right _ _ (Nat.le_refl _), Nat.sub_self]
    rfl
  rw [symbolizer?, set, List.getElem?_set, if_pos inside]
  split <;> rfl

theorem symbolizer?_addRule (here : s.symbolizer? (i, j) = some x) (rule : Rule) :
    (s.withRules (s.rules ++ [rule])).symbolizer? (i, j) = some x := by
  obtain ⟨there, atI, atJ⟩ := symbolizer?_eq_some.1 here
  have inside := (List.getElem?_eq_some_iff.1 atI).1
  exact symbolizer?_eq_some.2 ⟨there, (List.getElem?_append_left inside).trans atI, atJ⟩

theorem symbolizer?_removeRule (rules : s.rules = before ++ rule :: after)
    (moved : (Edit.removeRule before.length).move (i, j) = some next) :
    (s.withRules (before ++ after)).symbolizer? next = s.symbolizer? (i, j) := by
  obtain ⟨k, past, rfl⟩ := Option.map_eq_some_iff.1 moved
  have erased : (s.withRules (before ++ after)).rules = s.rules.eraseIdx before.length := by
    rw [rules, eraseIdx_split]
    rfl
  rw [symbolizer?, symbolizer?, erased, getElem?_movedPast past]

theorem symbolizer?_addSymbolizer (rules : s.rules = before ++ rule :: after)
    (here : s.symbolizer? (i, j) = some x) (y : Symbolizer) :
    (s.withRules (before ++ { rule with symbolizers := rule.symbolizers ++ [y] } ::
      after)).symbolizer? (i, j) = some x := by
  rw [symbolizer?_withRules rules]
  split
  · next same =>
    obtain ⟨there, atI, atJ⟩ := symbolizer?_eq_some.1 here
    obtain rfl : rule = there := by simpa [rules, ← same] using atI
    rw [List.getElem?_append_left (List.getElem?_eq_some_iff.1 atJ).1, atJ]
  · exact here

theorem symbolizer?_removeSymbolizer {xs ys : List Symbolizer} {symbolizer : Symbolizer}
    (rules : s.rules = before ++ rule :: after)
    (symbolizers : rule.symbolizers = xs ++ symbolizer :: ys)
    (here : s.symbolizer? (i, j) = some x)
    (moved : (Edit.removeSymbolizer before.length xs.length).move (i, j) = some next) :
    (s.withRules (before ++ { rule with symbolizers := xs ++ ys } :: after)).symbolizer? next =
      some x := by
  rw [Edit.move] at moved
  split at moved
  · next same =>
    obtain ⟨k, past, rfl⟩ := Option.map_eq_some_iff.1 moved
    obtain ⟨there, atI, atJ⟩ := symbolizer?_eq_some.1 here
    obtain rfl : rule = there := by simpa [rules, ← same] using atI
    rw [symbolizer?_withRules rules, if_pos same, ← eraseIdx_split xs symbolizer ys, ← symbolizers,
      getElem?_movedPast past, atJ]
  · next other =>
    obtain rfl := Option.some.inj moved
    rw [symbolizer?_withRules rules, if_neg other, here]

/-- A refused edit takes nothing out and moves nothing. -/
theorem move_of_error {e : Edit} {error : Error} (here : s.symbolizer? (i, j) = some x)
    (refused : s.edit e = .error error) : e.move (i, j) = some (i, j) := by
  obtain ⟨there, atI, atJ⟩ := symbolizer?_eq_some.1 here
  have inRules := (List.getElem?_eq_some_iff.1 atI).1
  have inRule := (List.getElem?_eq_some_iff.1 atJ).1
  cases effect_iff.2 refused with
  | noRule addressed outside =>
    rcases Edit.rule?_cases addressed with rfl | rfl | ⟨position, rfl⟩
    · rw [Edit.move, movedPast_of_lt (by omega)]
      rfl
    · rfl
    · exact if_neg (by omega)
  | @noSymbolizer before after rule index rules outside =>
    rw [Edit.move]
    split
    · next same =>
      obtain rfl : rule = there := by simpa [rules, ← same] using atI
      rw [movedPast_of_lt (by omega)]
      rfl
    · rfl

/-- An edit that does not take a symbolizer out leaves it as it is, at its new place. -/
theorem symbolizer?_after {e : Edit} (here : s.symbolizer? (i, j) = some x)
    (moved : e.move (i, j) = some next) : (s.after e).symbolizer? next = some x := by
  cases result : s.edit e with
  | error error =>
    obtain rfl := Option.some.inj ((move_of_error here result).symm.trans moved)
    rw [after_of_error result, here]
  | ok made =>
    obtain ⟨answer, t⟩ := made
    rw [after_of_ok result]
    cases effect_iff.2 result with
    | create style => cases moved
    | load session => cases moved
    | replaceStyle style => cases moved
    | reset => cases moved
    | setLayerName layer =>
      obtain rfl := Option.some.inj moved
      exact here
    | addRule =>
      obtain rfl := Option.some.inj moved
      exact symbolizer?_addRule here _
    | removeRule rules => rw [symbolizer?_removeRule rules moved, here]
    | addSymbolizer rules =>
      obtain rfl := Option.some.inj moved
      exact symbolizer?_addSymbolizer rules here _
    | removeSymbolizer rules symbolizers =>
      exact symbolizer?_removeSymbolizer rules symbolizers here moved

end Places

/-- A symbolizer that none of a run of edits takes out is the same afterwards. -/
theorem symbolizer?_afterAll {s : Session} {edits : List Edit} {place next : Nat × Nat}
    {x : Symbolizer} (here : s.symbolizer? place = some x)
    (moved : Edit.moveAll edits place = some next) :
    (s.afterAll edits).symbolizer? next = some x := by
  induction edits generalizing s place with
  | nil =>
    obtain rfl : place = next := Option.some.inj moved
    rwa [afterAll_nil]
  | cons e edits ih =>
    rw [Edit.moveAll, List.foldlM_cons] at moved
    obtain ⟨step, first, rest⟩ := Option.bind_eq_some_iff.1 moved
    rw [afterAll_cons]
    exact ih (symbolizer?_after here first) rest

/-! ## Snapshots -/

/-- The JSON of the symbolizer at a position in the JSON of a style. -/
def symbolizerIn? (json : Json) (place : Nat × Nat) : Option Json :=
  (Style.rulesIn json)[place.1]?.bind fun rule => (Rule.symbolizersIn rule)[place.2]?

/-- A snapshot holds the snapshots of the symbolizers at their positions. -/
theorem symbolizerIn?_toJson (s : Session) (place : Nat × Nat) :
    symbolizerIn? s.style.toJson place = (s.symbolizer? place).map Symbolizer.toJson := by
  have rules : Style.rulesIn s.style.toJson = s.rules.map Rule.toJson := rfl
  have inside : ∀ rule : Rule,
      Rule.symbolizersIn rule.toJson = rule.symbolizers.map Symbolizer.toJson := fun _ => rfl
  rw [symbolizerIn?, symbolizer?, rules, List.getElem?_map, Option.map_bind, Option.bind_map]
  congr 1
  funext rule
  exact (congrArg (·[place.2]?) (inside rule)).trans List.getElem?_map

end Session

/-! ## Requests -/

namespace Editor

variable {ν : Type}

/-- The edit that a request asks for, and the request's name in failure texts. -/
def Request.edit? : Request → Option (Session.Edit × String)
  | .resetStyle => some (.reset, "resetStyle")
  | .addRule => some (.addRule, "addRule")
  | .deleteRule index => some (.removeRule index, "deleteRule")
  | .addSymbolizer rule => some (.addSymbolizer rule, "addSymbolizer")
  | .deleteSymbolizer rule index => some (.removeSymbolizer rule index, "deleteSymbolizer")
  | _ => none

/-- What is recorded of an edit that is made. -/
def editRecords : Session.Edit → Session.Answer → List Log.Entry
  | .reset, _ => [⟨.info, "[WASM] resetStyle called"⟩]
  | .addRule, .index index => [⟨.debug, "[WASM] addRule: added rule at index " ++ toString index⟩]
  | _, _ => []

/-- The response of a request that comes to a result; a failure text is the last record. -/
def concluded (s : Session) (records : List Log.Entry) : Except String ν → Response ν
  | .ok value => ⟨.ok value, s, records⟩
  | .error text => ⟨.error text, s, records ++ [⟨.error, "[WASM] " ++ text⟩]⟩

theorem concluded_session (s : Session) (records : List Log.Entry)
    (result : Except String ν) : (concluded s records result).session = s := by
  cases result <;> rfl

variable [Host ν]

/-- A session's style as the host is given it, or the text of the failure to do so. -/
def handedOver (s : Session) : Except String ν :=
  (Host.style s.style).mapError fun message => "Style serialization error: " ++ message

/-- The answer to a request for an edit, from what the edit comes to: the style that it leads to, or
    the refusal behind the request's name. -/
def answered (s : Session) (e : Session.Edit) (name : String) : Response ν :=
  match s.edit e with
  | .ok (answer, next) => concluded next (editRecords e answer) (handedOver next)
  | .error error => concluded s [] (.error (name ++ " failed: " ++ error.message))

theorem answered_session (s : Session) (e : Session.Edit) (name : String) :
    (answered s e name : Response ν).session = s.after e := by
  rw [answered, Session.after]
  cases s.edit e with
  | ok made => exact concluded_session made.2 _ _
  | error error => exact concluded_session s _ _

theorem handOver_eq_concluded (s : Session) (records : List Log.Entry) :
    (handOver s records s.style : Response ν) = concluded s records (handedOver s) := by
  rw [handOver, handedOver]
  cases (Host.style s.style : Except String ν) <;> rfl

theorem edited_eq_answered {α : Type} {s : Session} {e : Session.Edit} {context name : String}
    {result : Except Session.Error (α × Session)} {answer : α → Session.Answer}
    (comes : s.edit e = result.map fun made => (answer made.1, made.2))
    (silent : ∀ a, editRecords e (answer a) = [])
    (text : context ++ ": " = name ++ " failed: ") :
    (edited s context result : Response ν) = answered s e name := by
  rw [answered, comes]
  cases result with
  | ok made =>
    show handOver made.2 [] made.2.style =
      concluded made.2 (editRecords e (answer made.1)) (handedOver made.2)
    rw [silent, handOver_eq_concluded]
  | error error =>
    rw [edited, failed, text]
    rfl

theorem respond_of_edit? {s : Session} {request : Request} {e : Session.Edit} {name : String}
    (asks : request.edit? = some (e, name)) :
    (respond s request : Response ν) = answered s e name := by
  cases request with
  | resetStyle =>
    cases asks
    exact handOver_eq_concluded _ _
  | addRule =>
    cases asks
    exact handOver_eq_concluded _ _
  | deleteRule index =>
    cases asks
    exact edited_eq_answered rfl (fun _ => rfl) rfl
  | addSymbolizer rule =>
    cases asks
    exact edited_eq_answered rfl (fun _ => rfl) rfl
  | deleteSymbolizer rule index =>
    cases asks
    exact edited_eq_answered rfl (fun _ => rfl) rfl
  | setTargetLayer layer => cases asks
  | exportDocument => cases asks
  | showStyle => cases asks
  | parseDocument text => cases asks
  | log level text => cases asks

/-- The edit stays made, also if the style that it leads to cannot be handed over. -/
theorem session_respond_of_edit? {s : Session} {request : Request} {e : Session.Edit}
    {name : String} (asks : request.edit? = some (e, name)) :
    (respond s request : Response ν).session = s.after e := by
  rw [respond_of_edit? asks, answered_session]

end Editor

namespace Session

/-- Every edit of a session comes to what `Effect` says, and to nothing else. It is made exactly if
    the positions it names are in range, and changes nothing if it is refused. A symbolizer of an
    unknown kind that none of a run of edits takes out is in the snapshot afterwards, as the JSON it
    was loaded from. Whatever styles the host can take, a request for an edit gives the style that
    the edit leads to, or the text of a failure to hand it over, or, if the edit is refused, the
    message of its error behind the name of the request; the session is then that after the edit. -/
theorem edit_exact (s : Session) :
    (∀ e result, Effect s e result ↔ s.edit e = result) ∧
      (∀ e, (∃ made, s.edit e = .ok made) ↔ e.InRange s) ∧
      (∀ e error, s.edit e = .error error → s.after e = s) ∧
      (∀ edits place next json, s.symbolizer? place = some (.unsupported json) →
        Edit.moveAll edits place = some next →
        symbolizerIn? (s.afterAll edits).style.toJson next = some json) ∧
      ∀ (ν : Type) [Editor.Host ν],
        Editor.respond s .showStyle =
            Editor.concluded s [] (Editor.handedOver s : Except String ν) ∧
          ∀ (request : Editor.Request) (e : Edit) (name : String),
            request.edit? = some (e, name) →
            Editor.respond s request = (Editor.answered s e name : Editor.Response ν) ∧
              (Editor.respond s request : Editor.Response ν).session = s.after e := by
  refine ⟨fun e result => effect_iff, fun e => edit_isOk_iff, fun e error => after_of_error,
    ?_, ?_⟩
  · intro edits place next json here moved
    rw [symbolizerIn?_toJson, symbolizer?_afterAll here moved]
    rfl
  · intro ν _
    refine ⟨Editor.handOver_eq_concluded _ _, ?_⟩
    intro request e name asks
    exact ⟨Editor.respond_of_edit? asks, Editor.session_respond_of_edit? asks⟩

mutual
/-- The first whole number in a value that is not among those that doubles tell apart. -/
def inexactNumber : Json → Option Int
  | .scalar (.int n) => if n.natAbs < 2 ^ 53 then none else some n
  | .scalar _ => none
  | .array items => inexactItem items
  | .object members => inexactMember members

/-- The first such number in the items of an array. -/
def inexactItem : List Json → Option Int
  | [] => none
  | item :: rest => (inexactNumber item).or (inexactItem rest)

/-- The first such number in the members of an object. -/
def inexactMember : List (String × Json) → Option Int
  | [] => none
  | (_, value) :: rest => (inexactNumber value).or (inexactMember rest)
end

/-- A host that takes values, whole numbers only if doubles tell them apart. -/
instance exactNumbers : Editor.Host Json where
  nothing := .null
  text := .string
  style style :=
    match inexactNumber style.toJson with
    | none => .ok style.toJson
    | some n => .error (toString n ++ " can\x27t be represented as a JavaScript number")

/-- A symbolizer of an unknown kind, with a number that some hosts cannot take. -/
def circle : Json :=
  .object [("radius", .scalar (.int 9007199254740993)), ("type", .string "circle")]

/-- A session with that symbolizer at the end of the second rule. -/
def foreign : Session :=
  { style :=
      { featureTypeStyle :=
          { rules := [Rule.starter 1, { symbolizers := [.line {}, .unsupported circle] }] } }
    layerName := some " " }

/-- Edits before and behind that symbolizer, and two that are refused. -/
def detours : List Edit :=
  [.addSymbolizer 18446744073709551615, .removeRule 0, .addRule, .removeSymbolizer 0 7,
   .setLayerName none, .removeSymbolizer 0 0, .addSymbolizer 0, .removeRule 1]

theorem edit_exact_foreign :
    foreign.symbolizer? (1, 1) = some (.unsupported circle) ∧
      Edit.moveAll detours (1, 1) = some (0, 0) ∧
      symbolizerIn? (foreign.afterAll detours).style.toJson (0, 0) = some circle ∧
      foreign.after (.removeRule 2) = foreign ∧
      Editor.respond foreign (.deleteSymbolizer 1 2) =
        (⟨.error ("deleteSymbolizer failed: " ++
            "Symbolizer index 2 out of bounds (2 symbolizers in rule 1)"),
          foreign,
          [⟨.error, "[WASM] deleteSymbolizer failed: " ++
            "Symbolizer index 2 out of bounds (2 symbolizers in rule 1)"⟩]⟩ :
          Editor.Response Json) ∧
      Editor.respond foreign (.deleteRule 0) =
        (⟨.error ("Style serialization error: " ++
            "9007199254740993 can\x27t be represented as a JavaScript number"),
          foreign.after (.removeRule 0),
          [⟨.error, "[WASM] Style serialization error: " ++
            "9007199254740993 can\x27t be represented as a JavaScript number"⟩]⟩ :
          Editor.Response Json) ∧
      (Editor.respond foreign (.deleteRule 1)).result =
        .ok (foreign.after (.removeRule 1)).style.toJson := by
  obtain ⟨-, -, refused, kept, asked⟩ := edit_exact foreign
  have here : foreign.symbolizer? (1, 1) = some (.unsupported circle) := rfl
  have moved : Edit.moveAll detours (1, 1) = some (0, 0) := by decide
  refine ⟨here, moved, kept detours _ _ _ here moved, refused _ _ rfl, ?_, ?_, ?_⟩
  · exact ((asked Json).2 _ _ _ rfl).1.trans rfl
  · exact ((asked Json).2 _ _ _ rfl).1.trans rfl
  · exact (congrArg Editor.Response.result ((asked Json).2 _ _ _ rfl).1).trans rfl

end Session

end MapStyle
