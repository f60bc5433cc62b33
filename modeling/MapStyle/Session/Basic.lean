import MapStyle.Sld.Document
import MapStyle.Style.Format
import MapStyle.Style.Snapshot

/-!
# Editing sessions

A session holds the style being edited and the layer its document is for. Edits address rules and
symbolizers by position; one that is out of range is refused and changes nothing.
-/

namespace MapStyle

/-- A style being edited and the layer it is for (`StyleSession`). -/
structure Session where
  style : Style
  layerName : Option String
  deriving BEq

namespace Session

/-- Why an edit was refused: the position asked for and how many there are (`SessionError`). -/
inductive Error
  | ruleOutOfRange (index count : Nat)
  | symbolizerOutOfRange (rule index count : Nat)
  deriving DecidableEq, Repr

/-- The message of a refused edit (`Display` of `SessionError`). -/
def Error.message : Error → String
  | .ruleOutOfRange index count =>
    "Rule index " ++ toString index ++ " out of bounds (" ++ toString count ++ " rules)"
  | .symbolizerOutOfRange rule index count =>
    "Symbolizer index " ++ toString index ++ " out of bounds (" ++ toString count ++
      " symbolizers in rule " ++ toString rule ++ ")"

/-- The session that editing begins with (`StyleSession::default`): the starter style, no layer. -/
def starter : Session := ⟨Style.starter, none⟩

/-- A session with a style and no layer (`StyleSession::new`). -/
def ofStyle (style : Style) : Session := ⟨style, none⟩

/-- The rules of the style. -/
abbrev rules (s : Session) : List Rule := s.style.rules

/-- The session with other rules. -/
def withRules (s : Session) (rules : List Rule) : Session :=
  { s with style := s.style.withRules rules }

/-- Puts another style in place of the one edited (`replace_style`). -/
def replaceStyle (s : Session) (style : Style) : Session := { s with style := style }

/-- Begins anew (`StyleSession::reset`); nothing of the session stays. -/
def reset (_s : Session) : Session := starter

/-- Chooses the layer (`set_layer_name`); a blank name means none. -/
def setLayerName (s : Session) (layer : Option String) : Session :=
  { s with layerName := Text.nonBlank? layer }

/-- Adds a starter rule behind the others, numbered by how many there are then (`add_rule`); gives
    its index. -/
def addRule (s : Session) : Nat × Session :=
  (s.rules.length, s.withRules (s.rules ++ [Rule.starter (s.rules.length + 1)]))

/-- The rule at an index (`rule_mut`). -/
def rule? (s : Session) (index : Nat) : Except Error Rule :=
  match s.rules[index]? with
  | some rule => .ok rule
  | none => .error (.ruleOutOfRange index s.rules.length)

/-- The session with other symbolizers in one rule. -/
def setSymbolizers (s : Session) (index : Nat) (rule : Rule) (symbolizers : List Symbolizer) :
    Session :=
  s.withRules (s.rules.set index { rule with symbolizers := symbolizers })

/-- Takes out the rule at an index (`remove_rule`). -/
def removeRule (s : Session) (index : Nat) : Except Error (Rule × Session) := do
  let rule ← s.rule? index
  pure (rule, s.withRules (s.rules.eraseIdx index))

/-- Adds the starter symbolizer behind the others of a rule (`add_symbolizer`); gives its index. -/
def addSymbolizer (s : Session) (index : Nat) : Except Error (Nat × Session) := do
  let rule ← s.rule? index
  pure (rule.symbolizers.length,
    s.setSymbolizers index rule (rule.symbolizers ++ [Symbolizer.starter]))

/-- Takes a symbolizer out of a rule (`remove_symbolizer`). -/
def removeSymbolizer (s : Session) (ruleIndex index : Nat) :
    Except Error (Symbolizer × Session) := do
  let rule ← s.rule? ruleIndex
  match rule.symbolizers[index]? with
  | some symbolizer =>
    pure (symbolizer, s.setSymbolizers ruleIndex rule (rule.symbolizers.eraseIdx index))
  | none => throw (.symbolizerOutOfRange ruleIndex index rule.symbolizers.length)

/-- Compiles the style for the session's layer. -/
def compile (s : Session) : Sld.Run := s.style.compile s.layerName

/-- The text of the session's document (`StyleSession::to_sld`). -/
def toSld (s : Session) : Except Sld.Error String := s.style.toSld s.layerName

/-- The snapshot of a session (`Serialize` of `StyleSession`). -/
def toJson (s : Session) : Json :=
  .object [("layerName", Json.optional Json.string s.layerName), ("style", s.style.toJson)]

open Json in
/-- The fields of a session (`Deserialize` of `StyleSession`); unlike those of a style, its style
    must be there. -/
def format {σ : Type} [Source σ] : RecordFormat σ Session where
  name := "StyleSession"
  empty := starter
  fields := [
    field "style" Style.format.read fun r v => { r with style := v },
    optionalField "layerName" readText fun r v => { r with layerName := v }]
  required := ["style"]

end Session

end MapStyle
