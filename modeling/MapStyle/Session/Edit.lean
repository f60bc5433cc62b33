import MapStyle.Session.Basic

/-!
# Edits as values

Every way to change a session, and what each gives back. A refused edit leaves the session as it
was, so any list of edits can be run from any session.
-/

namespace MapStyle.Session

/-- A change of a session. -/
inductive Edit
  /-- Starts a session with a style. -/
  | create (style : Style)
  /-- Takes over a stored session as it is. -/
  | load (session : Session)
  | replaceStyle (style : Style)
  | reset
  | setLayerName (layer : Option String)
  | addRule
  | removeRule (index : Nat)
  | addSymbolizer (rule : Nat)
  | removeSymbolizer (rule index : Nat)

/-- What an edit gives back. -/
inductive Answer
  | nothing
  | index (index : Nat)
  | rule (rule : Rule)
  | symbolizer (symbolizer : Symbolizer)

/-- Makes a change, or refuses it. -/
def edit (s : Session) : Edit → Except Error (Answer × Session)
  | .create style => .ok (.nothing, ofStyle style)
  | .load session => .ok (.nothing, session)
  | .replaceStyle style => .ok (.nothing, s.replaceStyle style)
  | .reset => .ok (.nothing, s.reset)
  | .setLayerName layer => .ok (.nothing, s.setLayerName layer)
  | .addRule => .ok (.index s.addRule.1, s.addRule.2)
  | .removeRule index => (s.removeRule index).map fun (rule, s) => (.rule rule, s)
  | .addSymbolizer rule => (s.addSymbolizer rule).map fun (index, s) => (.index index, s)
  | .removeSymbolizer rule index =>
    (s.removeSymbolizer rule index).map fun (symbolizer, s) => (.symbolizer symbolizer, s)

/-- The session after an edit; a refused one changes nothing. -/
def after (s : Session) (e : Edit) : Session :=
  match s.edit e with
  | .ok (_, s) => s
  | .error _ => s

/-- The snapshot of what an edit gives back. -/
def Answer.toJson : Answer → Json
  | .nothing => .null
  | .index n => .nat n
  | .rule r => r.toJson
  | .symbolizer s => s.toJson

end MapStyle.Session
