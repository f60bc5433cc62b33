import MapStyle.Session.Basic
import MapStyle.Text.Quoted

/-!
# The editor

What a map editor may ask of its one session. Every request gives a result or a failure text, the
session after it, and the log records in between. A failure is logged as it is given. A refused edit
leaves the session as it was; one that is made stays made, also if the style that it leads to cannot
be handed over afterwards.
-/

namespace MapStyle.Editor

/-- What receives the results: the values that it takes them as. Not every style need have one, as
    what a symbolizer of an unknown kind holds may be beyond these values. -/
class Host (ν : Type) where
  /-- The result of a request that asks for none. -/
  nothing : ν
  text : String → ν
  /-- The value of a style, or why there is none (`serialize`). -/
  style : Style → Except String ν

/-- A host that asks for texts only; any style is nothing to it. -/
@[default_instance]
instance : Host (Option String) where
  nothing := none
  text := some
  style _ := .ok none

variable {ν : Type} [Host ν]

/-- A request of the editor: `set_target_layer`, `export_sld`, `get_style_snapshot`, `reset_style`,
    `add_rule`, `delete_rule`, `add_symbolizer`, `delete_symbolizer`, `parse_sld`, in this order. -/
inductive Request
  | setTargetLayer (layer : Option String)
  | exportDocument
  | showStyle
  | resetStyle
  | addRule
  | deleteRule (index : Nat)
  | addSymbolizer (rule : Nat)
  | deleteSymbolizer (rule index : Nat)
  | parseDocument (text : String)
  /-- Writes a log record of its own. -/
  | log (level : Log.Level) (text : String)

/-- What comes of a request: the host's value for what it asks for, or a failure text. -/
structure Response (ν : Type) where
  result : Except String ν
  session : Session
  log : List Log.Entry

/-- A log text of the editor (`log_debug`, `log_info`, `log_warn`, `log_error`). -/
def tagged (text : String) : String := "[WASM] " ++ text

/-- A record of the editor. -/
def entry (level : Log.Level) (text : String) : Log.Entry := ⟨level, tagged text⟩

/-- A request that is done. -/
def done (session : Session) (log : List Log.Entry) : Response ν :=
  ⟨.ok Host.nothing, session, log⟩

/-- A request that failed while doing what `context` names, after the records given (`js_error`). -/
def failed (session : Session) (log : List Log.Entry) (context message : String) : Response ν :=
  let text := context ++ ": " ++ message
  ⟨.error text, session, log ++ [entry .error text]⟩

/-- A request that gives a style to the host, after the records given (`snapshot`). The session is
    that after the request, whether the host can take the style or not. -/
def handOver (session : Session) (log : List Log.Entry) (style : Style) : Response ν :=
  match Host.style style with
  | .ok value => ⟨.ok value, session, log⟩
  | .error message => failed session log "Style serialization error" message

/-- A request for an edit that may be refused; it gives the style that the edit leads to. -/
def edited {α : Type} (session : Session) (context : String) :
    Except Session.Error (α × Session) → Response ν
  | .ok (_, after) => handOver after [] after.style
  | .error e => failed session [] context e.message

/-- A layer as records show it. -/
def layerText : Option String → String
  | none => "None"
  | some layer => "Some(" ++ Text.quoted layer ++ ")"

/-- Answers a request. -/
def respond (session : Session) : Request → Response ν
  | .setTargetLayer layer =>
    done (session.setLayerName (Text.nonBlank? layer))
      [entry .info ("setTargetLayer called: " ++ layerText layer)]
  | .exportDocument =>
    let run := session.compile
    let log := entry .info "exportSld called (using internal WASM session)" :: run.log
    match run.outcome with
    | .error e => failed session log "SLD export error" e.message
    | .ok document =>
      ⟨.ok (Host.text document.text), session,
        log ++ [entry .info
          ("  SLD generated: " ++ toString document.text.utf8ByteSize ++ " bytes")]⟩
  | .showStyle => handOver session [] session.style
  | .resetStyle => handOver session.reset [entry .info "resetStyle called"] session.reset.style
  | .addRule =>
    let (index, after) := session.addRule
    handOver after [entry .debug ("addRule: added rule at index " ++ toString index)] after.style
  | .deleteRule index => edited session "deleteRule failed" (session.removeRule index)
  | .addSymbolizer rule => edited session "addSymbolizer failed" (session.addSymbolizer rule)
  | .deleteSymbolizer rule index =>
    edited session "deleteSymbolizer failed" (session.removeSymbolizer rule index)
  | .parseDocument text =>
    let start := entry .info ("parseSld called (" ++ toString text.utf8ByteSize ++ " bytes)")
    match Sld.parse text with
    | (.ok style, log) => handOver session (start :: log) style
    | (.error e, log) => failed session (start :: log) "SLD import error" e.message
  | .log level text => done session [entry level text]

/-- Compiles a style for a layer without looking at the session (`generate_sld`, once the style is
    read): the text of its document or a failure text, and the log records. -/
def generate (style : Style) (layer : Option String) : Except String String × List Log.Entry :=
  let run := style.compile (Text.nonBlank? layer)
  let log := entry .info "generateSld called" ::
    entry .debug ("  Style has " ++ toString style.rules.length ++ " rules") :: run.log
  match run.outcome with
  | .error e =>
    let text := "SLD export error" ++ ": " ++ e.message
    (.error text, log ++ [entry .error text])
  | .ok document =>
    (.ok document.text,
      log ++ [entry .info ("  SLD generated: " ++ toString document.text.utf8ByteSize ++ " bytes")])

end MapStyle.Editor
