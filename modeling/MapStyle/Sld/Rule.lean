import MapStyle.Filter.Translation
import MapStyle.Log
import MapStyle.Sld.Error
import MapStyle.Sld.Filter
import MapStyle.Sld.Symbolizer
import MapStyle.Style.Basic

/-!
# Rules in documents

Rules are written one after the other into a document in progress, which also collects warnings and
log records. A filter that cannot be understood becomes a comment and a warning. A symbolizer of an
unknown kind stops the writing: everything before it stays written, and the rule stays open.
-/

namespace MapStyle

open Xml (Node Builder)
open Sld

/-- A document in progress. -/
structure Sld.Progress where
  builder : Builder
  warnings : List Warning
  log : List Log.Entry

/-- The end of writing before its time: why, and how far it came. -/
structure Sld.Interruption where
  error : Sld.Error
  progress : Progress

/-- What writing comes to. -/
abbrev Sld.Outcome := Except Interruption Progress

namespace Sld.Progress

/-- Writes markup. -/
def write (p : Progress) (nodes : List Node) : Progress :=
  { p with builder := p.builder.addAll nodes }

/-- Opens an element. -/
def openElement (p : Progress) (name : String) (attributes : Xml.Attributes) : Progress :=
  { p with builder := p.builder.openElement name attributes }

/-- Closes the innermost open element. -/
def close (p : Progress) : Progress := { p with builder := p.builder.close }

/-- Adds a log record. -/
def record (p : Progress) (entry : Log.Entry) : Progress := { p with log := p.log ++ [entry] }

/-- Adds a warning. -/
def warn (p : Progress) (warning : Warning) : Progress :=
  { p with warnings := p.warnings ++ [warning] }

end Sld.Progress

namespace Rule

/-- The name that messages call a rule (`rule_label`). -/
def label (rule : Rule) : String := (Text.nonBlank? rule.name).getD "unnamed"

/-- The meaning of a rule's filter; without one it is that of a blank filter. -/
def translation (rule : Rule) : Filter.Translation :=
  (rule.filter.map Filter.translate).getD .noFilter

/-- What comments and warnings say about a filter that was not understood. -/
def unparsableMessage (raw : String) : String := "Unparsable filter expression: " ++ raw

/-- The warning about a rule's filter. -/
def warning (rule : Rule) (index : Nat) (raw : String) : Warning :=
  { rule := index, ruleLabel := rule.label, expression := raw, message := unparsableMessage raw }

/-- The records about a filter that was not understood. -/
def unparsableRecords (index : Nat) (raw : String) : List Log.Entry :=
  [Log.debug ("No comparison operator found in filter '" ++ raw ++ "'"),
   Log.warn ("Rule " ++ toString (index + 1) ++ ": could not parse filter '" ++ raw ++ "'")]

/-- The record about a symbolizer of an unknown kind. -/
def unsupportedRecord (index : Nat) (kind : String) : Log.Entry :=
  Log.error ("Rule " ++ toString (index + 1) ++ ": " ++ Symbolizer.unsupportedMessage kind)

/-- A rule's name and title. -/
def headNodes (rule : Rule) : List Node :=
  textElement "Name" rule.name ++ textElement "Title" rule.title

/-- What a filter becomes in a document. -/
def filterNodes : Filter.Translation → List Node
  | .noFilter => []
  | .condition condition => [condition.node]
  | .unparsable raw => [.comment (unparsableMessage raw)]

/-- A rule's scale bounds; zero and below mean no bound. -/
def scaleNodes (rule : Rule) : List Node :=
  positiveElement "MinScaleDenominator" rule.minScaleDenominator ++
  positiveElement "MaxScaleDenominator" rule.maxScaleDenominator

/-- Writes a rule's filter, and reports one that was not understood. -/
def writeFilter (rule : Rule) (index : Nat) (p : Progress) : Progress :=
  match rule.translation with
  | .unparsable raw =>
    (((unparsableRecords index raw).foldl Progress.record p).write
      (filterNodes (.unparsable raw))).warn (rule.warning index raw)
  | understood => p.write (filterNodes understood)

/-- Writes symbolizers, the first of which stands at `position`, up to one of an unknown kind. -/
def writeSymbolizers (rule : Rule) (index : Nat) : Nat → List Symbolizer → Progress → Outcome
  | _, [], p => .ok p
  | position, symbolizer :: rest, p =>
    match symbolizer.node with
    | .ok node => writeSymbolizers rule index (position + 1) rest (p.write [node])
    | .error kind =>
      .error
        { error := .unsupportedSymbolizer kind index rule.label position
          progress := p.record (unsupportedRecord index kind) }

/-- Writes a rule: name, title, filter, scale bounds, symbolizers (`write_rule`). -/
def write (rule : Rule) (index : Nat) (p : Progress) : Outcome :=
  let opened := (p.openElement "Rule" []).write rule.headNodes
  let bounded := (rule.writeFilter index opened).write rule.scaleNodes
  match rule.writeSymbolizers index 0 rule.symbolizers bounded with
  | .ok p => .ok p.close
  | .error stop => .error stop

end Rule

end MapStyle
