import MapStyle.Style.Basic
import MapStyle.Text.Blank

/-!
# Completeness

What keeps a style from being complete. The check only advises: an incomplete style compiles.
-/

namespace MapStyle

/-- A reason why a style is incomplete (`ValidationIssue`). -/
inductive Issue
  | missingStyleName
  | noRules
  /-- The rule at this index has no symbolizer. -/
  | emptyRule (index : Nat)
  deriving DecidableEq, Repr

/-- The message of an issue (`validate_style`); it counts rules from one. -/
def Issue.message : Issue → String
  | .missingStyleName => "Style name must not be empty"
  | .noRules => "At least one style rule is required"
  | .emptyRule index => "Rule " ++ toString (index + 1) ++ " requires at least one symbolizer"

/-- The issues of empty rules, the first of the rules given having index `index`. -/
def emptyRules (index : Nat) : List Rule → List Issue
  | [] => []
  | rule :: rest =>
    if rule.symbolizers.isEmpty then .emptyRule index :: emptyRules (index + 1) rest
    else emptyRules (index + 1) rest

/-- Every issue of a style: the name first, then the rules in order (`check_style`). -/
def Style.issues (style : Style) : List Issue :=
  (if (Text.nonBlank? style.name).isNone then [.missingStyleName] else []) ++
  (if style.rules.isEmpty then [.noRules] else []) ++
  emptyRules 0 style.rules

end MapStyle
