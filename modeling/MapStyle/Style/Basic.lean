import MapStyle.Style.Symbolizer

/-!
# Styles

A style is an ordered list of rules under a name. A rule groups symbolizers, and may be bounded by
scale and by a filter over the features. Later rules and symbolizers paint over earlier ones. The
records are the models of the same names; `Style` is `StyleConfig`.
-/

namespace MapStyle

/-- Symbolizers with the conditions under which they apply. -/
structure Rule where
  name : Option String := none
  title : Option String := none
  /-- A comparison as it was typed. -/
  filter : Option String := none
  minScaleDenominator : Option Binary64 := none
  maxScaleDenominator : Option Binary64 := none
  symbolizers : List Symbolizer := []
  deriving BEq

/-- The rules of a style in painting order. -/
structure FeatureTypeStyle where
  name : Option String := none
  title : Option String := none
  rules : List Rule := []
  deriving BEq

/-- A map style (`StyleConfig`). -/
structure Style where
  name : Option String := none
  title : Option String := none
  abstractText : Option String := none
  featureTypeStyle : FeatureTypeStyle := {}
  deriving BEq

/-- The rule that is added as number `n`, counted from one (`Rule::starter`). -/
def Rule.starter (n : Nat) : Rule :=
  { name := some ("rule" ++ toString n)
    title := some ("Rule " ++ toString n)
    filter := some ""
    symbolizers := [Symbolizer.starter] }

namespace Style

/-- The rules in painting order. -/
abbrev rules (style : Style) : List Rule := style.featureTypeStyle.rules

/-- The style with other rules. -/
def withRules (style : Style) (rules : List Rule) : Style :=
  { style with featureTypeStyle := { style.featureTypeStyle with rules := rules } }

/-- The name of a style that has none (`DEFAULT_STYLE_NAME`). -/
def defaultName : String := "default_style"

/-- The style that editing begins with (`StyleConfig::starter`). -/
def starter : Style :=
  { name := some defaultName
    title := some "Default Style"
    abstractText := some ""
    featureTypeStyle :=
      { name := some "default"
        title := some "Default Feature Type Style"
        rules := [Rule.starter 1] } }

end Style

end MapStyle
