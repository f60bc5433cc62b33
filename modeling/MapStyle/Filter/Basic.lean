/-!
# Filter conditions

A condition tests one property of a feature: it compares the property with a literal, or matches it
against a pattern. Texts are held as they are meant, without any escaping.
-/

namespace MapStyle

namespace Filter

/-- How a property is compared with a literal (`ComparisonOperator`). -/
inductive Operator
  | equalTo
  | notEqualTo
  | lessThan
  | greaterThan
  | lessThanOrEqualTo
  | greaterThanOrEqualTo
  deriving DecidableEq, Repr

namespace Operator

/-- All operators. -/
def all : List Operator :=
  [.equalTo, .notEqualTo, .lessThan, .greaterThan, .lessThanOrEqualTo, .greaterThanOrEqualTo]

/-- The name of an operator in snapshots. -/
def name : Operator → String
  | .equalTo => "EqualTo"
  | .notEqualTo => "NotEqualTo"
  | .lessThan => "LessThan"
  | .greaterThan => "GreaterThan"
  | .lessThanOrEqualTo => "LessThanOrEqualTo"
  | .greaterThanOrEqualTo => "GreaterThanOrEqualTo"

/-- The element that an operator becomes (`element_name`). -/
def elementName : Operator → String
  | .equalTo => "ogc:PropertyIsEqualTo"
  | .notEqualTo => "ogc:PropertyIsNotEqualTo"
  | .lessThan => "ogc:PropertyIsLessThan"
  | .greaterThan => "ogc:PropertyIsGreaterThan"
  | .lessThanOrEqualTo => "ogc:PropertyIsLessThanOrEqualTo"
  | .greaterThanOrEqualTo => "ogc:PropertyIsGreaterThanOrEqualTo"

end Operator

/-- A test of one feature property (`FilterCondition`). -/
inductive Condition
  | comparison (operator : Operator) (property literal : String)
  | like (property pattern : String)
  deriving DecidableEq, Repr

/-- The element that a pattern match becomes. -/
def likeElementName : String := "ogc:PropertyIsLike"

/-- Matches any characters in a pattern (`LIKE_WILDCARD`). -/
def likeWildcard : String := "*"

/-- Matches one character in a pattern (`LIKE_SINGLE_CHAR`). -/
def likeSingleChar : String := "?"

/-- Takes the next character of a pattern as it is (`LIKE_ESCAPE`). -/
def likeEscape : String := "\\"

/-- The element that a condition becomes. -/
def Condition.elementName : Condition → String
  | .comparison operator _ _ => operator.elementName
  | .like _ _ => likeElementName

end Filter

end MapStyle
