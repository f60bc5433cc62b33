import MapStyle.Filter.Basic
import MapStyle.Xml.Node

/-!
# Filters in documents
-/

namespace MapStyle.Filter

open Xml (Node)

/-- The two operands of a condition (`write_operands`). -/
def operands (property literal : String) : List Node :=
  [.text "ogc:PropertyName" property, .text "ogc:Literal" literal]

/-- What the characters of a pattern mean. -/
def likeAttributes : Xml.Attributes :=
  [("wildCard", likeWildcard), ("singleChar", likeSingleChar), ("escape", likeEscape)]

/-- The markup of a condition (`write_filter`). -/
def Condition.node : Condition → Node
  | .comparison operator property literal =>
    .element "ogc:Filter" [] [.element operator.elementName [] (operands property literal)]
  | .like property pattern =>
    .element "ogc:Filter" [] [.element likeElementName likeAttributes (operands property pattern)]

end MapStyle.Filter
