import MapStyle.Xml.Builder

/-!
# Builder calls as values

The calls of a builder, so that any sequence of them can be spoken of and run.
-/

namespace MapStyle.Xml

/-- A call of a builder. -/
inductive Call
  | openElement (name : String) (attributes : Attributes)
  | close
  | leaf (name : String) (attributes : Attributes) (text : String)
  | number (name : String) (x : Binary64)
  | comment (text : String)

namespace Builder

/-- Makes a call. -/
def call (b : Builder) : Call → Builder
  | .openElement name attributes => b.openElement name attributes
  | .close => b.close
  | .leaf name attributes text => b.leaf name attributes text
  | .number name x => b.number name x
  | .comment text => b.comment text

/-- Makes calls one after the other. -/
def run (b : Builder) (calls : List Call) : Builder := calls.foldl call b

end Builder

end MapStyle.Xml
