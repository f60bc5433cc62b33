/-!
# Why a document cannot be had
-/

namespace MapStyle.Sld

/-- Why there is no document, or no style for a document (`SldError`). -/
inductive Error
  /-- A symbolizer of an unknown kind, with its place and the label of its rule. -/
  | unsupportedSymbolizer (kind : String) (rule : Nat) (ruleLabel : String) (symbolizer : Nat)
  /-- Something that cannot be done. -/
  | notImplemented (what : String)
  deriving DecidableEq, Repr

/-- The message of an error (`Display` of `SldError`); it counts rules and symbolizers from one. -/
def Error.message : Error → String
  | .unsupportedSymbolizer kind rule ruleLabel symbolizer =>
    "Unsupported symbolizer type '" ++ kind ++ "' in rule " ++ toString (rule + 1) ++ " (" ++
      ruleLabel ++ "), symbolizer " ++ toString (symbolizer + 1)
  | .notImplemented what => what ++ " is not implemented"

/-- A filter that could not be understood (`CompileWarning`); compiling goes on without it. -/
structure Warning where
  rule : Nat
  ruleLabel : String
  /-- The filter as it was typed. -/
  expression : String
  message : String
  deriving DecidableEq, Repr

end MapStyle.Sld
