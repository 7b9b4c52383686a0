import TemplateMetrics.Decimal.Layout

/-!
What can go wrong, and how it is told.
-/

namespace TemplateMetrics

inductive Failure where
  | io (message : String)
  | notFound (path : String)
  /-- A template that is not well formed, at a line counted from 1. -/
  | parse (path : String) (line : Nat) (detail : String)
  | config (message : String)
  | serialization (message : String)
  | toml (message : String)
  | analysis (message : String)
  | invalidArgument (message : String)
  /-- An overall score below the least that passes. -/
  | threshold (message : String) (score : Float)
deriving Repr

namespace Failure

def text : Failure → String
  | .io message => "I/O error: " ++ message
  | .notFound path => "File not found: " ++ path
  | .parse path line detail =>
    "Parse error in " ++ path ++ " at line " ++ toString line ++ ": " ++ detail
  | .config message => "Configuration error: " ++ message
  | .serialization message => "Serialization error: " ++ message
  | .toml message => "TOML parse error: " ++ message
  | .analysis message => "Analysis error: " ++ message
  | .invalidArgument message => "Invalid argument: " ++ message
  | .threshold message _ => "Threshold violation: " ++ message

/-- Whether a template could not even be read. -/
def isReadFailure : Failure → Bool
  | .io _ | .notFound _ => true
  | _ => false

end Failure

end TemplateMetrics
