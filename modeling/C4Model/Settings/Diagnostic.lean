import C4Model.Console.Paint

/-! Diagnostics: what is worth telling about the settings without stopping for it. They are kept in the
order in which they arise. -/

namespace C4Model

inductive DiagnosticLevel where
  | info
  | warning
  | error
  deriving DecidableEq

def DiagnosticLevel.label : DiagnosticLevel → String
  | .info => "info"
  | .warning => "warning"
  | .error => "error"

def DiagnosticLevel.paint : DiagnosticLevel → Console.Paint
  | .info => .blue
  | .warning => .yellow
  | .error => .brightRed

structure Diagnostic where
  level : DiagnosticLevel
  message : String
  deriving DecidableEq

/-- The diagnostic as it is shown to the user. -/
def Diagnostic.render (colored : Bool) (diagnostic : Diagnostic) : String :=
  let text := "[" ++ diagnostic.level.label ++ "] " ++ diagnostic.message
  if colored then diagnostic.level.paint.apply text else text

/-- Whether a diagnostic of the level is among them. -/
def hasLevel (level : DiagnosticLevel) (diagnostics : List Diagnostic) : Bool :=
  diagnostics.any (·.level = level)

end C4Model
