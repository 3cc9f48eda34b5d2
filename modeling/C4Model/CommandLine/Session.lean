import C4Model.CommandLine.Option
import C4Model.Console.Basic
import C4Model.Text.Surrogate

/-! What holds for all commands of one call: how much is told to the user, and whether in color. -/

namespace C4Model.CommandLine

/-- When output is colored. -/
inductive ColorMode where
  | auto
  | always
  | never
  deriving DecidableEq

instance : Labelled ColorMode where
  all := [.auto, .always, .never]
  label
    | .auto => "auto"
    | .always => "always"
    | .never => "never"

/-- The color mode that a value chooses, spelled as it is. -/
def ColorMode.ofValue (value : String) : Except ValueFault ColorMode :=
  match Labelled.all.find? fun mode : ColorMode => Labelled.label mode == value with
  | some mode => .ok mode
  | none => .error (.notAmong value (Labelled.all.map fun mode : ColorMode => Labelled.label mode))

/-- The variables that a call is given. -/
abbrev Environment := List (String × String)

namespace Variable

/-- Asks for colors whatever the output is, unless it is `0`. -/
def forceColor : String := "FORCE_COLOR"

/-- Asks for no colors by being there. -/
def noColor : String := "NO_COLOR"

/-- The level of the log. -/
def logLevel : String := "C4DSL_LOG_LEVEL"

end Variable

/-- Whether output is colored. Unless the mode decides, variables do, and then whether the output is a
terminal. -/
def isColored (mode : ColorMode) (environment : Environment) (terminal : Bool) : Bool :=
  match mode with
  | .always => true
  | .never => false
  | .auto =>
      match environment.lookup Variable.forceColor with
      | some force =>
          if !force.isEmpty && force != "0" then true
          else (environment.lookup Variable.noColor).isNone && terminal
      | none => (environment.lookup Variable.noColor).isNone && terminal

/-- The level of output by how often it is asked for more and for less, which cannot be both. -/
def verbosity? (verbose quiet : Nat) : Option Logging.Level :=
  if 0 < verbose ∧ 0 < quiet then none
  else if 3 ≤ verbose then some Logging.trace
  else if verbose = 2 then some Logging.debug
  else if verbose = 1 then some Logging.info
  else if 0 < quiet then some Logging.error
  else some Logging.warning

/-- What a command gets from the options before its name, and the characters that stand for surrogates in what
it reads. -/
structure Session where
  console : Console
  verbose : Nat := 0
  logThreshold : Logging.Level := Logging.critical
  surrogates : Surrogates := default

end C4Model.CommandLine
