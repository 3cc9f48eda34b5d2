import C4Model.CommandLine.Command

/-! The command that tells the version of the program. -/

namespace C4Model.CommandLine

def programName : String := "c4dsl"

def programVersion : String := "0.1.0"

namespace Version

inductive Format where
  | default
  | json
  | markdown
  deriving DecidableEq

instance : Labelled Format where
  all := [.default, .json, .markdown]
  label
    | .default => "default"
    | .json => "json"
    | .markdown => "markdown"

def options : List OptionSpec :=
  [ { key := .format, word := "format", value := some (choiceHint Format)
      about := "Output format (" ++ Labelled.choices Format ++ ")." },
    optionHelp ]

/-- The format that a command line asks for. -/
def formatOf (scanned : Scanned) : Except UsageError Format := do
  let format ←
    match scanned.value? .format with
    | none => pure .default
    | some value => (memberOf value).mapError (.badValue (namesOf options .format))
  checkNoWords scanned
  return format

def run (session : Session) (format : Format) : Command Unit := do
  let line := Command.printLine session
  let bold := session.console.styled { bold := true } programVersion
  match format with
  | .json => line ("\x7b\"version\": \"" ++ programVersion ++ "\"\x7d")
  | .markdown =>
      line "# C4DSL Version\n"
      line ("**C4DSL version: " ++ programVersion ++ "**")
  | .default =>
      if 0 < session.verbose then
        line (session.console.styled { bold := true, underline := true } "C4DSL version:\n")
        line ("    " ++ bold)
      else line bold

end Version

end C4Model.CommandLine
