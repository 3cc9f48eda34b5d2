import C4Model.CommandLine.Command
import C4Model.Document.Toml.Writer

/-! The command that writes settings to begin with. -/

namespace C4Model.CommandLine

namespace InitialSettings

def options : List OptionSpec :=
  [ { key := .shared, word := "pyproject"
      about := "Nest the configuration under [tool.c4dsl] for use in pyproject.toml." },
    optionHelp ]

/-- The default settings as the text of a file, which may be shared with other tools. -/
def text (shared : Bool) : String :=
  let table := ({} : Settings).toTable
  Toml.write (if shared then table.nestUnder SettingsFile.sharedSection else table)

def run (session : Session) (shared : Bool) : Command Unit := do
  let line := Command.printLine session
  let styled := session.console.styled
  let verbose := decide (0 < session.verbose)
  let frame : Console.TextStyle := { foreground := some .cyan, dim := true }
  if verbose then
    line (styled { bold := true, underline := true } "Initial C4DSL Configuration (TOML):")
    line (styled frame "# === BEGIN ===")
  Command.writeOutput
    (session.console.print (styled { foreground := some .cyan } (text shared)) false)
  if verbose then line (styled frame "# === END ===")

end InitialSettings

end C4Model.CommandLine
