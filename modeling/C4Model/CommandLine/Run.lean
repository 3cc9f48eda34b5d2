import C4Model.CommandLine.Export
import C4Model.CommandLine.InitialSettings
import C4Model.CommandLine.Version

/-! A call of the program. Options before the name of a command hold for all commands; those after it
are its own. -/

namespace C4Model.CommandLine

open Files

inductive CommandName where
  | exportDocument
  | initialSettings
  | version
  deriving DecidableEq

namespace CommandName

def all : List CommandName :=
  [.exportDocument, .initialSettings, .version]

def word : CommandName → String
  | .exportDocument => "export"
  | .initialSettings => "init-config"
  | .version => "version"

def about : CommandName → String
  | .exportDocument => "Render a workspace document (TOML or JSON) as Structurizr DSL."
  | .initialSettings => "Display an initial C4DSL configuration file."
  | .version => "Show the current version of C4DSL."

def options : CommandName → List OptionSpec
  | .exportDocument => Export.options
  | .initialSettings => InitialSettings.options
  | .version => Version.options

/-- The words that follow the options in the usage of a command. -/
def operands : CommandName → String
  | .exportDocument => " " ++ Export.inputName
  | _ => ""

def ofWord? (word : String) : Option CommandName :=
  all.find? (·.word = word)

end CommandName

/-- The options that hold for all commands. -/
def commonOptions : List OptionSpec :=
  [ { key := .verbose, letter := some 'v', word := "verbose"
      about := "Increase verbosity. Specify up to three times for more detail." },
    { key := .quiet, letter := some 'q', word := "quiet", about := "Suppress non-essential output." },
    { key := .color, word := "color", value := some (choiceHint ColorMode)
      about := "Color output: auto (default), always, or never." },
    { key := .noColor, word := "no-color"
      about := "Disable color output (equivalent to --color=never)." },
    optionHelp ]

namespace Help

def optionLine (spec : OptionSpec) : String :=
  "  " ++ String.intercalate ", " spec.names ++ (spec.value.map (" " ++ ·)).getD "" ++ "  "
    ++ spec.about

def commandLine (name : CommandName) : String :=
  "  " ++ name.word ++ "  " ++ name.about

/-- How the program, or one of its commands, is called. -/
def usage : Option CommandName → String
  | none => "Usage: " ++ programName ++ " [OPTIONS] COMMAND [ARGS]..."
  | some name => "Usage: " ++ programName ++ " " ++ name.word ++ " [OPTIONS]" ++ name.operands

/-- Where to find help on the program or a command. -/
def hint (name : Option CommandName) : String :=
  let words := programName :: (name.map CommandName.word).toList ++ [optionHelp.wordName]
  "Try '" ++ String.intercalate " " words ++ "' for help."

def page : Option CommandName → String
  | none =>
      Text.joinLines ([usage none, "", "  Render C4 architecture models as Structurizr DSL.", "",
        "Options:"] ++ commonOptions.map optionLine ++ ["", "Commands:"]
        ++ CommandName.all.map commandLine)
  | some name =>
      Text.joinLines ([usage (some name), "", "  " ++ name.about, "", "Options:"]
        ++ name.options.map optionLine)

end Help

/-- What surrounds a call. -/
structure Surroundings where
  files : FileTree
  environment : Environment := []
  /-- Whether the output is a terminal. -/
  terminal : Bool := false
  surrogates : Surrogates := default

/-- The value of a result, or a stop for what is wrong with the command line. -/
def orUsage {α : Type} (name : Option CommandName) (result : Except UsageError α) : Command α :=
  match result with
  | .ok value => pure value
  | .error error => throw (.usage (Help.usage name ++ "\n" ++ Help.hint name) error)

/-- The words of a command line as options and others. If help is asked for, that is all. -/
def scanFor (name : Option CommandName) (words : List String) : Command Scanned := do
  let specs := (name.map CommandName.options).getD commonOptions
  let scanned ← orUsage name (scan specs name.isSome words)
  if scanned.has .help then
    Command.writeOutput (Help.page name ++ "\n")
    throw .help
  return scanned

/-- The words before the name of a command, and the color mode that they choose. -/
def readCommon (words : List String) : Command (Scanned × ColorMode) := do
  let scanned ← scanFor none words
  match scanned.value? .color with
  | none => return (scanned, .auto)
  | some value =>
      let mode ← orUsage none
        ((ColorMode.ofValue value).mapError (.badValue (namesOf commonOptions .color)))
      return (scanned, mode)

/-- The session that the common options and the surroundings ask for. -/
def openSession (surroundings : Surroundings) (scanned : Scanned) (mode : ColorMode) :
    Command Session := do
  let verbose := scanned.count .verbose
  match verbosity? verbose (scanned.count .quiet) with
  | none => Command.fail .verboseAndQuiet
  | some verbosity =>
      let setting := (surroundings.environment.lookup Variable.logLevel).getD ""
      match Logging.levelOfText setting with
      | .error error => throw (.unhandled (.settings (.numeral error)))
      | .ok level =>
          let mode := if scanned.has .noColor then .never else mode
          let colored := isColored mode surroundings.environment surroundings.terminal
          modify fun transcript => { transcript with colored }
          return {
            console := { colored, verbosity }
            verbose
            logThreshold := level.getD Logging.critical
            surrogates := surroundings.surrogates }

/-- Runs a command on the words after its name. -/
def runCommand (session : Session) (name : CommandName) (words : List String) : Command Unit := do
  let scanned ← scanFor (some name) words
  match name with
  | .exportDocument =>
      let tree := (← get).files
      Export.run session (← orUsage (some name) (Export.Request.ofScanned tree scanned))
  | .initialSettings =>
      orUsage (some name) (checkNoWords scanned)
      InitialSettings.run session (scanned.has .shared)
  | .version => Version.run session (← orUsage (some name) (Version.formatOf scanned))

def runWords (surroundings : Surroundings) (words : List String) : Command Unit := do
  let (scanned, mode) ← readCommon words
  match scanned.words with
  | [] =>
      let session ← openSession surroundings scanned mode
      Command.printLine session
        ("Hint: use '" ++ programName ++ " export WORKSPACE.toml' to render a workspace.")
      Command.printLine session ""
      Command.printLine session (Help.page none)
  | word :: rest =>
      match CommandName.ofWord? word with
      | some name =>
          let session ← openSession surroundings scanned mode
          runCommand session name rest
      | none =>
          -- After two lone hyphens an option may stand where a command is expected.
          discard (readCommon (word :: rest))
          orUsage none (.error (.unknownCommand word
            (Text.similarTo word (CommandName.all.map CommandName.word))))

/-- What a call leaves behind. -/
structure Outcome where
  status : Nat := 0
  output : String
  errors : String
  files : FileTree
  /-- The error that ended the call without a message. -/
  unhandled : Option Unhandled := none

/-- The status of a call that is not understood. -/
def usageStatus : Nat := 2

/-- The status of a call that ends without a message. -/
def unhandledStatus : Nat := 1

/-- The outcome of a call by how it stopped and what it had done. -/
def outcome (surrogates : Surrogates) (result : Except Stop Unit) (transcript : Transcript) : Outcome :=
  let done : Outcome :=
    { output := transcript.output, errors := transcript.errors, files := transcript.files }
  let say := fun message =>
    transcript.errors ++ surrogates.escaped (Console.shown transcript.colored message) ++ "\n"
  match result with
  | .ok () => done
  | .error .help => done
  | .error (.usage page error) =>
      { done with status := usageStatus, errors := say (page ++ "\n\nError: " ++ error.message) }
  | .error (.failure failure) =>
      { done with status := failure.status, errors := say ("Error: " ++ failure.message surrogates) }
  | .error (.unhandled error) => { done with status := unhandledStatus, unhandled := some error }

/-- Runs the program on the words of a command line. -/
def run (surroundings : Surroundings) (words : List String) : Outcome :=
  let (result, transcript) := (runWords surroundings words).run { files := surroundings.files }
  outcome surroundings.surrogates result transcript

end C4Model.CommandLine
