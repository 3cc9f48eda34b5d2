import C4Model.CommandLine.Command
import C4Model.Text.Integer

/-! The command that writes the document of a workspace, on the output or in a file. Nothing is written
before the whole document is there. -/

namespace C4Model.CommandLine

open Files

namespace Export

def options : List OptionSpec :=
  [ { key := .output, letter := some 'o', word := "output", value := some "FILE"
      about := "Write the DSL to this file instead of stdout." },
    { key := .config, word := "config", value := some "FILE"
      about := "Additional config file(s) to load and merge." },
    { key := .noConfig, word := "no-config"
      about := "Ignore pyproject.toml / c4dsl.toml in the working directory." },
    { key := .identifierScope, word := "identifier-scope", value := some (choiceHint ScopeMode)
      about := "Identifier uniqueness scope (hierarchical or global)." },
    { key := .indentWidth, word := "indent-width", value := some "INTEGER RANGE"
      about := "Spaces per indentation level." },
    optionHelp ]

/-- What messages call the argument. -/
def inputName : String := "INPUT"

/-- What an export is asked to do. -/
structure Request where
  input : Path
  output : Option Path := none
  settingsFiles : List Path := []
  discovers : Bool := true
  identifierScope : Option ScopeMode := none
  indentWidth : Option Int := none

/-- Refuses a directory where a file is wanted. What is not there is no directory. -/
def checkNotDirectory (tree : FileTree) (text : String) : Except ValueFault Unit :=
  match tree.findText text with
  | .ok .directory => .error (.isDirectory text)
  | _ => .ok ()

/-- Refuses what is no file that is there. -/
def checkFile (tree : FileTree) (text : String) : Except ValueFault Unit :=
  match tree.findText text with
  | .ok .directory => .error (.isDirectory text)
  | .ok (.file _) => .ok ()
  | .error _ => .error (.noSuchFile text)

def widthOf (text : String) : Except ValueFault Int :=
  match Text.integer? text with
  | none => .error (.notAnInteger text)
  | some width =>
      if 1 ≤ width ∧ width ≤ maxIndentWidth then .ok width
      else .error (.outOfRange width 1 maxIndentWidth)

/-- What an option asks for, besides what is asked already. -/
def readOption (tree : FileTree) (scanned : Scanned) (request : Request) (key : OptionKey) :
    Except ValueFault Request :=
  match key, scanned.value? key with
  | .output, some text => do
      checkNotDirectory tree text
      return { request with output := some (Path.ofText text) }
  | .config, _ => do
      let texts := scanned.values .config
      texts.forM (checkFile tree)
      return { request with settingsFiles := texts.map Path.ofText }
  | .noConfig, _ => .ok { request with discovers := false }
  | .identifierScope, some text => do
      let mode ← memberOf text
      return { request with identifierScope := some mode }
  | .indentWidth, some text => do
      let width ← widthOf text
      return { request with indentWidth := some width }
  | _, _ => .ok request

/-- The request that a command line makes. Options are looked at before the argument. -/
def Request.ofScanned (tree : FileTree) (scanned : Scanned) : Except UsageError Request := do
  let request ← scanned.keys.foldlM (fun request key =>
    (readOption tree scanned request key).mapError (.badValue (namesOf options key)))
    { input := {} }
  match scanned.words with
  | [] => throw (.argumentMissing inputName)
  | input :: extra =>
      (checkNotDirectory tree input).mapError (.badValue [inputName])
      if extra.isEmpty then return { request with input := Path.ofText input }
      else throw (.extraArguments extra)

/-- Refuses files with settings that cannot be read. -/
def checkSettingsFiles (tree : FileTree) (paths : List Path) : Command Unit :=
  paths.forM fun path =>
    match tree.readText path with
    | .ok text =>
        match Toml.read text with
        | .ok _ => pure ()
        | .error .malformed => Command.fail (.settingsMalformed path)
        | .error (.clash clash) => throw (.unhandled (.settings (.clash clash)))
    | .error (.file error) => Command.fail (.settingsUnreadable path error)
    | .error .notUtf8 => throw (.unhandled (.settings .notUtf8))

/-- The settings that the request puts on top of those from files. -/
def Request.overrides (request : Request) : Table :=
  (request.identifierScope.map fun mode =>
      (SettingsKey.identifierScope, Value.string mode.label)).toList
    ++ (request.indentWidth.map fun width => (SettingsKey.indentWidth, Value.int width)).toList

def Request.settings (request : Request) (tree : FileTree) :
    Logging.Logged SettingsError Settings := do
  let anchor := if request.discovers then some {} else none
  let draft ← SettingsDraft.ofFiles tree anchor request.settingsFiles
  match draft.override request.overrides with
  | .ok draft => return draft.freeze
  | .error error => throw (.numeral error)

/-- The document of the workspace that the blueprint in a file describes. -/
def document (surrogates : Surrogates) (settings : Settings) (tree : FileTree) (input : Path) :
    Except Stop String := do
  let workspace ←
    match Blueprint.loadFile surrogates settings tree input with
    | .ok workspace => pure workspace
    | .error (.file error) => throw (.failure (.inputUnreadable input error))
    | .error (.load (.clash clash)) => throw (.unhandled (.clash clash))
    | .error (.load (.numeral error)) => throw (.unhandled (.numeral error))
    | .error (.load error) => throw (.failure (.blueprint input error))
  workspace.serialize.mapError fun
    | .twicePlaced error => .unhandled (.twicePlaced error)
    | .numeral error => .unhandled (.numeral error)
    | error => .failure (.serialize error)

/-- Why a call stops whose output is not written. -/
def stopOfWrite (path : Path) : WriteError → Stop
  | .file error => .failure (.outputUnwritable path error)
  | .notEncodable error => .unhandled (.notEncodable error)
  | .noSpace => .failure (.outputFull path)

/-- Writes a document where it is wanted. -/
def deliver (session : Session) (output : Option Path) (document : String) : Command Unit := do
  match output with
  | none => Command.printEncoded session document
  | some path =>
      let tree := (← get).files
      let (result, files) := tree.writeText session.surrogates path (document ++ "\n")
      modify fun transcript => { transcript with files }
      liftM (result.mapError (stopOfWrite path))
      Command.logged session (Logging.log Logging.info ("Wrote " ++ path.text))
      if 0 < session.verbose then
        Command.printLine session ("Wrote " ++ toString (Text.splitLines document).length
          ++ " lines to " ++ path.text)

/-- What is shown of the diagnostics of settings. -/
def warnings (session : Session) (settings : Settings) : String :=
  String.join (settings.diagnostics.map fun diagnostic =>
    session.console.warn (diagnostic.render session.console.colored) true)

/-- Renders the document that is asked for. The input is looked for before anything else. -/
def run (session : Session) (request : Request) : Command Unit := do
  let tree := (← get).files
  if !tree.holds request.input then Command.fail (.inputNotFound request.input)
  checkSettingsFiles tree request.settingsFiles
  let settings ← Command.logged session (request.settings tree)
  Command.writeError (warnings session settings)
  let text ← liftM (document session.surrogates settings tree request.input)
  deliver session request.output text

end Export

end C4Model.CommandLine
