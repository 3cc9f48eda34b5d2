import C4Model.Blueprint.File
import C4Model.CommandLine.Session
import C4Model.Settings.Discovery
import C4Model.Workspace.Serialize

/-! Commands. A command writes on two outputs and may write files; it ends well, or it stops for a reason,
which decides the status of the call. What was written before it stopped stays written. -/

namespace C4Model.CommandLine

open Files

/-- Why a command fails. -/
inductive Failure where
  | verboseAndQuiet
  | inputNotFound (path : Path)
  | settingsMalformed (path : Path)
  | settingsUnreadable (path : Path) (error : FileError)
  | inputUnreadable (path : Path) (error : FileError)
  | blueprint (path : Path) (error : Blueprint.LoadError)
  | serialize (error : SerializeError)
  | outputUnwritable (path : Path) (error : FileError)
  | outputFull (path : Path)

def Failure.message (surrogates : Surrogates) : Failure → String
  | .verboseAndQuiet => "The '--verbose' and '--quiet' options are mutually exclusive."
  | .inputNotFound path => "Input file not found: " ++ path.text
  | .settingsMalformed path => "Invalid config file " ++ path.text ++ ": " ++ malformedText
  | .settingsUnreadable path error =>
      "Cannot read config file " ++ path.text ++ ": " ++ error.message path
  | .inputUnreadable path error => "Cannot read " ++ path.text ++ ": " ++ error.message path
  | .blueprint path error => error.message surrogates path.text
  | .serialize (.hierarchy error) => error.message
  | .serialize (.twicePlaced error) => error.message surrogates
  | .serialize (.numeral error) => error.message
  | .serialize (.render error) => error.message surrogates
  | .outputUnwritable path error => "Cannot write " ++ path.text ++ ": " ++ error.message path
  | .outputFull path => "Cannot write " ++ path.text ++ ": " ++ noSpaceText

/-- The status of a call that fails, by the convention of `sysexits`. -/
def Failure.status : Failure → Nat
  | .verboseAndQuiet => 64
  | .blueprint _ _ => 65
  | .serialize _ => 65
  | .inputNotFound _ => 66
  | .settingsUnreadable _ _ => 74
  | .inputUnreadable _ _ => 74
  | .outputUnwritable _ _ => 74
  | .outputFull _ => 74
  | .settingsMalformed _ => 78

/-- An error that no message is made for. -/
inductive Unhandled where
  | settings (error : SettingsError)
  | clash (clash : Toml.Clash)
  | twicePlaced (error : Naming.PathMap.TwicePlaced)
  | numeral (error : NumeralError)
  | notEncodable (error : EncodeError)

def Unhandled.message (surrogates : Surrogates) : Unhandled → String
  | .settings error => error.message
  | .clash found => found.message
  | .twicePlaced error => error.message surrogates
  | .numeral error => error.message
  | .notEncodable error => error.message

/-- Why a call stops. -/
inductive Stop where
  /-- All was done by showing help. -/
  | help
  /-- The command line is not understood; the page tells how to use the command. -/
  | usage (page : String) (error : UsageError)
  | failure (failure : Failure)
  | unhandled (error : Unhandled)

/-- What a call has done so far, and whether codes stay in what it says when it stops. -/
structure Transcript where
  output : String := ""
  errors : String := ""
  colored : Bool := false
  files : FileTree

abbrev Command := ExceptT Stop (StateM Transcript)

namespace Command

def fail {α : Type} (failure : Failure) : Command α :=
  throw (.failure failure)

def writeOutput (text : String) : Command Unit :=
  modify fun transcript => { transcript with output := transcript.output ++ text }

def writeError (text : String) : Command Unit :=
  modify fun transcript => { transcript with errors := transcript.errors ++ text }

/-- A line on the output. -/
def printLine (session : Session) (text : String) : Command Unit :=
  writeOutput (session.console.print text true)

/-- A line on the output that may name surrogates. If it does, nothing of it is written. -/
def printEncoded (session : Session) (text : String) : Command Unit := do
  let shown := session.console.print text true
  match session.surrogates.encode shown with
  | .ok _ => writeOutput shown
  | .error error => throw (.unhandled (.notEncodable error))

/-- Does what is logged, and shows the records that are kept. -/
def logged {α : Type} (session : Session) (action : Logging.Logged SettingsError α) :
    Command α := do
  let (result, records) := action.run.run []
  writeError (Logging.renderLog session.logThreshold records)
  match result with
  | .ok value => return value
  | .error error => throw (.unhandled (.settings error))

end Command

end C4Model.CommandLine
