import C4Model.Document.Toml.Reader
import C4Model.Files.Text
import C4Model.Logging.Record
import C4Model.Settings.Layer

/-! Settings from files. The files in the directory where the program works are found by their names;
further ones are named by the user and come on top. A malformed file counts as an empty one,
which is logged; one with a clash is refused. -/

namespace C4Model

open Files Logging

/-- Why settings cannot be had from files at all. -/
inductive SettingsError where
  | notUtf8
  | numeral (error : NumeralError)
  | clash (clash : Toml.Clash)

def SettingsError.message : SettingsError → String
  | .notUtf8 => "invalid UTF-8: " ++ malformedText
  | .numeral error => error.message
  | .clash found => found.message

namespace SettingsFile

/-- The file that a project shares among its tools. -/
def shared : String := "pyproject.toml"

/-- The section of the shared file that holds the settings. -/
def sharedSection : String := "tool.c4dsl"

/-- The file that holds nothing but settings. -/
def own : String := "c4dsl.toml"

/-- The table that a file holds. -/
def table (tree : FileTree) (path : Path) : Logged SettingsError Table := do
  match tree.readText path with
  | .ok text =>
      match Toml.read text with
      | .ok table => return table
      | .error (.clash clash) => throw (.clash clash)
      | .error .malformed =>
          log error ("Error decoding TOML from " ++ path.text ++ ": " ++ malformedText)
          return []
  | .error (.file fault) =>
      log error ("Error loading TOML from " ++ path.text ++ ": " ++ fault.message path)
      return []
  | .error .notUtf8 => throw .notUtf8

/-- The table of settings in what a file holds; a shared file may have none. -/
def settingsTable? (path : Path) (table : Table) : Option Table :=
  if path.name = shared then (table.section? sharedSection).filter fun inner => !inner.isEmpty
  else some table

/-- The files with settings in the directory of an anchor, which may be a file in it. Those that come
later take precedence. -/
def discover (tree : FileTree) (anchor : Path) : List Path :=
  let resolved := tree.resolve anchor
  let directory :=
    if tree.isFile resolved then { resolved with steps := resolved.steps.dropLast } else resolved
  [directory.child shared, directory.child own].filter tree.isFile

end SettingsFile

namespace SettingsDraft

/-- The draft that a table describes; what it warns of is logged too. -/
def logOfTable (data : Table) (file : Option String) : Logged SettingsError SettingsDraft := do
  logAll ((warningsOf data file).map fun diagnostic => ⟨warning, diagnostic.message⟩)
  match ofTable data file with
  | .ok draft => return draft
  | .error fault => throw (.numeral fault)

/-- The draft that a file describes, if it holds settings. -/
def ofFile (tree : FileTree) (path : Path) : Logged SettingsError (Option SettingsDraft) := do
  match SettingsFile.settingsTable? path (← SettingsFile.table tree path) with
  | some table => return some (← logOfTable table (some path.text))
  | none => return none

/-- Puts the settings of a file on top of a draft. -/
def mergeFile (tree : FileTree) (draft : SettingsDraft) (path : Path) :
    Logged SettingsError SettingsDraft := do
  match ← ofFile tree path with
  | some layer => return draft.mergeWith layer
  | none => return draft

/-- Puts the settings of files on top of a draft, one after another. -/
def mergeFiles (tree : FileTree) (draft : SettingsDraft) (paths : List Path) :
    Logged SettingsError SettingsDraft :=
  paths.foldlM (mergeFile tree) draft

/-- The defaults with the files that are found, unless there is no anchor, and then the further files
on top. -/
def ofFiles (tree : FileTree) (anchor : Option Path) (further : List Path) :
    Logged SettingsError SettingsDraft :=
  let found := (anchor.map (SettingsFile.discover tree)).getD []
  mergeFiles tree defaults (found ++ further)

end SettingsDraft

end C4Model
