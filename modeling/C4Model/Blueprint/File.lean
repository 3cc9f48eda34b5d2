import C4Model.Blueprint.Load
import C4Model.Files.Text
import C4Model.Text.LowerCase

/-! Blueprints in files. The name of a file tells its format. -/

namespace C4Model.Blueprint

open Files

/-- Why a file describes no workspace. -/
inductive FileLoadError where
  | file (error : FileError)
  | load (error : LoadError)

def formatOf (path : Path) : Format :=
  if Text.lower path.suffix == ".json" then .json else .toml

/-- The workspace that the blueprint in a file describes. -/
def loadFile (surrogates : Surrogates) (settings : Settings) (tree : FileTree) (path : Path) :
    Except FileLoadError Workspace :=
  match tree.readText path with
  | .ok text => (loadText surrogates settings (formatOf path) text).mapError .load
  | .error (.file error) => .error (.file error)
  | .error .notUtf8 => .error (.load (.shape .notUtf8))

end C4Model.Blueprint
