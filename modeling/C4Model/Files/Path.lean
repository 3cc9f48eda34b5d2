import C4Model.Text.Lines

/-! Paths of files. A path is a row of steps from the working directory or from a root. Steps that lead
nowhere are left out when a path is read; a step upwards stays, because where it leads depends on
the files. -/

namespace C4Model.Files

structure Path where
  /-- The slashes before the first step: none, one, or two, which name a root of its own. -/
  root : Nat := 0
  steps : List String := []
  deriving DecidableEq

def separator : Char := '/'

/-- The step that leads nowhere. -/
def hereStep : String := "."

/-- The step that leads upwards. -/
def upStep : String := ".."

/-- Whether a step leads nowhere. -/
def isIdle (step : String) : Bool :=
  step.isEmpty || step == hereStep

namespace Path

/-- The root that a text with so many leading slashes names. -/
def rootOf (slashes : Nat) : Nat :=
  if 2 < slashes then 1 else slashes

def ofText (text : String) : Path where
  root := rootOf (text.toList.takeWhile (· = separator)).length
  steps := (Text.splitOnChar separator text).filter fun step => !isIdle step

def text (path : Path) : String :=
  let written := String.ofList (List.replicate path.root separator)
    ++ String.intercalate (String.singleton separator) path.steps
  if written.isEmpty then hereStep else written

/-- The last step. -/
def name (path : Path) : String :=
  path.steps.getLast?.getD ""

/-- The ending of the name from its last point on, unless the point stands first or last. -/
def suffix (path : Path) : String :=
  let ending := path.name.toList.reverse.takeWhile (· ≠ '.')
  let start := path.name.length - ending.length - 1
  if 0 < start ∧ !ending.isEmpty ∧ ending.length < path.name.length then
    String.ofList ('.' :: ending.reverse)
  else ""

def child (path : Path) (name : String) : Path :=
  { path with steps := path.steps ++ [name] }

end Path

end C4Model.Files
