import C4Model.Files.Path
import C4Model.Text.Quoted

/-! The files that the program can see, all in one tree. Every path leads from the root or from the working
directory to a place in it. -/

namespace C4Model.Files

inductive Node where
  | file (content : ByteArray)
  | directory

/-- Whether a file has the same content as what was at its place before. -/
def Node.holdsSame (before : Option Node) (content : ByteArray) : Bool :=
  match before with
  | some (.file old) => old.data == content.data
  | _ => false

/-- Why a file cannot be opened. -/
inductive FileError where
  | notFound
  | notADirectory
  | isADirectory
  deriving DecidableEq

def FileError.number : FileError → Nat
  | .notFound => 2
  | .notADirectory => 20
  | .isADirectory => 21

def FileError.reason : FileError → String
  | .notFound => "No such file or directory"
  | .notADirectory => "Not a directory"
  | .isADirectory => "Is a directory"

def FileError.message (path : Path) (error : FileError) : String :=
  "[Errno " ++ toString error.number ++ "] " ++ error.reason ++ ": " ++ Text.quoted path.text

/-- The working directory, and the files and empty directories by their steps from the root. The room is the
number of bytes that a file can be given, if the device sets a bound. -/
structure FileTree where
  home : Path
  nodes : List (List String × Node) := []
  room : Option Nat := none

namespace FileTree

/-- What is at a place. Whatever holds a file or the working directory is a directory. -/
def node? (tree : FileTree) (place : List String) : Option Node :=
  match tree.nodes.lookup place with
  | some node => some node
  | none =>
      if place.isPrefixOf tree.home.steps || tree.nodes.any fun entry => place.isPrefixOf entry.1 then
        some .directory
      else none

/-- Takes steps from a place. Every step is taken from a directory, and from the root no step leads
upwards. -/
def walk (tree : FileTree) (place : List String) (node : Node) : List String →
    Except FileError (List String × Node)
  | [] => .ok (place, node)
  | step :: rest =>
      match node with
      | .file _ => .error .notADirectory
      | .directory =>
          if step = upStep then tree.walk place.dropLast .directory rest
          else
            match tree.node? (place ++ [step]) with
            | some node => tree.walk (place ++ [step]) node rest
            | none => .error .notFound

/-- The place where walks along a path begin. -/
def startOf (tree : FileTree) (path : Path) : List String :=
  if path.root = 0 then tree.home.steps else []

/-- The place that a path leads to, and what is there. -/
def find (tree : FileTree) (path : Path) : Except FileError (List String × Node) :=
  tree.walk (tree.startOf path) .directory path.steps

/-- What a text leads to if it is taken as it is: an empty text is no path, and one that ends with an
idle step asks for a directory. -/
def findText (tree : FileTree) (text : String) : Except FileError Node := do
  if text.isEmpty then throw .notFound
  let (_, node) ← tree.find (Path.ofText text)
  match node with
  | .directory => return .directory
  | .file content =>
      if (Text.splitOnChar separator text).getLast?.all isIdle then throw .notADirectory
      else return .file content

def holds (tree : FileTree) (path : Path) : Bool :=
  (tree.find path).isOk

def isFile (tree : FileTree) (path : Path) : Bool :=
  match tree.find path with
  | .ok (_, .file _) => true
  | _ => false

def read (tree : FileTree) (path : Path) : Except FileError ByteArray :=
  match tree.find path with
  | .ok (_, .file content) => .ok content
  | .ok (_, .directory) => .error .isADirectory
  | .error error => .error error

/-- Puts a file at a place, instead of the one that is there. -/
def put (tree : FileTree) (place : List String) (content : ByteArray) : FileTree :=
  { tree with nodes := (place, .file content) :: tree.nodes.filter fun entry => entry.1 ≠ place }

theorem node?_put (tree : FileTree) (place : List String) (content : ByteArray) :
    (tree.put place content).node? place = some (.file content) := by
  simp [put, node?]

/-- The place of a file that is to be written: that of the file there, or a new one in a directory that is
there. -/
def placeToWrite (tree : FileTree) (path : Path) : Except FileError (List String) :=
  match tree.find path with
  | .ok (_, .directory) => .error .isADirectory
  | .ok (place, .file _) => .ok place
  | .error .notFound =>
      match tree.find { path with steps := path.steps.dropLast } with
      | .ok (place, .directory) => .ok (place ++ [path.name])
      | .ok (_, .file _) => .error .notADirectory
      | .error error => .error error
  | .error error => .error error

/-- How much of a content there is room for. -/
def fitting (tree : FileTree) (content : ByteArray) : Nat :=
  tree.room.elim content.size (min content.size)

/-- The path from the root to what a path names. Steps upwards are taken as if each undid the step
before it. -/
def resolve (tree : FileTree) (path : Path) : Path :=
  let base := if path.root = 0 then tree.home else { path with steps := [] }
  path.steps.foldl (fun reached step =>
    if step = upStep then { reached with steps := reached.steps.dropLast } else reached.child step)
    base

end FileTree

end C4Model.Files
