import C4Model.Files.Tree
import C4Model.Text.Surrogate

/-! Files as texts. A text is stored in UTF-8. However a file ends its lines, the text that is read ends
them by line feeds. A file that is written is opened first, which empties it, and then filled; what goes wrong
after that leaves a part of the text in it. -/

namespace C4Model.Files

/-- Why no text can be read from a file. -/
inductive ReadError where
  | file (error : FileError)
  | notUtf8
  deriving DecidableEq

/-- A carriage return ends a line, alone or with the line feed after it. -/
def unifyLineEnds : List Char → List Char
  | '\r' :: '\n' :: rest => '\n' :: unifyLineEnds rest
  | '\r' :: rest => '\n' :: unifyLineEnds rest
  | c :: rest => c :: unifyLineEnds rest
  | [] => []

def decode? (content : ByteArray) : Option String :=
  (String.fromUTF8? content).map fun text => String.ofList (unifyLineEnds text.toList)

def FileTree.readText (tree : FileTree) (path : Path) : Except ReadError String := do
  let content ← (tree.read path).mapError .file
  match decode? content with
  | some text => return text
  | none => throw .notUtf8

/-- Why no text, or not all of it, is written to a file. -/
inductive WriteError where
  /-- The file is not opened. -/
  | file (error : FileError)
  | notEncodable (error : EncodeError)
  | noSpace

/-- What is said of a device without room. -/
def noSpaceText : String := "[Errno 28] No space left on device"

/-- Writes a text to a file, and tells what the files are then. -/
def FileTree.writeText (tree : FileTree) (surrogates : Surrogates) (path : Path) (text : String) :
    Except WriteError Unit × FileTree :=
  match tree.placeToWrite path with
  | .error error => (.error (.file error), tree)
  | .ok place =>
      match surrogates.encode text with
      | .error error => (.error (.notEncodable error), tree.put place .empty)
      | .ok content =>
          let kept := tree.fitting content
          let result := if kept < content.size then .error .noSpace else .ok ()
          (result, tree.put place (content.extract 0 kept))

end C4Model.Files
