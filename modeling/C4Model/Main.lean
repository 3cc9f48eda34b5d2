import C4Model.CommandLine.Run

/-! The program. It looks at the files that its words may name, runs the call on them, and then writes
what the call has written. -/

namespace C4Model.Program

open Files

/-- What is at a path, or nothing. -/
def nodeAt? (path : String) : IO (Option Node) := do
  try
    return some (.file (← IO.FS.readBinFile path))
  catch
    | .inappropriateType .. => return some .directory
    | _ => return none

/-- The paths that a word may name: the whole of it, what follows an equals sign, and what follows a
letter after a hyphen. -/
def mentioned (word : String) : List String :=
  let pieces := Text.splitOnChar '=' word
  [word, String.intercalate "=" (pieces.drop 1), (word.drop 2).toString]

/-- The paths that a call may look at, with those on the way to them. -/
def candidates (words : List String) : List Path :=
  let paths := (SettingsFile.shared :: SettingsFile.own :: words.flatMap mentioned).map Path.ofText
  paths.flatMap fun path =>
    (List.range (path.steps.length + 1)).map fun count =>
      { path with steps := path.steps.take count }

/-- What is at the candidates of a call. -/
def seenFiles (home : Path) (words : List String) : IO FileTree := do
  let mut tree : FileTree := { home }
  for path in candidates words do
    if let some node ← nodeAt? path.text then
      let place := (tree.resolve path).steps
      tree := { tree with nodes := (place, node) :: tree.nodes }
  return tree

/-- Writes the files that have changed. -/
def writeChanges (before after : FileTree) : IO Unit := do
  for (place, node) in after.nodes do
    if let .file content := node then
      if !Node.holdsSame (before.nodes.lookup place) content then
        IO.FS.writeBinFile (Path.text { root := 1, steps := place }) content

/-- The variables of some names, as far as they are set. -/
def environmentOf (names : List String) : IO CommandLine.Environment :=
  names.filterMapM fun name => do
    return (← IO.getEnv name).map (name, ·)

/-- Runs the program on the words of a command line and gives the status it ends with. -/
def run (words : List String) : IO UInt32 := do
  let home := Path.ofText ((← IO.getEnv "PWD").getD "/")
  let files ← seenFiles home words
  let environment ← environmentOf
    [CommandLine.Variable.forceColor, CommandLine.Variable.noColor, CommandLine.Variable.logLevel]
  let output ← IO.getStdout
  let surroundings : CommandLine.Surroundings := { files, environment, terminal := ← output.isTty }
  let outcome := CommandLine.run surroundings words
  writeChanges files outcome.files
  output.putStr outcome.output
  (← IO.getStderr).putStr outcome.errors
  if let some error := outcome.unhandled then
    (← IO.getStderr).putStrLn (error.message surroundings.surrogates)
  return outcome.status.toUInt32

end C4Model.Program

def main (words : List String) : IO UInt32 :=
  C4Model.Program.run words
