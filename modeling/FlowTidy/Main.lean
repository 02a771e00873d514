import FlowTidy.Command.Run
import FlowTidy.Files.Collect

/-!
The program. It loads the files that its arguments name, runs on them, and stores those that
changed.
-/

namespace FlowTidy

/-- The path of a place, from the root of all files. -/
def placePath (place : List Text) : String :=
  String.ofList ('/' :: Text.joined ['/'] place)

def isDirectory (place : List Text) : IO Bool := do
  try (← IO.FS.realPath (placePath place)).isDir catch _ => return false

/-- Loads a file, or a directory with all that is below it. Of the files that are found in a
directory only documents are loaded. -/
partial def loadTree (found : Bool) (place : List Text) : IO (Option Tree) := do
  if ← isDirectory place then
    let mut entries := []
    for entry in ← (← IO.FS.realPath (placePath place)).readDir do
      let name := entry.fileName.toList
      if let some tree ← loadTree true (place ++ [name]) then
        entries := (name, tree) :: entries
    return some (.dir entries)
  else if found && !Path.isMarkdown (placePath place).toList then
    return none
  else
    try
      let bytes ← IO.FS.readBinFile (placePath place)
      match String.fromUTF8? bytes with
      | some text => return some (.file (.text text.toList))
      | none => return some (.file (.binary bytes.toList))
    catch _ => return none

/-- Loads what is at a place. -/
def loadPlace (root : Tree) (place : List Text) : IO Tree := do
  match ← loadTree false place with
  | some tree => return Tree.put tree place root
  | none => return root

/-- Loads what is at the end of a path, and the directories on the way to it. -/
def loadPath (root : Tree) (place : List Text) : List Text → IO Tree
  | [] => loadPlace root place
  | segment :: segments => do
    if ← isDirectory place then
      let next :=
        if segment = ['.'] then place
        else if segment = ['.', '.'] then place.dropLast
        else place ++ [segment]
      loadPath (root.ensure place) next segments
    else loadPlace root place

/-- Loads the files that some paths name. -/
def loadFiles (workingDir : List Text) (paths : List Text) : IO Files := do
  let mut root := Tree.ensure workingDir (.dir [])
  for path in paths do
    let start := if Path.isAbsolute path then [] else workingDir
    root ← loadPath root start (Path.segments path)
  return { root, workingDir }

/-- Stores the files that changed. -/
def storeFiles (earlier later : Files) : IO Unit := do
  for (place, content) in earlier.changes later do
    if let .text text := content then
      IO.FS.writeFile (placePath place) (String.ofList text)

/-- Reads a stream to its end. -/
partial def readAll (stream : IO.FS.Stream) (bytes : ByteArray) : IO ByteArray := do
  let more ← stream.read 65536
  if more.isEmpty then return bytes else readAll stream (bytes ++ more)

def environment : IO Environment := do
  let value (name : String) : IO (Option Text) := do
    return (← IO.getEnv name).map String.toList
  return {
    logFormat := ← value Environment.logFormatVariable
    noColor := ← value Environment.noColorVariable
    terminal := ← (← IO.getStdout).isTty }

/-- The outcome of the program, whose files are stored. Arguments that lead to no command name no
files. -/
def runStored (args : List Text) : IO Outcome := do
  let workingDir := Path.segments (← IO.currentDir).toString.toList
  let invocation? := (Invocation.parse args).toOption
  let files ← loadFiles workingDir (invocation?.elim [] Invocation.paths)
  let stdin ← if invocation?.any Invocation.readsInput then
      pure (String.fromUTF8? (← readAll (← IO.getStdin) .empty))
    else pure none
  let outcome := runProgram (← environment) files (stdin.map String.toList) args
  storeFiles files outcome.files
  return outcome

end FlowTidy

def main (args : List String) : IO UInt32 := do
  let outcome ← FlowTidy.runStored (args.map String.toList)
  (← IO.getStdout).putStr (String.ofList outcome.out)
  (← IO.getStderr).putStr (String.ofList outcome.err)
  return outcome.status.toUInt32
