import OutlineLint.Session
import Std.Time.Format

/-!
# The program

The entries that a run may look at are read from the file system, the run is
computed, and what it says and what it changes is carried out.
-/

namespace OutlineLint.Snapshot

/--
The routes passed on the way to a route, the root and the
route itself among them.
-/
def ancestors (route : Route) : List Route :=
  (List.range (route.length + 1)).map route.take

/-- The routes passed while a path is followed from a directory. -/
def passed (directory : Route) (path : Bytes) : List Route :=
  let start := if path.head? = some Ascii.slash then [] else directory
  (path.splitOn Ascii.slash).foldl
    (fun routes component =>
      routes ++ [Route.step (routes.getLastD start) component])
    [start]

/--
The routes that a run with the given command line may look at: those on the way
to each file, and on the way to the report, going up and down as its path says.
-/
def routes (directory : Route) (words : List Bytes) : List Route :=
  match Request.ofWords words with
  | .lint options =>
      (ancestors directory
        ++ options.files.flatMap
            (fun word => ancestors (Route.resolve directory word))
        ++ options.report.toList.flatMap (passed directory)).eraseDups
  | _ => []

end OutlineLint.Snapshot

namespace OutlineLint.Program

/-- The entry of the file system at a route, if it exists. -/
def readNode (route : Route) : IO (Option Node) := do
  let place := (← IO.currentDir) / String.ofList route.shown
  if ← place.isDir then
    return some .directory
  else if ← place.pathExists then
    return some (.file (← IO.FS.readBinFile place).toList)
  else
    return none

/-- The session in which a command line is run. -/
def readSession (words : List Bytes) : IO Session := do
  let place := (← IO.currentDir).toString.toList
  let directory := Route.resolve [] (Utf8.encode place)
  let mut tree := FileTree.empty
  for route in Snapshot.routes directory words do
    if let some node ← readNode route then
      if !route.isEmpty then
        tree := tree.put route node
  return ⟨tree, directory, false, true⟩

/-- Makes a changed entry in the file system. -/
def writeNode (change : Route × Node) : IO Unit := do
  let place := (← IO.currentDir) / String.ofList change.1.shown
  match change.2 with
  | .directory => IO.FS.createDirAll place
  | .file contents => IO.FS.writeBinFile place ⟨contents.toArray⟩

def clock : IO Text := do
  return ((← Std.Time.PlainTime.now).format "HH:mm:ss").toList

/-- Carries out a run and gives its exit code. -/
def carryOut (session : Session) (run : Run) : IO UInt32 := do
  let output ← IO.getStdout
  let errorOutput ← IO.getStderr
  for utterance in run.utterances do
    output.putStr (String.ofList utterance.onOutput)
    errorOutput.putStr (String.ofList (utterance.onError (← clock)))
  for change in session.tree.changes run.session.tree do
    writeNode change
  match run.ending with
  | .exit code => return code.toUInt32
  | .broken fault =>
      errorOutput.putStrLn (String.ofList fault.message)
      return 1

def start (arguments : List String) : IO UInt32 := do
  let words := arguments.map fun argument => Utf8.encode argument.toList
  let session ← readSession words
  carryOut session (session.run words)

end OutlineLint.Program

/-- Lints the files named on the command line. -/
def main (arguments : List String) : IO UInt32 :=
  OutlineLint.Program.start arguments
