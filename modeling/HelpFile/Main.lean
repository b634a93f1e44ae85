import HelpFile.CommandLine.Outcome

/-!
# The command

Gathers what a run may look at into a file tree, runs, and carries out what the run has changed.
-/
namespace HelpFile.CommandLine

def absoluteText (l : Location) : String :=
  String.ofList (Path.toText { root := ['/'], names := l })

def entryAt (l : Location) : IO (List (Location × Entry)) := do
  try return [(l, .file (← IO.FS.readBinFile (absoluteText l)).toList)]
  catch
    | .inappropriateType _ 21 _ => return [(l, .directory)]
    | _ => return []

def locationsOf (working : Location) (path : Path) : List Location :=
  (List.range (path.names.length + 1)).map fun n =>
    FileTree.locate working { path with names := path.names.take n }

def pathsIn : Except Interruption (Arguments × List Setting) → List Path
  | .ok (a, _) => (a.input.toList ++ [a.output]).map Path.ofText
  | .error _ => []

def readsStdin : Except Interruption (Arguments × List Setting) → Bool
  | .ok (a, _) => a.input == some ['-']
  | .error _ => false

partial def readAll (stream : IO.FS.Stream) (sofar : ByteArray) : IO ByteArray := do
  let chunk ← stream.read 65536
  if chunk.isEmpty then return sofar else readAll stream (sofar ++ chunk)

def observe (arguments : List Text) : IO Surroundings := do
  let parsed := Arguments.parse arguments
  let working := (Path.ofText (← IO.currentDir).toString.toList).names
  let locations := working :: Config.candidates working ++
    (pathsIn parsed).flatMap (locationsOf working)
  let entries ← locations.eraseDups.mapM entryAt
  let stdin ← if readsStdin parsed then readAll (← IO.getStdin) .empty else pure .empty
  return { tree := ⟨entries.flatten⟩, working, stdin := stdin.toList }

def carryOut (before : FileTree) : Location × Entry → IO Unit
  | (l, .directory) => IO.FS.createDirAll (absoluteText l)
  | (l, .file octets) =>
    if before.file? l = some octets then pure ()
    else IO.FS.writeBinFile (absoluteText l) ⟨octets.toArray⟩

/-- A fault of the system that the tree does not foresee is reported like any other failure. -/
def execute (arguments : List String) : IO UInt32 := do
  let texts := arguments.map String.toList
  try
    let s ← observe texts
    let o := run s texts
    o.stderr.forM fun line => IO.eprintln line
    o.tree.entries.forM (carryOut s.tree)
    IO.print (String.ofList o.stdout)
    return o.exitCode.toUInt32
  catch e =>
    IO.eprintln s!"Error: {e}"
    return 2

end HelpFile.CommandLine

def main (arguments : List String) : IO UInt32 := HelpFile.CommandLine.execute arguments
