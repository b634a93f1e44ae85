import HelpFile.CommandLine.Arguments
import HelpFile.CommandLine.Usage
import HelpFile.Convert
import HelpFile.Settings.Discovery

/-!
# Outcomes

A run of the program on a command line, a file tree and standard input: what it prints, how it
exits, and the tree it leaves behind. A run that fails leaves no output.
-/
namespace HelpFile.CommandLine

inductive Failure where
  | config (cause : ConfigError)
  | width (cause : WidthError)
  | file (cause : FileError)
  | malformed (cause : Text.Malformed)
  | list (cause : ListError)
  | outputHasNoName (path : Path)
  | outputIsDirectory (path : Path)

namespace Failure

def message : Failure → String
  | config cause => cause.message
  | width cause => cause.message
  | file cause => cause.message
  | malformed cause => cause.message
  | list cause => cause.message
  | outputHasNoName path => s!"PosixPath({Text.quoted path.toText}) has an empty name"
  | outputIsDirectory path => s!"Destination is a directory: {String.ofList path.toText}"

def exitCode : Failure → Nat
  | width _ | malformed _ | outputHasNoName _ => 1
  | config (.type _) | config (.malformed _) => 1
  | file .nullCharacter => 1
  | config _ | file _ | list _ | outputIsDirectory _ => 2

end Failure

structure Outcome where
  exitCode : Nat
  stdout : Text := []
  /-- The lines on standard error. -/
  stderr : List String := []
  tree : FileTree

structure Surroundings where
  tree : FileTree
  working : Location
  stdin : List UInt8

def readInput (s : Surroundings) (input : Text) : Except Failure Text := do
  let octets ←
    if input = ['-'] then pure s.stdin
    else (s.tree.read s.working (Path.ofText input)).mapError .file
  return Text.unifyLineEnds (← (Text.decode octets).mapError .malformed)

def writeFile (s : Surroundings) (path : Path) (text : Text) : Except Failure FileTree := do
  if path.name.isEmpty then .error (.outputHasNoName path)
  else if path.names.any (·.contains '\x00') then .error (.file .nullCharacter)
  else
    let start := if path.isAbsolute then [] else s.working
    let made ← (s.tree.makeDirectories path.parent start path.parent.names).mapError .file
    let target := FileTree.locate s.working path
    if made.isDirectory target then .error (.outputIsDirectory path)
    else return made.put target (.file (Text.encode text))

def deliver (s : Surroundings) (output text : Text) : Except Failure (Text × FileTree) :=
  if output = ['-'] then .ok (text, s.tree)
  else (writeFile s (Path.ofText output) text).map fun tree => ([], tree)

def noticeLine (n : Notice) : String := s!"Warning: {n.message}"

def convertFile (s : Surroundings) (a : Arguments) (input : Text) :
    List String × Except Failure (Text × FileTree) :=
  match a.request.check with
  | .error e => ([], .error (.width e))
  | .ok options =>
    match readInput s input with
    | .error e => ([], .error e)
    | .ok source =>
      match convert options source with
      | .error e => ([], .error (.list e))
      | .ok c => (c.notices.map noticeLine, deliver s a.output c.text)

def configureAndConvert (s : Surroundings) (a : Arguments) (explicit : List Setting)
    (input : Text) : List String × Except Failure (Text × FileTree) :=
  let (warnings, found) := Config.discover s.tree s.working
  let lines := warnings.map ConfigWarning.message
  match found with
  | .error e => (lines, .error (.config e))
  | .ok config =>
    let settings := (config.map Prod.snd).getD {}
    let (more, result) := convertFile s (a.merge explicit settings) input
    (lines ++ more, result)

def missingInput : String :=
  "Error: No input specified. Provide a Markdown file or '-' for stdin." ++
    " Use --help for more options."

def printed (lines : List String) : Text := lines.flatMap fun l => l.toList ++ ['\n']

def interrupted (tree : FileTree) : Interruption → Outcome
  | .help => { exitCode := 0, stdout := printed usageLines, tree }
  | .fault e => { exitCode := 2, stderr := [s!"{programName}: error: {e.message}"], tree }

def run (s : Surroundings) (arguments : List Text) : Outcome :=
  match Arguments.parse arguments with
  | .error i => interrupted s.tree i
  | .ok (a, explicit) =>
    if a.version then { exitCode := 0, stdout := printed [versionText], tree := s.tree }
    else
      match a.input.filter (!·.isEmpty) with
      | none => { exitCode := 1, stderr := [missingInput], tree := s.tree }
      | some input =>
        match configureAndConvert s a explicit input with
        | (lines, .ok (stdout, tree)) => { exitCode := 0, stdout, stderr := lines, tree }
        | (lines, .error e) =>
          { exitCode := e.exitCode, stderr := lines ++ [s!"Error: {e.message}"], tree := s.tree }

end HelpFile.CommandLine
