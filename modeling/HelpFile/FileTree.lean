import HelpFile.Path
import HelpFile.Text.Utf8

/-!
# File trees

Directories and files by their absolute locations, without links. A directory exists if it is listed
or something lies below it; the root always exists. Paths are followed name by name from a working
directory.
-/
namespace HelpFile

abbrev Location := List Text

inductive Entry where
  | file (octets : List UInt8)
  | directory

structure FileTree where
  entries : List (Location × Entry)

inductive FileError where
  | missing (path : Path)
  | occupied (path : Path)
  | notDirectory (path : Path)
  | isDirectory (path : Path)
  | nullCharacter
  deriving DecidableEq

def FileError.message : FileError → String
  | missing path => numbered 2 "No such file or directory" path
  | occupied path => numbered 17 "File exists" path
  | notDirectory path => numbered 20 "Not a directory" path
  | isDirectory path => numbered 21 "Is a directory" path
  | nullCharacter => "embedded null byte"
where
  numbered (code : Nat) (text : String) (path : Path) : String :=
    s!"[Errno {code}] {text}: {Text.quoted path.toText}"

namespace FileTree

def file? (t : FileTree) (l : Location) : Option (List UInt8) :=
  match t.entries.lookup l with
  | some (.file octets) => some octets
  | _ => none

def isFile (t : FileTree) (l : Location) : Bool := (t.file? l).isSome

def isDirectory (t : FileTree) (l : Location) : Bool :=
  l.isEmpty || t.entries.any fun e =>
    match e with
    | (m, .directory) => l.isPrefixOf m
    | (m, .file _) => l.isPrefixOf m && l != m

def enter (l : Location) (name : Text) : Location :=
  if name = ['.', '.'] then l.dropLast else l ++ [name]

def locate (working : Location) (path : Path) : Location :=
  path.names.foldl enter (if path.isAbsolute then [] else working)

def follow (t : FileTree) (path : Path) (l : Location) : List Text → Except FileError Location
  | [] => .ok l
  | name :: rest =>
    if t.isDirectory l then t.follow path (enter l name) rest
    else if t.isFile l then .error (.notDirectory path)
    else .error (.missing path)

def resolve (t : FileTree) (working : Location) (path : Path) : Except FileError Location :=
  if path.names.any (·.any (· == '\x00')) then .error .nullCharacter
  else t.follow path (if path.isAbsolute then [] else working) path.names

def read (t : FileTree) (working : Location) (path : Path) : Except FileError (List UInt8) := do
  let l ← t.resolve working path
  if t.isDirectory l then .error (.isDirectory path)
  else match t.file? l with
    | some octets => .ok octets
    | none => .error (.missing path)

def put (t : FileTree) (l : Location) (e : Entry) : FileTree where
  entries := (t.entries.filter (·.1 != l)) ++ [(l, e)]

def makeDirectories (t : FileTree) (path : Path) (l : Location) :
    List Text → Except FileError FileTree
  | [] => .ok t
  | name :: rest =>
    let next := enter l name
    if t.isDirectory next then t.makeDirectories path next rest
    else if t.isFile next then
      .error (if rest.isEmpty then .occupied path else .notDirectory path)
    else (t.put next .directory).makeDirectories path next rest

end FileTree
end HelpFile
