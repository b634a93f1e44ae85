import HelpFile.FileTree
import HelpFile.Settings
import HelpFile.Toml.Reader

/-!
# Finding and loading configurations

A configuration is looked for in a directory and then in its parents, under three names in each. A
project file counts only if it has a section of this program. A file that is not valid TOML is
reported and counts as empty, but one that is not valid text, or has something else where tables
should be, is an error.
-/
namespace HelpFile

inductive ConfigError where
  | malformed (cause : Text.Malformed)
  /-- `tool` is a value in which no section can be looked up. -/
  | toolNotSearchable (tool : Toml.Value)
  | toolNotTable (tool : Toml.Value)
  | sectionNotTable (value : Toml.Value)
  | type (cause : SettingTypeError)

def ConfigError.message : ConfigError → String
  | malformed cause => cause.message
  | toolNotSearchable tool => s!"argument of type '{tool.typeName}' is not iterable"
  | toolNotTable tool => s!"'{tool.typeName}' object has no attribute 'get'"
  | sectionNotTable value => s!"'{value.typeName}' object has no attribute 'items'"
  | type cause => cause.message

inductive ConfigWarning where
  | invalid (file : Location)
  | unknownKey (key : Text)

def ConfigWarning.message : ConfigWarning → String
  | invalid file =>
    let path : Path := { root := ['/'], names := file }
    "Warning: ignoring invalid config file " ++ String.ofList path.toText
  | unknownKey key => s!"Warning: unrecognized config key \x60{String.ofList key}\x60"

namespace Config

def projectFile : Text := "pyproject.toml".toList

def toolKey : Text := "tool".toList

def sectionKey : Text := "md2vim".toList

def fileNames : List Text := [".md2vim.toml".toList, "md2vim.toml".toList, projectFile]

def isString (t : Text) : Toml.Value → Bool
  | .string u => t == u
  | _ => false

/-- Whether the section can be found in what a project file has for `tool`. In a string it is looked
for as a part, in an array as an element. -/
def hasSection (tool : Toml.Value) : Except ConfigError Bool :=
  match tool with
  | .table entries => .ok (Toml.Table.get? entries sectionKey).isSome
  | .string t => .ok (Text.hasPart sectionKey t)
  | .array values => .ok (values.any (isString sectionKey))
  | _ => .error (.toolNotSearchable tool)

def textOf (octets : List UInt8) : Except ConfigError Text :=
  match Text.decode octets with
  | .ok t => .ok (Text.unifyLineEnds t)
  | .error m => .error (.malformed m)

def isProjectConfig (octets : List UInt8) : Except ConfigError Bool := do
  match Toml.read? (← textOf octets) with
  | none => return false
  | some t => hasSection ((Toml.Table.get? t toolKey).getD (.table []))

def isUsable (tree : FileTree) (file : Location) : Except ConfigError Bool :=
  match tree.file? file with
  | none => .ok false
  | some octets =>
    if file.getLast? = some projectFile then isProjectConfig octets else .ok true

def findAmong (tree : FileTree) : List Location → Except ConfigError (Option Location)
  | [] => .ok none
  | file :: rest => do
    if ← isUsable tree file then return some file else findAmong tree rest

def upward (directory : Location) : List Location :=
  (List.range (directory.length + 1)).map fun n => directory.take (directory.length - n)

def candidates (directory : Location) : List Location :=
  (upward directory).flatMap fun d => fileNames.map fun name => d ++ [name]

def find (tree : FileTree) (directory : Location) : Except ConfigError (Option Location) :=
  findAmong tree (candidates directory)

def settingsTable (isProject : Bool) (t : Toml.Table) : Except ConfigError Toml.Table :=
  if !isProject then .ok t
  else
    match (Toml.Table.get? t toolKey).getD (.table []) with
    | .table tools =>
      match (Toml.Table.get? tools sectionKey).getD (.table []) with
      | .table entries => .ok entries
      | value => .error (.sectionNotTable value)
    | tool => .error (.toolNotTable tool)

def load (file : Location) (octets : List UInt8) :
    List ConfigWarning × Except ConfigError Settings :=
  match textOf octets with
  | .error e => ([], .error e)
  | .ok text =>
    match Toml.read? text with
    | none => ([.invalid file], .ok {})
    | some t =>
      match settingsTable (file.getLast? == some projectFile) t with
      | .error e => ([], .error e)
      | .ok entries =>
        let (unknown, settings) := Settings.ofTable entries
        (unknown.map .unknownKey, settings.mapError .type)

def discover (tree : FileTree) (directory : Location) :
    List ConfigWarning × Except ConfigError (Option (Location × Settings)) :=
  match find tree directory with
  | .error e => ([], .error e)
  | .ok none => ([], .ok none)
  | .ok (some file) =>
    let (warnings, settings) := load file ((tree.file? file).getD [])
    (warnings, settings.map fun s => some (file, s))

end Config
end HelpFile
