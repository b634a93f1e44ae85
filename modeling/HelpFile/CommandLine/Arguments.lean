import HelpFile.CommandLine.Reading
import HelpFile.Options
import HelpFile.Settings

/-!
# Arguments

What a command line asks for. Settings given on it win over those of a configuration, which win over
the defaults; to tell a default from the same value given, a second reading looks for the settings
alone.
-/
namespace HelpFile.CommandLine

structure Arguments where
  /-- A dash stands for standard input. -/
  input : Option Text := none
  /-- A dash stands for standard output. -/
  output : Text := ['-']
  name : Option Text := none
  cols : Int := 80
  tabs : Int := 4
  notoc : Bool := false
  norules : Bool := false
  pascal : Bool := false
  desc : Text := []
  version : Bool := false
  deriving DecidableEq

def Given.setting? : Given → Option Setting
  | cols _ => some .cols
  | tabs _ => some .tabs
  | notoc => some .notoc
  | norules => some .norules
  | pascal => some .pascal
  | desc _ => some .desc
  | name _ | version => none

namespace Arguments

def apply (a : Arguments) : Given → Arguments
  | .name text => { a with name := some text }
  | .cols n => { a with cols := n }
  | .tabs n => { a with tabs := n }
  | .notoc => { a with notoc := true }
  | .norules => { a with norules := true }
  | .pascal => { a with pascal := true }
  | .desc text => { a with desc := text }
  | .version => { a with version := true }

def ofReading (r : Reading) : Arguments :=
  let start : Arguments :=
    match r.positionals with
    | [input, output] => { input, output := output.getD ['-'] }
    | _ => {}
  r.options.foldl apply start

def explicitIn (r : Reading) : List Setting :=
  Setting.all.filter fun s => r.options.any fun o => o.setting? == some s

def parse (arguments : List Text) : Except Interruption (Arguments × List Setting) := do
  let r ← Grammar.full.read arguments
  if !r.leftover.isEmpty then .error (.fault (.unrecognized r.leftover))
  else
    let given ← Grammar.settings.read arguments
    return (ofReading r, explicitIn given)

/-- Takes over the settings of a configuration, but for those in `explicit`. -/
def merge (a : Arguments) (explicit : List Setting) (config : Settings) : Arguments :=
  { a with
    cols := pick .cols a.cols config.cols
    tabs := pick .tabs a.tabs config.tabs
    notoc := pick .notoc a.notoc config.notoc
    norules := pick .norules a.norules config.norules
    pascal := pick .pascal a.pascal config.pascal
    desc := pick .desc a.desc config.desc }
where
  pick {α : Type} (s : Setting) (own : α) (configured : Option α) : α :=
    if explicit.contains s then own else configured.getD own

/-- The name of the help file: that of the output, else the one asked for, else that of the input
with another extension. -/
def helpFileName (a : Arguments) : Text :=
  if a.output != ['-'] then (Path.ofText a.output).name
  else
    match a.name.filter (!·.isEmpty), a.input.filter fun i => !i.isEmpty && i != ['-'] with
    | some name, _ => name
    | none, some input => (Path.ofText input).stem ++ ".txt".toList
    | none, none => "help.txt".toList

def request (a : Arguments) : OptionsRequest where
  filename := a.helpFileName
  description := a.desc
  columnWidth := a.cols
  tabWidth := a.tabs
  showContents := !a.notoc
  showRules := !a.norules
  pascal := a.pascal

end Arguments
end HelpFile.CommandLine
