import HelpFile.Toml.Value

/-!
# Settings

The settings that a configuration may hold, read from a TOML table. Sections are flattened one level
deep; each key names a setting by its own name or by a longer one. A setting that is absent stays
unset, so that defaults and the command line can tell.
-/
namespace HelpFile

inductive Setting where
  | cols
  | tabs
  | notoc
  | norules
  | pascal
  | desc
  deriving DecidableEq

namespace Setting

def all : List Setting := [cols, tabs, notoc, norules, pascal, desc]

def name : Setting → String
  | cols => "cols"
  | tabs => "tabs"
  | notoc => "notoc"
  | norules => "norules"
  | pascal => "pascal"
  | desc => "desc"

def longName? : Setting → Option String
  | cols => some "columns"
  | tabs => some "tab-width"
  | notoc => some "no-toc"
  | norules => some "no-rules"
  | pascal => none
  | desc => some "description"

/-- The setting that a key names: by its longer name, or else by its own, where dashes in the key
count as underscores. -/
def ofKey? (key : Text) : Option Setting :=
  match all.find? fun s => s.longName?.map String.toList == some key with
  | some s => some s
  | none => all.find? fun s => s.name.toList == key.map fun c => if c = '-' then '_' else c

abbrev Value : Setting → Type
  | cols | tabs => Int
  | notoc | norules | pascal => Bool
  | desc => Text

/-- What a value sets a setting to, if it is of the setting's type. A truth value is no number. -/
def read? : (s : Setting) → Toml.Value → Option s.Value
  | cols, .integer n | tabs, .integer n => some n
  | notoc, .boolean b | norules, .boolean b | pascal, .boolean b => some b
  | desc, .string t => some t
  | _, _ => none

/-- How a configuration writes what a setting is set to. -/
def toToml : (s : Setting) → s.Value → Toml.Value
  | cols, n | tabs, n => .integer n
  | notoc, b | norules, b | pascal, b => .boolean b
  | desc, t => .string t

theorem read?_eq_some_iff {s : Setting} {v : Toml.Value} {x : s.Value} :
    s.read? v = some x ↔ v = s.toToml x := by
  cases s <;> cases v <;> simp [read?, toToml]

theorem read?_eq_none_iff {s : Setting} {v : Toml.Value} :
    s.read? v = none ↔ ∀ x, v ≠ s.toToml x := by
  simp only [Option.eq_none_iff_forall_ne_some, ne_eq, read?_eq_some_iff]

end Setting

structure Settings where
  cols : Option Int := none
  tabs : Option Int := none
  notoc : Option Bool := none
  norules : Option Bool := none
  pascal : Option Bool := none
  desc : Option Text := none
  deriving DecidableEq

structure SettingTypeError where
  setting : Setting
  value : Toml.Value

def SettingTypeError.message (e : SettingTypeError) : String :=
  let type := match e.setting with
    | .cols | .tabs => "int"
    | .notoc | .norules | .pascal => "bool"
    | .desc => "str"
  s!"Config value \x60{e.setting.name}\x60 must be of type {type}: {e.value.shown}"

namespace Settings

open Toml (Table Value)

/-- The entries of a table and of its sections, one level deep. A key that comes again keeps its
place and takes the later value. -/
def flatten (t : Table) : Table :=
  t.foldl (fun flat (key, value) =>
    match value with
    | .table entries => entries.foldl (fun flat e => flat.insert e.1 e.2) flat
    | _ => flat.insert key value) []

def valueOf? (flat : Table) (s : Setting) : Option Value :=
  ((flat.filter fun e => Setting.ofKey? e.1 == some s).getLast?).map Prod.snd

def checked? (flat : Table) (s : Setting) : Except SettingTypeError (Option s.Value) :=
  match valueOf? flat s with
  | none => .ok none
  | some v =>
    match s.read? v with
    | some x => .ok (some x)
    | none => .error ⟨s, v⟩

def ofFlat (flat : Table) : Except SettingTypeError Settings := do
  let cols ← checked? flat .cols
  let tabs ← checked? flat .tabs
  let notoc ← checked? flat .notoc
  let norules ← checked? flat .norules
  let pascal ← checked? flat .pascal
  let desc ← checked? flat .desc
  return { cols, tabs, notoc, norules, pascal, desc }

def unknownKeys (flat : Table) : List Text :=
  (flat.filter fun e => (Setting.ofKey? e.1).isNone).map Prod.fst

def ofTable (t : Table) : List Text × Except SettingTypeError Settings :=
  let flat := flatten t
  (unknownKeys flat, ofFlat flat)

end Settings
end HelpFile
