import HelpFile.Text.Numeral
import HelpFile.Text.Quoted

/-!
# Command-line grammar

The options, their spellings, and what an argument in front of the two dashes is. A long option may
be shortened to any beginning that no other option shares, and take its value behind an equals
sign; a short one may have its value attached.
-/
namespace HelpFile.CommandLine

inductive Flag where
  | help
  | name
  | cols
  | tabs
  | notoc
  | norules
  | pascal
  | desc
  | version
  deriving DecidableEq

def Flag.takesValue : Flag → Bool
  | name | cols | tabs | desc => true
  | help | notoc | norules | pascal | version => false

structure Grammar where
  spellings : List (Text × Flag)
  positionals : Nat

namespace Grammar

def full : Grammar where
  spellings := [
    ("-h".toList, .help), ("--help".toList, .help), ("-n".toList, .name), ("--name".toList, .name),
    ("-c".toList, .cols), ("--cols".toList, .cols), ("-t".toList, .tabs), ("--tabs".toList, .tabs),
    ("--notoc".toList, .notoc), ("--norules".toList, .norules), ("--pascal".toList, .pascal),
    ("--desc".toList, .desc), ("--version".toList, .version)]
  positionals := 2

/-- The options that a configuration can set as well, and nothing else. -/
def settings : Grammar where
  spellings := full.spellings.filter fun s =>
    s.2 != .help && s.2 != .name && s.2 != .version
  positionals := 0

def flag? (g : Grammar) (spelling : Text) : Option Flag := g.spellings.lookup spelling

def title (g : Grammar) (f : Flag) : String :=
  "/".intercalate ((g.spellings.filter fun s => s.2 == f).map fun s => String.ofList s.1)

end Grammar

inductive UsageError where
  | ambiguous (argument : Text) (matching : List Text)
  | missingValue (flag : String)
  | notANumber (flag : String) (value : Text)
  | unwantedValue (flag : String) (value : Text)
  | unrecognized (arguments : List Text)
  deriving DecidableEq

def UsageError.message : UsageError → String
  | ambiguous argument matching =>
    s!"ambiguous option: {String.ofList argument} could match " ++
      ", ".intercalate (matching.map String.ofList)
  | missingValue flag => s!"argument {flag}: expected one argument"
  | notANumber flag value => s!"argument {flag}: invalid int value: {Text.quoted value}"
  | unwantedValue flag value => s!"argument {flag}: ignored explicit argument {Text.quoted value}"
  | unrecognized arguments =>
    "unrecognized arguments: " ++ " ".intercalate (arguments.map String.ofList)

/-- An option found in an argument, with the text behind it there. A long option has none, or a
value behind an equals sign. -/
structure Found where
  flag : Flag
  attached : Text

inductive Mark where
  | plain (argument : Text)
  /-- The two dashes that end the options. -/
  | dashes
  | option (found : Found)
  | unknown (argument : Text)

namespace Mark

def text : Mark → Text
  | plain a | unknown a => a
  | dashes => ['-', '-']
  | option _ => []

def isOption : Mark → Bool
  | option _ | unknown _ => true
  | plain _ | dashes => false

end Mark

def cutEquals (argument : Text) : Text × Text :=
  (argument.takeWhile (· != '='), argument.dropWhile (· != '='))

def isLong (argument : Text) : Bool := Text.startsWith ['-', '-'] argument

/-- A negative number, which is not taken for an option. A line feed may end it. -/
def isNegativeNumber (argument : Text) : Bool :=
  match argument with
  | '-' :: rest =>
    let body := if rest.getLast? = some '\n' then rest.dropLast else rest
    match body.dropWhile isDigit with
    | [] => !body.isEmpty
    | '.' :: places => !places.isEmpty && places.all isDigit
    | _ => false
  | _ => false
where
  isDigit (c : Char) : Bool := (Text.digitValue? c).isSome

namespace Grammar

def spelled? (g : Grammar) (argument : Text) : Option Found :=
  let (left, attached) := cutEquals argument
  (g.flag? left).map fun flag => { flag, attached }

def completions (g : Grammar) (argument : Text) : List (Text × Found) :=
  if isLong argument then
    let (left, attached) := cutEquals argument
    (g.spellings.filter fun s => Text.startsWith left s.1).map fun (spelling, flag) =>
      (spelling, { flag, attached })
  else
    (g.spellings.filter fun s => s.1 = argument.take 2).map fun (spelling, flag) =>
      (spelling, { flag, attached := argument.drop 2 })

def classify (g : Grammar) (argument : Text) : Except UsageError Mark :=
  if !Text.startsWith ['-'] argument || argument = ['-'] then .ok (.plain argument)
  else
    match g.spelled? argument with
    | some found => .ok (.option found)
    | none =>
      match g.completions argument with
      | [(_, found)] => .ok (.option found)
      | [] =>
        if isNegativeNumber argument || argument.any (· == ' ') then .ok (.plain argument)
        else .ok (.unknown argument)
      | several => .error (.ambiguous argument (several.map Prod.fst))

/-- All arguments are classified before the first is acted on, so an ambiguous option is reported
before any other fault. -/
def classifyAll (g : Grammar) : List Text → Except UsageError (List Mark)
  | [] => .ok []
  | argument :: rest =>
    if argument = ['-', '-'] then .ok (.dashes :: rest.map .plain)
    else do
      let mark ← g.classify argument
      return mark :: (← g.classifyAll rest)

end Grammar
end HelpFile.CommandLine
