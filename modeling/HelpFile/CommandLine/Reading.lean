import HelpFile.CommandLine.Grammar

/-!
# Reading a command line

Options are acted on in order. The positional places are filled once, by the first arguments that
are not options; what comes behind the next option finds no place. What is not recognised is set
aside, for the caller to judge.
-/
namespace HelpFile.CommandLine

inductive Given where
  | name (text : Text)
  | cols (n : Int)
  | tabs (n : Int)
  | notoc
  | norules
  | pascal
  | desc (text : Text)
  | version
  deriving DecidableEq

structure Reading where
  options : List Given := []
  /-- The places that have been filled; one may have been left empty. -/
  positionals : List (Option Text) := []
  leftover : List Text := []

inductive Interruption where
  | help
  | fault (error : UsageError)
  deriving DecidableEq

/-- The options in one argument with their values, empty for those that take none, what is not
recognised in it, and the marks behind the last value. -/
structure Unfolding where
  options : List (Flag × Text)
  leftover : List Text := []
  rest : List Mark

namespace Grammar

def separate (g : Grammar) (f : Flag) (rest : List Mark) : Except UsageError Unfolding :=
  if !f.takesValue then .ok { options := [(f, [])], rest }
  else
    match rest with
    | .plain value :: rest => .ok { options := [(f, value)], rest }
    | _ => .error (.missingValue (g.title f))

/-- Unfolds an option with the text behind it: a value, or further short options if it takes none.
-/
def unfold (g : Grammar) (f : Flag) (attached : Text) (rest : List Mark) :
    Except UsageError Unfolding :=
  match attached with
  | [] => g.separate f rest
  | '=' :: value =>
    if f.takesValue then .ok { options := [(f, value)], rest }
    else .error (.unwantedValue (g.title f) value)
  | c :: more =>
    if f.takesValue then .ok { options := [(f, attached)], rest }
    else if c = '-' then .error (.unwantedValue (g.title f) attached)
    else
      match g.flag? ['-', c] with
      | none => .ok { options := [(f, [])], leftover := ['-' :: attached], rest }
      | some next =>
        (g.unfold next more rest).map fun u => { u with options := (f, []) :: u.options }

def given (g : Grammar) (f : Flag) (value : Text) : Except Interruption Given :=
  match f with
  | .help => .error .help
  | .name => .ok (.name value)
  | .cols => number.map .cols
  | .tabs => number.map .tabs
  | .notoc => .ok .notoc
  | .norules => .ok .norules
  | .pascal => .ok .pascal
  | .desc => .ok (.desc value)
  | .version => .ok .version
where
  number : Except Interruption Int :=
    match Text.readInt? value with
    | some n => .ok n
    | none => .error (.fault (.notANumber (g.title f) value))

end Grammar

def takePlace : List Mark → List Text × List Mark
  | .dashes :: .plain a :: rest => ([['-', '-'], a], rest)
  | .dashes :: rest => ([['-', '-']], rest)
  | .plain a :: .dashes :: rest => ([a, ['-', '-']], rest)
  | .plain a :: rest => ([a], rest)
  | rest => ([], rest)

/-- Fills positional places from the marks in front of the next option. Of the arguments for a
place, the first that is two dashes is dropped. -/
def fillPlaces : (places : Nat) → List Mark → List (Option Text) × List Mark
  | 0, marks => ([], marks)
  | places + 1, marks =>
    let (group, rest) := takePlace marks
    let (more, last) := fillPlaces places rest
    ((group.erase ['-', '-']).head? :: more, last)

/-- Acts on marks in order. Every step takes a mark, so `steps` may be their number. -/
def Grammar.act (g : Grammar) (steps : Nat) (places : Nat) (r : Reading) (marks : List Mark) :
    Except Interruption Reading :=
  match steps, marks with
  | 0, _ | _, [] => .ok r
  | steps + 1, .unknown argument :: rest =>
    g.act steps places { r with leftover := r.leftover ++ [argument] } rest
  | steps + 1, .option found :: rest => do
    let u ← (g.unfold found.flag found.attached rest).mapError .fault
    let options ← u.options.mapM fun (f, value) => g.given f value
    g.act steps places
      { r with options := r.options ++ options, leftover := r.leftover ++ u.leftover } u.rest
  | steps + 1, marks =>
    let (filled, rest) := fillPlaces places marks
    let extra := rest.takeWhile (!·.isOption)
    g.act steps 0
      { r with
        positionals := r.positionals ++ filled
        leftover := r.leftover ++ extra.map Mark.text }
      (rest.drop extra.length)

def Grammar.read (g : Grammar) (arguments : List Text) : Except Interruption Reading := do
  let marks ← (g.classifyAll arguments).mapError .fault
  g.act marks.length g.positionals {} marks

end HelpFile.CommandLine
