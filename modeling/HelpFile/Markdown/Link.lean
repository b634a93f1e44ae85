import HelpFile.Markdown.Html
import HelpFile.Text.Case
import HelpFile.Text.Punctuation

/-!
# Link parts

Labels, targets and titles, as they stand behind link texts and in link definitions. Targets are
kept as written, but for the angle brackets around them and the backslashes of escapes.
-/
namespace HelpFile.Markdown

def collapseBlanks : Text → Text
  | [] => []
  | c :: rest =>
    if Text.isBlank c then
      match rest with
      | [] => [' ']
      | d :: _ => if Text.isBlank d then collapseBlanks rest else ' ' :: collapseBlanks rest
    else c :: collapseBlanks rest

def normalLabel (label : Text) : Text := Text.fold (Text.trim (collapseBlanks label))

def unescape : Text → Text
  | '\\' :: c :: rest =>
    if Text.isAsciiPunctuation c then c :: unescape rest else '\\' :: unescape (c :: rest)
  | c :: rest => c :: unescape rest
  | [] => []

/-- Up to the first `close` that is not escaped: what stands before it and what follows. A `stop`
character, or the end of the text, refuses it. -/
def until? (close : Char) (stop : Char → Bool) : Text → Option (Text × Text)
  | [] => none
  | '\\' :: c :: rest =>
    if Text.isAsciiPunctuation c then
      (until? close stop rest).map fun (inner, after) => ('\\' :: c :: inner, after)
    else (until? close stop (c :: rest)).map fun (inner, after) => ('\\' :: inner, after)
  | c :: rest =>
    if c = close then some ([], rest)
    else if stop c then none
    else (until? close stop rest).map fun (inner, after) => (c :: inner, after)

/-- A label behind its opening bracket: not blank, at most 999 characters, no bare brackets. -/
def label? (text : Text) : Option (Text × Text) :=
  match until? ']' (· == '[') text with
  | some (label, rest) =>
    if Text.isVoid label || 999 < label.length then none else some (label, rest)
  | none => none

/-- A target without angle brackets ends at white space or at a parenthesis that it did not open. -/
def bareTarget (depth : Nat) : Text → Option (Text × Text)
  | [] => if depth = 0 then some ([], []) else none
  | '\\' :: c :: rest =>
    if Text.isAsciiPunctuation c then
      (bareTarget depth rest).map fun (target, after) => ('\\' :: c :: target, after)
    else (bareTarget depth (c :: rest)).map fun (target, after) => ('\\' :: target, after)
  | c :: rest =>
    let stop := if depth = 0 then some ([], c :: rest) else none
    if c.toNat ≤ 0x20 || c.toNat = 0x7F then stop
    else if c = ')' && depth = 0 then stop
    else
      let inner := if c = '(' then depth + 1 else if c = ')' then depth - 1 else depth
      (bareTarget inner rest).map fun (target, after) => (c :: target, after)

def target? : Text → Option (Text × Text)
  | '<' :: rest =>
    (until? '>' (fun c => c == '<' || c == '\n') rest).map fun (t, after) => (unescape t, after)
  | text => (bareTarget 0 text).map fun (t, after) => (unescape t, after)

def pastTitle? : Text → Option Text
  | '\x22' :: rest => (until? '\x22' (fun _ => false) rest).map Prod.snd
  | '\x27' :: rest => (until? '\x27' (fun _ => false) rest).map Prod.snd
  | '(' :: rest => (until? ')' (· == '(') rest).map Prod.snd
  | _ => none

def skipLineBreak (text : Text) : Text :=
  match skipSpaces text with
  | '\n' :: rest => skipSpaces rest
  | rest => rest

def inlineTarget? (text : Text) : Option (Text × Text) :=
  match target? (skipLineBreak text) with
  | none => none
  | some (target, rest) =>
    let close (t : Text) : Option Text :=
      match skipLineBreak t with
      | ')' :: after => some after
      | _ => none
    match close rest with
    | some after => some (target, after)
    | none =>
      if rest.head?.any isTagSpace then
        ((pastTitle? (skipLineBreak rest)).bind close).map fun after => (target, after)
      else none

def endOfLine? (text : Text) : Option Text :=
  match skipSpaces text with
  | [] => some []
  | '\n' :: rest => some rest
  | _ => none

/-- A link definition at the start of a paragraph: label, target and the text after it. A title that
something follows on its line does not belong to it. -/
def definition? : Text → Option (Text × Text × Text)
  | '[' :: rest =>
    match label? rest with
    | some (label, ':' :: afterColon) =>
      let start := skipLineBreak afterColon
      match start, target? start with
      | _ :: _, some (target, afterTarget) =>
        if target.isEmpty && !Text.startsWith ['<'] start then none
        else
          let titled :=
            if afterTarget.head?.any isTagSpace then
              (pastTitle? (skipLineBreak afterTarget)).bind endOfLine?
            else none
          (titled.or (endOfLine? afterTarget)).map fun after => (normalLabel label, target, after)
      | _, _ => none
    | _ => none
  | _ => none

/-- The definitions at the start of a paragraph, and the rest of it. A definition is longer than
nothing, so `steps` may be the length of the text. -/
def takeDefinitions (steps : Nat) (text : Text) : List (Text × Text) × Text :=
  match steps with
  | 0 => ([], text)
  | steps + 1 =>
    match definition? text with
    | some (label, target, rest) =>
      let (more, last) := takeDefinitions steps rest
      ((label, target) :: more, last)
    | none => ([], text)

end HelpFile.Markdown
