import HelpFile.Markdown.Emphasis
import HelpFile.Markdown.Link
import HelpFile.Text.Word

/-!
# Reading inline content

Inline content is read from left to right onto a stack of tokens. A closing bracket turns what
stands above its opening bracket into a link or an image; the runs of marks left at the end are
paired up last. Character references are text like any other.
-/
namespace HelpFile.Markdown

structure Definitions where
  links : List (Text × Text) := []
  footnotes : List Text := []

namespace Definitions

def link? (d : Definitions) (label : Text) : Option Text := d.links.lookup (normalLabel label)

def footnote? (d : Definitions) (text : Text) : Option (Text × Text) :=
  let label := text.takeWhile (· != ']')
  match text.drop label.length with
  | _ :: rest =>
    if !label.isEmpty && d.footnotes.elem (normalLabel label) then some (normalLabel label, rest)
    else none
  | [] => none

end Definitions

structure Step where
  stack : List Token
  before : Option Char
  rest : Text

def consumed (text rest : Text) : Text := text.take (text.length - rest.length)

def Step.push (stack : List Token) (text rest : Text) (t : Token) : Step where
  stack := t :: stack
  before := (consumed text rest).getLast?
  rest := rest

/-- Code between runs of equally many backticks; `size` of them have been read. -/
def closeCode? (size : Nat) : (run : Nat) → Text → Option (Text × Text)
  | run, [] => if run = size then some ([], []) else none
  | run, c :: rest =>
    if c = '\x60' then (closeCode? size (run + 1) rest).map fun (t, after) => (c :: t, after)
    else if run = size then some ([], c :: rest)
    else (closeCode? size 0 rest).map fun (t, after) => (c :: t, after)

def codeText (source : Text) : Text :=
  let text := source.map fun c => if c = '\n' then ' ' else c
  if 2 ≤ text.length && text.head? = some ' ' && text.getLast? = some ' ' &&
      !text.all (· == ' ') then (text.drop 1).dropLast
  else text

def readCode (stack : List Token) (text : Text) : Step :=
  let size := (text.takeWhile (· == '\x60')).length
  let behind := text.drop size
  match closeCode? size 0 behind with
  | some (inner, rest) =>
    let source := inner.take (inner.length - size)
    .push stack text rest (.node (.code (codeText source)))
  | none => .push stack text behind (.text (text.take size))

def isSchemeChar (c : Char) : Bool := c.isAlphanum || c == '+' || c == '.' || c == '-'

def schemeAddress? (text : Text) : Option (Text × Text) :=
  let scheme := text.takeWhile isSchemeChar
  match text.drop scheme.length with
  | ':' :: more =>
    let path := more.takeWhile fun c => c.toNat > 0x20 && c.toNat != 0x7F && c != '<' && c != '>'
    match more.drop path.length with
    | '>' :: rest =>
      if scheme.head?.any isLetter && 2 ≤ scheme.length && scheme.length ≤ 32 then
        some (scheme ++ ':' :: path, rest)
      else none
    | _ => none
  | _ => none

def isMailChar (c : Char) : Bool := c.isAlphanum || ".!#$%&'*+/=?^_\x60\x7b|\x7d~-".toList.elem c

def isHostLabel (label : Text) : Bool :=
  1 ≤ label.length && label.length ≤ 63 && label.all isTagChar &&
    label.head? != some '-' && label.getLast? != some '-'

def mailAddress? (text : Text) : Option (Text × Text) :=
  let user := text.takeWhile isMailChar
  match text.drop user.length with
  | '@' :: more =>
    let host := more.takeWhile fun c => isTagChar c || c == '.'
    match more.drop host.length with
    | '>' :: rest =>
      if !user.isEmpty && (Text.splitOn '.' host).all isHostLabel then
        some (user ++ '@' :: host, rest)
      else none
    | _ => none
  | _ => none

def readAngle (stack : List Token) (text : Text) : Step :=
  let behind := text.drop 1
  match (schemeAddress? behind).or (mailAddress? behind) with
  | some (address, rest) => .push stack text rest (.node (.autoLink [.text address]))
  | none =>
    match rawHtml? behind with
    | some rest => .push stack text rest (.node (.html (consumed text rest)))
    | none => .push stack text behind (.text ['<'])

/-- A backslash escapes a punctuation mark and, at the end of a line, breaks it. A tilde so escaped
takes part in no strikethrough and keeps others from reaching past it. -/
def readBackslash (stack : List Token) (text : Text) : Step :=
  match text.drop 1 with
  | '\n' :: rest => .push stack text (skipSpaces rest) (.node .lineBreak)
  | '~' :: rest => .push stack text rest
      (.run { mark := '~', size := 1, initial := 1, opens := false, closes := false })
  | c :: rest =>
    if Text.isAsciiPunctuation c then .push stack text rest (.text [c])
    else .push stack text (c :: rest) (.text ['\\'])
  | [] => .push stack text [] (.text ['\\'])

def dropTrailingSpaces : List Token → List Token
  | .text t :: below =>
    match (t.reverse.dropWhile (· == ' ')).reverse with
    | [] => dropTrailingSpaces below
    | kept => .text kept :: below
  | stack => stack

def readLineEnd (stack : List Token) (text : Text) : Step :=
  .push (dropTrailingSpaces stack) text (skipSpaces (text.drop 1)) (.node .lineBreak)

def readRun (stack : List Token) (before : Option Char) (text : Text) (mark : Char) : Step :=
  let size := (text.takeWhile (· == mark)).length
  let rest := text.drop size
  .push stack text rest (.run (markRun mark size before rest.head?))

def mayPrecedeUrl (before : Option Char) : Bool :=
  before.all fun c => Text.isBlank c || "*_~(\"'".toList.elem c

def isHostChar (c : Char) : Bool := Text.isWord c || c == '.' || c == '-'

def hasDomain (host : Text) : Bool := !((host.dropWhile (· != '.')).drop 1).isEmpty

def dropUrlEnd : Text → Text
  | [] => []
  | c :: rest =>
    if "?!.,:*_~\"'".toList.elem c then dropUrlEnd rest
    else if c = ')' && rest.countP (· == '(') < (c :: rest).countP (· == ')') then dropUrlEnd rest
    else c :: rest

def url? (text : Text) : Option Text :=
  let schemes := ["http://", "https://", "ftp://", "www."].map String.toList
  (schemes.findSome? (Text.after? · text)).bind fun rest =>
    if hasDomain (rest.takeWhile isHostChar) then
      let url := text.takeWhile fun c => !Text.isBlank c && c != '<'
      some (dropUrlEnd url.reverse).reverse
    else none

def readPlain (stack : List Token) (before : Option Char) (text : Text) : Step :=
  let single : Step :=
    { stack := .text (text.take 1) :: stack, before := text.head?, rest := text.drop 1 }
  if mayPrecedeUrl before then
    match url? text with
    | some (c :: url) =>
      .push stack text (text.drop (url.length + 1)) (.node (.url [.text (c :: url)]))
    | _ => single
  else single

def readOpening (d : Definitions) (stack : List Token) (text : Text) : Step :=
  match text with
  | '[' :: '^' :: more =>
    match d.footnote? more with
    | some (label, rest) => .push stack text rest (.node (.footnoteReference label))
    | none => .push stack text ('^' :: more) (.bracket false true ('^' :: more))
  | '[' :: more => .push stack text more (.bracket false true more)
  | '!' :: '[' :: '^' :: more =>
    if (d.footnote? more).isSome then .push stack text ('[' :: '^' :: more) (.text ['!'])
    else .push stack text ('^' :: more) (.bracket true true ('^' :: more))
  | '!' :: '[' :: more => .push stack text more (.bracket true true more)
  | text => .push stack text (text.drop 1) (.text (text.take 1))

def findBracket? : List Token → Option (List Token × (Bool × Bool × Text) × List Token)
  | [] => none
  | .bracket image active source :: below => some ([], (image, active, source), below)
  | t :: below => (findBracket? below).map fun (above, found) => (t :: above, found)

def deactivate (stack : List Token) : List Token :=
  stack.map fun
    | .bracket false _ source => .bracket false false source
    | t => t

def isLabel (text : Text) : Bool := (label? (text ++ [']'])).any fun l => l.1 == text

def reference? (d : Definitions) (shown rest : Text) : Option (Text × Text) :=
  let own := if isLabel shown then d.link? shown else none
  match rest with
  | '[' :: ']' :: after => own.map (·, after)
  | '[' :: more =>
    match label? more with
    | some (label, after) => (d.link? label).map (·, after)
    | none => own.map (·, rest)
  | _ => own.map (·, rest)

def targetBehind? (d : Definitions) (shown rest : Text) : Option (Text × Text) :=
  match rest with
  | '(' :: more => (inlineTarget? more).or (reference? d shown rest)
  | _ => reference? d shown rest

def readClosing (d : Definitions) (stack : List Token) (text : Text) : Step :=
  let rest := text.drop 1
  let plain (stack : List Token) : Step := .push stack text rest (.text [']'])
  match findBracket? stack with
  | none => plain stack
  | some (above, (image, active, source), below) =>
    let asText := plain (above ++ .text (bracketText image) :: below)
    if !active then asText
    else
      match targetBehind? d (consumed source text) rest with
      | none => asText
      | some (target, after) =>
        let content := inlines (resolveRuns above)
        let node := if image then Inline.image target content else .link target content
        .push (if image then below else deactivate below) text after (.node node)

def readNext (d : Definitions) (stack : List Token) (before : Option Char) (text : Text) : Step :=
  match text with
  | '\\' :: _ => readBackslash stack text
  | '\x60' :: _ => readCode stack text
  | '<' :: _ => readAngle stack text
  | '\n' :: _ => readLineEnd stack text
  | '[' :: _ | '!' :: _ => readOpening d stack text
  | ']' :: _ => readClosing d stack text
  | c :: _ =>
    if c = '*' || c = '_' || c = '~' then readRun stack before text c
    else readPlain stack before text
  | [] => { stack, before, rest := [] }

/-- Reads a text to its end. Every step takes a character, so `steps` may be its length. -/
def readTokens (d : Definitions) (steps : Nat) (stack : List Token) (before : Option Char)
    (text : Text) : List Token :=
  match steps, text with
  | _, [] | 0, _ => stack
  | steps + 1, text =>
    let next := readNext d stack before text
    readTokens d steps next.stack next.before next.rest

def readInlines (d : Definitions) (source : Text) : List Inline :=
  inlines (resolveRuns (readTokens d source.length [] none source))

end HelpFile.Markdown
