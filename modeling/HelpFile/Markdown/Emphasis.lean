import HelpFile.Document
import HelpFile.Text.Blank
import HelpFile.Text.Punctuation

/-!
# Emphasis

Runs of marks that may open or close emphasis and strikethrough, and how they pair up. Tokens are
kept newest first, so that an opener is found by looking down the stack.
-/
namespace HelpFile.Markdown

/-- A run of one mark. `size` marks are left of its `initial` ones. -/
structure MarkRun where
  mark : Char
  size : Nat
  initial : Nat
  opens : Bool
  closes : Bool

inductive Token where
  | text (text : Text)
  | node (node : Inline)
  | run (run : MarkRun)
  /-- An opening bracket, with the source text behind it. An inactive one opens no link. -/
  | bracket (image active : Bool) (source : Text)

def MarkRun.text (r : MarkRun) : Text := List.replicate r.size r.mark

def bracketText (image : Bool) : Text := if image then ['!', '['] else ['[']

def Token.inline : Token → Inline
  | text t => .text t
  | node i => i
  | run r => .text r.text
  | bracket image _ _ => .text (bracketText image)

def mergeTexts : List Inline → List Inline
  | [] => []
  | .text t :: rest =>
    match mergeTexts rest with
    | .text u :: more => .text (t ++ u) :: more
    | merged => if t.isEmpty then merged else .text t :: merged
  | i :: rest => i :: mergeTexts rest

def inlines (stack : List Token) : List Inline := mergeTexts (stack.reverse.map Token.inline)

/-- A run as it stands between two characters; the ends of the text count as blank. Marks of
strikethrough open and close wherever they stand. -/
def markRun (mark : Char) (size : Nat) (before after : Option Char) : MarkRun :=
  let blankBefore := before.all Text.isBlank
  let blankAfter := after.all Text.isBlank
  let punctuationBefore := before.any Text.isPunctuation
  let punctuationAfter := after.any Text.isPunctuation
  let left := !blankAfter && (!punctuationAfter || blankBefore || punctuationBefore)
  let right := !blankBefore && (!punctuationBefore || blankAfter || punctuationAfter)
  let (opens, closes) : Bool × Bool :=
    if mark = '~' then (decide (size ≤ 2), decide (size ≤ 2))
    else if mark = '_' then
      (left && (!right || punctuationBefore), right && (!left || punctuationAfter))
    else (left, right)
  { mark, size, initial := size, opens, closes }

/-- Whether a run pairs with a later one. Strikethrough needs equal sizes. Where one of the two
could both open and close, sizes that add up to a multiple of three are refused, unless both are. -/
def MarkRun.pairsWith (opener closer : MarkRun) : Bool :=
  opener.opens && opener.mark == closer.mark &&
    if opener.mark = '~' then opener.size == closer.size
    else !((opener.closes || closer.opens) && (opener.initial + closer.initial) % 3 == 0 &&
      closer.initial % 3 != 0)

/-- The stack above the nearest opener for a run, the opener, and the stack below it. Strikethrough
does not reach past another run of its mark. -/
def findOpener? (closer : MarkRun) : List Token → Option (List Token × MarkRun × List Token)
  | [] => none
  | .run r :: below =>
    if r.pairsWith closer then some ([], r, below)
    else if closer.mark = '~' && r.mark = '~' then none
    else (findOpener? closer below).map fun (above, found) => (.run r :: above, found)
  | t :: below => (findOpener? closer below).map fun (above, found) => (t :: above, found)

def MarkRun.shrink (r : MarkRun) (n : Nat) : MarkRun := { r with size := r.size - n }

def pushRun (r : MarkRun) (stack : List Token) : List Token :=
  if r.size = 0 then stack else .run r :: stack

/-- Pairs a run with the openers on the stack while it has marks left; two marks on both sides make
strong emphasis. Every pair takes a mark, so `steps` may be the size of the run. -/
def closeRun (steps : Nat) (closer : MarkRun) (stack : List Token) : List Token :=
  match steps with
  | 0 => pushRun closer stack
  | steps + 1 =>
    if !closer.closes || closer.size = 0 then pushRun closer stack
    else
      match findOpener? closer stack with
      | none => pushRun closer stack
      | some (above, opener, below) =>
        let content := inlines above
        let (used, node) : Nat × Inline :=
          if closer.mark = '~' then (closer.size, .strikethrough content)
          else if 2 ≤ closer.size && 2 ≤ opener.size then (2, .strong content)
          else (1, .emphasis content)
        closeRun steps (closer.shrink used) (.node node :: pushRun (opener.shrink used) below)

def resolveRuns (stack : List Token) : List Token :=
  stack.reverse.foldl (fun resolved t =>
    match t with
    | .run r => closeRun r.size r resolved
    | t => t :: resolved) []

end HelpFile.Markdown
