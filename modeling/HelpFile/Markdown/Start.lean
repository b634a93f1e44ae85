import HelpFile.Markdown.Link

/-!
# Block starts

What a line, read from a cursor, may open: a container whose contents follow on the same line, or a
block of its own.
-/
namespace HelpFile.Markdown

/-- The marker of a list item. Items with the same kind of marker form one list. -/
structure ItemMarker where
  ordered : Bool
  /-- The bullet, or what follows the number. -/
  sign : Char
  /-- The columns that the item's further lines are indented by. -/
  offset : Nat
  deriving DecidableEq

inductive Container where
  | quote
  | alert (kind : Text)
  | item (marker : ItemMarker)
  | footnote (label : Text)

structure Fence where
  mark : Char
  size : Nat
  indent : Nat
  language : Text

inductive Start where
  | inside (container : Container) (rest : Cursor)
  | heading (level : Nat) (source : Text)
  | thematicBreak
  | fence (fence : Fence)
  | html (ending : HtmlEnding)
  | indentedCode

def isThematicBreak (text : Text) : Bool :=
  match text.filter (!isSpace ·) with
  | [] => false
  | c :: rest =>
    (c == '*' || c == '-' || c == '_') && 2 ≤ rest.length && rest.all (· == c)

def dropClosingMarks (text : Text) : Text :=
  match text.reverse.dropWhile (· == '#') with
  | [] => []
  | c :: rest => if isSpace c then Text.trim (c :: rest).reverse else text

def headingLine? (text : Text) : Option (Nat × Text) :=
  let level := (text.takeWhile (· == '#')).length
  let rest := text.drop level
  if 1 ≤ level && level ≤ 6 && (rest.isEmpty || rest.head?.any Text.isBlank) then
    some (level, dropClosingMarks (Text.trim rest))
  else none

/-- At least three backticks or tildes. The first word behind them names the language; behind
backticks no further backtick may stand. -/
def fence? (indent : Nat) (text : Text) : Option Fence :=
  match text with
  | [] => none
  | c :: _ =>
    let size := (text.takeWhile (· == c)).length
    let info := Text.trim (text.drop size)
    if (c == '\x60' || c == '~') && 3 ≤ size && !(c == '\x60' && info.any (· == '\x60')) then
      some { mark := c, size, indent, language := unescape (info.takeWhile (!Text.isBlank ·)) }
    else none

def Fence.closes (f : Fence) (c : Cursor) : Bool :=
  let text := c.atText.rest
  let size := (text.takeWhile (· == f.mark)).length
  c.indent < 4 && f.size ≤ size && onlySpaces (text.drop size)

/-- The inside of a list item, where its marker of `width` columns ends. A blank line, or five
columns and more, leave the text one column behind the marker. -/
def itemInside (ordered : Bool) (sign : Char) (width : Nat) (c : Cursor) : Start :=
  let gap := if c.isBlank || 4 < c.indent then 1 else c.indent
  .inside (.item { ordered, sign, offset := width + gap }) (c.skip gap)

def bulletItem? (c : Cursor) : Option Start :=
  let start := c.atText
  match start.rest with
  | b :: rest =>
    if (b == '-' || b == '+' || b == '*') && (rest.isEmpty || rest.head?.any isSpace) then
      some (itemInside false b (c.indent + 1) (start.advance 1))
    else none
  | [] => none

def itemNumber? (text : Text) : Option Text :=
  let digits := text.takeWhile Char.isDigit
  if digits.isEmpty || 9 < digits.length then none else some digits

def numberedItem? (c : Cursor) : Option Start :=
  let start := c.atText
  (itemNumber? start.rest).bind fun digits =>
    match start.rest.drop digits.length with
    | s :: rest =>
      if (s == '.' || s == ')') && (rest.isEmpty || rest.head?.any isSpace) then
        let width := digits.length + 1
        some (itemInside true s (c.indent + width) (start.advance width))
      else none
    | [] => none

def alertKinds : List String := ["NOTE", "TIP", "IMPORTANT", "WARNING", "CAUTION"]

def alertKind? (text : Text) : Option Text :=
  match trimSpaces text with
  | '[' :: '!' :: rest =>
    let kind := (rest.takeWhile Char.isAlpha).map Char.toUpper
    if rest.drop kind.length = [']'] && alertKinds.contains (String.ofList kind) then some kind
    else none
  | _ => none

def quoteInside? (c : Cursor) : Option Cursor :=
  if c.indent < 4 then
    match c.atText.rest with
    | '>' :: _ => some ((c.atText.advance 1).skip 1)
    | _ => none
  else none

def quote? (c : Cursor) : Option Start :=
  (quoteInside? c).map fun inside =>
    match alertKind? inside.rest with
    | some kind => .inside (.alert kind) { inside with rest := [] }
    | none => .inside .quote inside

/-- The label of a footnote definition and the text behind it. There must be some, or four
spaces. -/
def footnote? (c : Cursor) : Option Start :=
  let start := c.atText
  match start.rest with
  | '[' :: '^' :: rest =>
    let label := rest.takeWhile (· != ']')
    match rest.drop label.length with
    | ']' :: ':' :: after =>
      let blanks := (after.takeWhile Text.isBlank).length
      let bare := blanks = after.length
      if label.isEmpty || (bare && !Text.hasPart (Text.spaces 4) after) then none
      else
        let inside := start.advance (label.length + 4)
        some (.inside (.footnote (normalLabel label)) (inside.advance blanks))
    | _ => none
  | _ => none

def start? (c : Cursor) : Option Start :=
  if c.isBlank then none
  else if 4 ≤ c.indent then some .indentedCode
  else
    let text := c.atText.rest
    (quote? c).or <| ((headingLine? text).map fun (level, source) => .heading level source).or <|
      ((fence? c.indent text).map .fence).or <| ((htmlBlock? text).map .html).or <|
      if isThematicBreak text then some .thematicBreak
      else (bulletItem? c).or <| (numberedItem? c).or (footnote? c)

/-- Whether a line that opens this block ends a paragraph that it could otherwise continue. A list
does if its item is not empty and its number is one; `lazily`, where the paragraph is in a container
that the line has left, every list does. -/
def Start.interrupts (lazily : Bool) (line : Cursor) : Start → Bool
  | inside .quote _ | inside (.alert _) _ | heading .. | thematicBreak | fence _ => true
  | inside (.footnote _) _ | indentedCode | html .loneTag => false
  | html _ => true
  | inside (.item marker) rest =>
    lazily || (!rest.isBlank &&
      (!marker.ordered || itemNumber? line.atText.rest = some ['1']))

def underline? (c : Cursor) : Option Nat :=
  let text := trimSpaces c.rest
  if 4 ≤ c.indent || text.isEmpty then none
  else if text.all (· == '=') then some 1
  else if text.all (· == '-') then some 2
  else none

/-- The cells of a table row. Bars at both ends do not separate, nor do escaped bars. -/
def rowCells (text : Text) : List Text :=
  let rec split : Text → List Text
    | [] => [[]]
    | '\\' :: '|' :: rest =>
      match split rest with
      | [] => [['\\', '|']]
      | cell :: more => ('\\' :: '|' :: cell) :: more
    | c :: rest =>
      if c = '|' then [] :: split rest
      else match split rest with
        | [] => [[c]]
        | cell :: more => (c :: cell) :: more
  let cells := split (trimSpaces text)
  let inner := if cells.head? = some [] then cells.drop 1 else cells
  if 1 < inner.length && inner.getLast? = some [] then inner.dropLast else inner

def isDelimiterCell (cell : Text) : Bool :=
  let inner := match trimSpaces cell with
    | ':' :: rest => rest
    | text => text
  let dashes := inner.takeWhile (· == '-')
  !dashes.isEmpty && (inner.drop dashes.length = [] || inner.drop dashes.length = [':'])

/-- Whether a line under a line of text makes the two a table: a row of delimiter cells, as many as
the text has cells. -/
def opensTable (header : Text) (c : Cursor) : Bool :=
  let cells := rowCells c.rest
  c.indent < 4 && header.any (· == '|') && cells.all isDelimiterCell &&
    cells.length = (rowCells header).length

end HelpFile.Markdown
