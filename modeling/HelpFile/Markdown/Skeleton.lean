import HelpFile.Markdown.Start

/-!
# Block skeletons

A source is read line by line into blocks whose inline text is still unread. Between two lines the
blocks still open form a spine: containers from the outside in, and a leaf at its tip. A line first
passes the containers that it continues; what it leaves behind is closed, unless it carries on a
paragraph at the tip.
-/
namespace HelpFile.Markdown

inductive RawBlock where
  | heading (level : Nat) (source : Text)
  | paragraph (source : Text)
  | item (marker : ItemMarker) (body : List RawBlock)
  | quote (body : List RawBlock)
  | alert (kind : Text) (body : List RawBlock)
  | footnote (label : Text) (body : List RawBlock)
  | fencedCode (language text : Text)
  | indentedCode (text : Text)
  | html (text : Text)
  | thematicBreak
  | table
  | definition (label target : Text)

inductive Leaf where
  | nothing
  | paragraph (lines : List Text)
  | fence (fence : Fence) (lines : List Text)
  | indentedCode (lines : List Text)
  | html (ending : HtmlEnding) (lines : List Text)
  | table

/-- The open blocks. Each level holds the blocks already closed in it, in order. -/
inductive Spine where
  | tip (done : List RawBlock) (leaf : Leaf)
  | nest (done : List RawBlock) (container : Container) (inner : Spine)

def paragraphSource (lines : List Text) : Text :=
  Text.trimEnd (Text.unlines (lines.map Text.trimStart))

def paragraphBlocks (source : Text) : List RawBlock × Option Text :=
  let (definitions, rest) := takeDefinitions source.length source
  let rest := Text.trimStart rest
  (definitions.map fun d => .definition d.1 d.2, if rest.isEmpty then none else some rest)

def Leaf.close : Leaf → List RawBlock
  | nothing => []
  | paragraph lines =>
    let (definitions, rest) := paragraphBlocks (paragraphSource lines)
    definitions ++ (rest.map .paragraph).toList
  | fence f lines => [.fencedCode f.language (Text.unlines lines)]
  | indentedCode lines =>
    [.indentedCode (Text.unlines (lines.reverse.dropWhile onlySpaces).reverse)]
  | html _ lines => [.html (Text.unlines lines)]
  | table => [.table]

def Container.close (body : List RawBlock) : Container → RawBlock
  | quote => .quote body
  | alert kind => .alert kind body
  | item marker => .item marker body
  | footnote label => .footnote label body

def Spine.close : Spine → List RawBlock
  | tip done leaf => done ++ leaf.close
  | nest done container inner => done ++ [container.close inner.close]

def Spine.isEmpty : Spine → Bool
  | tip [] .nothing => true
  | _ => false

/-- Past what a line must start with to continue a container, if it does. An item that is still
empty does not outlast a blank line. -/
def Container.continue? (inner : Spine) (c : Cursor) : Container → Option Cursor
  | quote | alert _ => quoteInside? c
  | item marker =>
    if c.isBlank && inner.isEmpty then none
    else if marker.offset ≤ c.indent then some (c.skip marker.offset)
    else if c.isBlank then some c.atText
    else none
  | footnote _ => if c.isBlank then some c else if c.indent = 0 then none else some (c.skip 4)

def htmlLine (done : List RawBlock) (ending : HtmlEnding) (lines : List Text) (line : Text) :
    Spine :=
  if ending.endsWith line then .tip (done ++ (Leaf.html ending (lines ++ [line])).close) .nothing
  else .tip done (.html ending (lines ++ [line]))

/-- Opens the blocks of a line behind those already closed. No line opens more containers than it
has characters, so `steps` may be its length. -/
def openLine (steps : Nat) (done : List RawBlock) (c : Cursor) : Spine :=
  match start? c with
  | none => .tip done (if c.isBlank then .nothing else .paragraph [c.rest])
  | some (.heading level source) => .tip (done ++ [.heading level source]) .nothing
  | some .thematicBreak => .tip (done ++ [.thematicBreak]) .nothing
  | some (.fence f) => .tip done (.fence f [])
  | some (.html ending) => htmlLine done ending [] c.rest
  | some .indentedCode => .tip done (.indentedCode [(c.skip 4).rest])
  | some (.inside container rest) =>
    match steps with
    | 0 => .nest done container (.tip [] .nothing)
    | steps + 1 => .nest done container (openLine steps [] rest)

def startLine (done : List RawBlock) (c : Cursor) : Spine := openLine c.rest.length done c

/-- The line after a paragraph's lines: the underline of a heading, the second row of a table, the
start of another block, or one more line of the paragraph. -/
def feedParagraph (done : List RawBlock) (lines : List Text) (c : Cursor) : Spine :=
  let closed := done ++ (Leaf.paragraph lines).close
  let more := Spine.tip done (.paragraph (lines ++ [c.rest]))
  if c.isBlank then .tip closed .nothing
  else if lines.getLast?.any (opensTable · c) then
    .tip (done ++ (Leaf.paragraph lines.dropLast).close) .table
  else
    match underline? c, paragraphBlocks (paragraphSource lines) with
    | some level, (definitions, some source) =>
      .tip (done ++ definitions ++ [.heading level source]) .nothing
    | some _, (definitions, none) => startLine (done ++ definitions) c
    | none, _ =>
      match start? c with
      | some start => if start.interrupts false c then startLine closed c else more
      | none => more

def feedLeaf (done : List RawBlock) (leaf : Leaf) (c : Cursor) : Spine :=
  match leaf with
  | .nothing => startLine done c
  | .paragraph lines => feedParagraph done lines c
  | .fence f lines =>
    if f.closes c then .tip (done ++ leaf.close) .nothing
    else .tip done (.fence f (lines ++ [(c.skip f.indent).rest]))
  | .indentedCode lines =>
    if c.isBlank || 4 ≤ c.indent then .tip done (.indentedCode (lines ++ [(c.skip 4).rest]))
    else startLine (done ++ leaf.close) c
  | .html ending lines =>
    match ending with
    | .after _ => htmlLine done ending lines c.rest
    | .atBlank | .loneTag =>
      if c.isBlank then .tip (done ++ leaf.close) .nothing else htmlLine done ending lines c.rest
  | .table =>
    if c.isBlank || (start? c).any (fun s => s.interrupts true c || 4 ≤ c.indent) then
      startLine (done ++ leaf.close) c
    else .tip done .table

def Spine.carryOn? (line : Text) : Spine → Option Spine
  | tip done (.paragraph lines) => some (tip done (.paragraph (lines ++ [line])))
  | tip _ _ => none
  | nest done container inner => (inner.carryOn? line).map (nest done container)

def carriesOn (c : Cursor) : Bool :=
  !c.isBlank && !(start? c).any (·.interrupts true c)

def Spine.feed (c : Cursor) : Spine → Spine
  | tip done leaf => feedLeaf done leaf c
  | nest done container inner =>
    match container.continue? inner c with
    | some rest => nest done container (inner.feed rest)
    | none =>
      match if carriesOn c then inner.carryOn? c.rest else none with
      | some carried => nest done container carried
      | none => startLine (done ++ [container.close inner.close]) c

def Spine.start : Spine := .tip [] .nothing

def skeleton (source : Text) : List RawBlock :=
  let feed (spine : Spine) (line : Text) : Spine := spine.feed { rest := line }
  ((sourceLines source).foldl feed .start).close

end HelpFile.Markdown
