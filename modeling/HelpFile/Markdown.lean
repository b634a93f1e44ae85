import HelpFile.Markdown.Reading
import HelpFile.Markdown.Skeleton

/-!
# Reading Markdown

A source becomes a skeleton of blocks first. With the definitions of the whole skeleton known, the
inline content of each block is read, and neighbouring items with the same marker become one list.
-/
namespace HelpFile.Markdown

mutual

def RawBlock.definitions : RawBlock → Definitions
  | .definition label target => { links := [(label, target)] }
  | .footnote label body =>
    let inner := definitionsOf body
    { inner with footnotes := label :: inner.footnotes }
  | .item _ body | .quote body | .alert _ body => definitionsOf body
  | _ => {}

def definitionsOf : List RawBlock → Definitions
  | [] => {}
  | b :: rest =>
    let first := b.definitions
    let more := definitionsOf rest
    { links := first.links ++ more.links, footnotes := first.footnotes ++ more.footnotes }

end

def task? : Text → Option (Bool × Text)
  | '[' :: c :: ']' :: rest =>
    if (Text.isBlank c || c == 'x' || c == 'X') && rest.head?.any Text.isBlank &&
        !Text.isVoid rest then
      some (!Text.isBlank c, rest)
    else none
  | _ => none

/-- Whether a list is loose makes no difference to the written text, so paragraphs do not record
it. -/
def readParagraph (d : Definitions) (source : Text) : Block :=
  match task? source with
  | some (checked, rest) => .paragraph (some checked) false (readInlines d rest)
  | none => .paragraph none false (readInlines d source)

inductive ListPart where
  | item (marker : ItemMarker) (body : List Block)
  | block (block : Block)

def ItemMarker.sameList (a b : ItemMarker) : Bool := a.ordered == b.ordered && a.sign == b.sign

/-- The blocks in order, with neighbouring items of one kind gathered into lists. The first item
found is kept open for the next. -/
def gatherItems (pending : Option (ItemMarker × List ListChild)) : List ListPart → List Block
  | [] => close
  | .block b :: rest => close ++ b :: gatherItems none rest
  | .item marker body :: rest =>
    match pending with
    | some (first, items) =>
      if first.sameList marker then gatherItems (some (first, items ++ [.item body])) rest
      else close ++ gatherItems (some (marker, [.item body])) rest
    | none => gatherItems (some (marker, [.item body])) rest
where
  close : List Block :=
    match pending with
    | some (first, items) => [.list first.ordered items]
    | none => []

mutual

def RawBlock.read (d : Definitions) : RawBlock → ListPart
  | .heading level source => .block (.heading level (readInlines d source))
  | .paragraph source => .block (readParagraph d source)
  | .item marker body => .item marker (gatherItems none (readParts d body))
  | .quote body => .block (.quote (gatherItems none (readParts d body)))
  | .alert kind body => .block (.alert kind (gatherItems none (readParts d body)))
  | .footnote _ _ => .block .footnoteDefinition
  | .fencedCode language text => .block (.fencedCode language text)
  | .indentedCode text => .block (.indentedCode text)
  | .html text => .block (.html text)
  | .thematicBreak => .block .thematicBreak
  | .table => .block .table
  | .definition _ _ => .block .linkDefinition

def readParts (d : Definitions) : List RawBlock → List ListPart
  | [] => []
  | b :: rest => b.read d :: readParts d rest

end

def read (source : Text) : List Block :=
  let blocks := skeleton source
  gatherItems none (readParts (definitionsOf blocks) blocks)

end HelpFile.Markdown
