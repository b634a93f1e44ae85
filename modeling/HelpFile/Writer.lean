import HelpFile.Buffer
import HelpFile.Delimiter
import HelpFile.ListStack
import HelpFile.Notice
import HelpFile.Options
import HelpFile.Tag
import HelpFile.Text.Blank

/-!
# The help-file writer

The writer assembles one help file from the elements of a document, in document order. A page is the
writer at work on one buffer: the document itself, or the private buffer of a container whose text
lands in the document later. The footer inserts the table of contents in front of the first heading
and moves block delimiters to column zero.
-/
namespace HelpFile

structure Fragment where
  text : Text
  notices : List Notice := []
  shown : Bool

namespace Fragment

def ofText (text : Text) (notices : List Notice) : Fragment where
  text := text
  notices := notices
  shown := !Text.isVoid text

end Fragment

/-- The state of one document, with the notices of the documents before it in `reported`. -/
structure Writer where
  options : Options
  contentsAt : Option Nat := none
  outline : Outline := .empty
  lists : ListStack := {}
  notices : List Notice := []
  reported : List Notice := []

namespace Writer

def tag (w : Writer) (text : Text) : Text :=
  Tag.ofHeading w.options.title text w.options.pascal

def notify (w : Writer) (notices : List Notice) : Writer :=
  { w with notices := w.notices ++ notices, reported := w.reported ++ notices }

/-- Everything a document leaves behind is forgotten; what was reported stays reported. -/
def restart (w : Writer) : Writer where
  options := w.options
  reported := w.reported

def contentsStyle (w : Writer) : ContentsStyle where
  tagOf := w.tag
  columnWidth := w.options.columnWidth
  tabWidth := w.options.tabWidth

def ruleMark? (level : Int) : Option Text :=
  if level = 1 then some ['='] else if level = 2 then some ['-'] else none

def headingRule (w : Writer) (level : Int) : Text :=
  match if w.options.showRules then ruleMark? level else none with
  | some mark => Layout.rule mark w.options.columnWidth
  | none => []

def headingLine (w : Writer) (text : Text) : Text :=
  Layout.straddle (Text.upper text) ('*' :: w.tag text ++ ['*']) w.options.columnWidth
    Layout.concealedTagWidth ++ ['\n']

def headerText (w : Writer) : Text :=
  let o := w.options
  (if o.description.isEmpty then o.basename ++ ['\n']
  else Layout.straddle o.basename o.description o.columnWidth 0) ++ ['\n']

def withContents (w : Writer) (text : Text) : Text :=
  match w.contentsAt, w.outline.root?, w.options.showContents with
  | some offset, some root, true =>
    text.take offset ++ w.contentsStyle.contents 0 root ++ '\n' :: text.drop offset
  | _, _, _ => text

def literalBlock (w : Writer) (text : Text) : Text :=
  '>' :: '\n' :: Layout.indentBlock text w.options.tabWidth 0 ++ ['<', '\n', '\n']

def itemText (w : Writer) (marker text : Text) : Text :=
  match Layout.indentBlock text w.options.tabWidth marker.length with
  | [] => Text.trimEnd marker ++ ['\n']
  | body => marker ++ body

end Writer

/-- A writer at work on the buffer `out`. If that is not the document's own buffer, `landing` is the
position in the document where its text will land. -/
structure Page where
  writer : Writer
  out : Buffer := {}
  landing : Option Nat := none

namespace Page

def write (p : Page) (text : Text) : Page := { p with out := p.out.write text }

def notify (p : Page) (notices : List Notice) : Page :=
  { p with writer := p.writer.notify notices }

def inner (p : Page) : Page where
  writer := p.writer
  landing := some (p.landing.getD p.out.position)

/-- Back on this page, with the writer as the container's page left it. -/
def resume (p q : Page) : Page := { p with writer := q.writer }

def header (p : Page) : Page where
  writer := p.writer.restart
  out := p.out.write p.writer.headerText

def footer (p : Page) : Page :=
  { p with out := p.out.reset (Delimiter.flushLeft (p.writer.withContents p.out.contents)) }

/-- A heading's rule is written first and taken back when the heading shows nothing. The first
heading of a document marks the place of the table of contents. -/
def heading (p : Page) (content : Fragment) (level : Int) : Page :=
  let start := p.out.position
  let ruled := (p.write (p.writer.headingRule level)).notify content.notices
  let textAt := ruled.out.position
  let written := ruled.write content.text
  if !content.shown then { written with out := written.out.truncate start }
  else
    let text := written.out.since textAt
    let (outline, problem) := written.writer.outline.add text level
    let placed : Writer :=
      { written.writer with
        contentsAt := written.writer.contentsAt.or (some (p.landing.getD start))
        outline }
    let noted := placed.notify (problem.map Notice.heading).toList
    let page : Page := { written with writer := noted, out := written.out.truncate textAt }
    page.write (noted.headingLine text)

/-- A paragraph that shows nothing is taken back; any other is followed by an empty line, which a
tight one does without. -/
def paragraph (p : Page) (content : Fragment) (tight : Bool) : Page :=
  let start := p.out.position
  let written := (p.notify content.notices).write content.text
  if !content.shown then { written with out := written.out.truncate start }
  else written.write (if tight then ['\n'] else ['\n', '\n'])

def openList (p : Page) (ordered : Bool) : Page :=
  let kind : ListKind := if ordered then .ordered else .unordered
  { p with writer := { p.writer with lists := p.writer.lists.push kind } }

def closeList (p : Page) : Except ListError Page := do
  let (_, lists) ← p.writer.lists.pop
  return { p with writer := { p.writer with lists } }

def listItem (p : Page) (text : Text) (last : Bool) : Except ListError Page := do
  let (marker, lists) ← p.writer.lists.draw
  let drawn : Page := { p with writer := { p.writer with lists } }
  let written := drawn.write (p.writer.itemText marker text)
  return if last then written.write ['\n'] else written

def literalBlock (p : Page) (text : Text) : Page := p.write (p.writer.literalBlock text)

def alert (p : Page) (kind text : Text) : Page := p.literalBlock (kind ++ ':' :: '\n' :: text)

def thematicBreak (p : Page) : Page := p.write (Layout.rule ['-'] p.writer.options.columnWidth)

end Page
end HelpFile
