import HelpFile.Document
import HelpFile.Span
import HelpFile.Writer

/-!
# Writing a document

Inlines have a text and notices. Blocks are written on a page, in order; a container's blocks are
written on an inner page first, whose text then becomes an item or a literal block.
-/
namespace HelpFile

namespace Inline

mutual

def render : Inline → Text
  | text t => t
  | code t => Span.code t
  | html _ | image _ _ | footnoteReference _ => []
  | lineBreak => Span.lineBreak
  | emphasis content | strong content | strikethrough content | autoLink content | url content
  | group content => renderAll content
  | link target content => Span.link target (renderAll content)

def renderAll : List Inline → Text
  | [] => []
  | i :: rest => i.render ++ renderAll rest

end

mutual

def notices : Inline → List Notice
  | text _ | code _ | lineBreak => []
  | html tag => [.rawHtml tag]
  | footnoteReference label => [.footnoteReference label]
  | emphasis content | strong content | strikethrough content | autoLink content | url content
  | group content | link _ content => noticesOfAll content
  | image target content => noticesOfAll content ++ [.image target]

def noticesOfAll : List Inline → List Notice
  | [] => []
  | i :: rest => i.notices ++ noticesOfAll rest

end

end Inline

namespace Block

def fragment (task : Option Bool) (content : List Inline) : Fragment :=
  let box := match task with
    | some checked => Span.taskMarker checked
    | none => []
  .ofText (box ++ Inline.renderAll content) (Inline.noticesOfAll content)

mutual

def write (p : Page) : Block → Except ListError Page
  | heading level content => .ok (p.heading (fragment none content) level)
  | paragraph task tight content => .ok (p.paragraph (fragment task content) tight)
  | list ordered children => do
    let written ← writeItems (p.openList ordered) children
    written.closeList
  | quote body => do
    let inner ← writeAll p.inner body
    return (p.resume inner).literalBlock inner.out.contents
  | alert kind body => do
    let inner ← writeAll p.inner body
    return (p.resume inner).alert kind inner.out.contents
  | fencedCode _ text | indentedCode text | html text => .ok (p.literalBlock text)
  | thematicBreak => .ok p.thematicBreak
  | blankLine | linkDefinition => .ok p
  | table => .ok (p.notify [.table])
  | footnoteDefinition => .ok (p.notify [.footnoteDefinition])
  | group body => writeAll p body
  | inline content => .ok (p.notify content.notices)

def writeAll (p : Page) : List Block → Except ListError Page
  | [] => .ok p
  | b :: rest => do
    let written ← b.write p
    writeAll written rest

/-- Writes the items of a list; each is rendered before its marker is drawn. -/
def writeItems (p : Page) : List ListChild → Except ListError Page
  | [] => .ok p
  | .item body :: rest => do
    let inner ← writeAll p.inner body
    let written ← (p.resume inner).listItem inner.out.contents (!rest.any ListChild.isItem)
    writeItems written rest
  | .other _ :: rest => writeItems p rest

end

end Block

/-- Writes a document from header to footer. The writer comes back with the state the document left,
so that further documents can follow. -/
def Writer.document (w : Writer) (blocks : List Block) : Except ListError (Text × Writer) := do
  let written ← Block.writeAll (Page.header { writer := w }) blocks
  let finished := written.footer
  return (finished.out.contents, finished.writer)

end HelpFile
