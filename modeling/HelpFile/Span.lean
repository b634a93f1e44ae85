import HelpFile.Notice
import HelpFile.Text.Blank

/-!
# Spans

What the marked-up parts of inline content become. Spans that a help file cannot show give no text
and one notice; the others give text only.
-/
namespace HelpFile.Span

def backtick : Char := '\x60'

/-- Code that holds white space is not shown: a viewer would not highlight it as one piece. -/
def code (text : Text) : Text :=
  if text.any Text.isBlank then [] else backtick :: text ++ [backtick]

def link (target content : Text) : Text := content ++ ' ' :: '(' :: target ++ [')']

def taskMarker (checked : Bool) : Text := ['[', if checked then 'x' else ' ', ']']

def lineBreak : Text := ['\n']

end HelpFile.Span

namespace HelpFile

inductive Piece where
  | text (text : Text)
  | sequence (parts : List Piece)
  | plain (content : Piece)
  | code (content : Piece)
  | link (target content : Piece)
  | image (target content : Piece)
  | rawHtml (tag : Piece)
  | footnoteReference (label : Piece)
  | task (checked : Bool)
  | lineBreak

namespace Piece

mutual

def render : Piece → Text
  | text t => t
  | sequence parts => renderAll parts
  | plain content => content.render
  | code content => Span.code content.render
  | link target content => Span.link target.render content.render
  | image _ _ | rawHtml _ | footnoteReference _ => []
  | task checked => Span.taskMarker checked
  | lineBreak => Span.lineBreak

def renderAll : List Piece → Text
  | [] => []
  | p :: rest => p.render ++ renderAll rest

end

mutual

def notices : Piece → List Notice
  | text _ | task _ | lineBreak => []
  | sequence parts => noticesOfAll parts
  | plain content | code content => content.notices
  | link target content => target.notices ++ content.notices
  | image target content => target.notices ++ content.notices ++ [.image target.render]
  | rawHtml tag => tag.notices ++ [.rawHtml tag.render]
  | footnoteReference label => label.notices ++ [.footnoteReference label.render]

def noticesOfAll : List Piece → List Notice
  | [] => []
  | p :: rest => p.notices ++ noticesOfAll rest

end

end Piece
end HelpFile
