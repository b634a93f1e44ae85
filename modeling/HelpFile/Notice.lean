import HelpFile.Outline
import HelpFile.Text.Quoted

/-!
# Notices

What a reader of the help file will miss. Writing never stops for these; they are collected and
handed back with the text.
-/
namespace HelpFile

inductive NoticeKind where
  | hierarchy
  | unsupported
  deriving DecidableEq

inductive Notice where
  | heading (problem : HeadingProblem)
  | table
  | footnoteDefinition
  | footnoteReference (label : Text)
  | titleBlock
  | image (target : Text)
  | rawHtml (tag : Text)
  deriving DecidableEq

def HeadingProblem.message : HeadingProblem → String
  | topLevel text level =>
    s!"Top-level heading {Text.quoted text} is a level {level} heading, not level 1"
  | notBelowRoot text level root rootLevel =>
    s!"Heading {Text.quoted text} (level {level}) is at or above the level of " ++
      s!"the root heading {Text.quoted root} (level {rootLevel})"

namespace Notice

def kind : Notice → NoticeKind
  | heading _ => .hierarchy
  | _ => .unsupported

def construct : Notice → String
  | heading _ => "heading"
  | table => "table"
  | footnoteDefinition | footnoteReference _ => "footnote"
  | titleBlock => "title_block"
  | image _ => "image"
  | rawHtml _ => "raw_html"

def message : Notice → String
  | heading problem => problem.message
  | table => omitted "Table"
  | footnoteDefinition => omitted "Footnote definition"
  | footnoteReference label => omitted s!"Footnote reference {Text.quoted label}"
  | titleBlock => omitted "Title block"
  | image target => omitted s!"Image {Text.quoted target}"
  | rawHtml tag => omitted s!"Inline HTML {Text.quoted tag}"
where
  omitted (what : String) : String :=
    what ++ " cannot be represented in a help file and was omitted"

end Notice
end HelpFile
