import HelpFile.Text.Basic

/-!
# Documents

A document is a list of blocks. Containers hold blocks, headings and paragraphs hold inlines, and
the items of a list hold blocks. Elements that a help file never shows carry no contents.
-/
namespace HelpFile

inductive Inline where
  | text (text : Text)
  | code (text : Text)
  | html (tag : Text)
  | lineBreak
  | emphasis (content : List Inline)
  | strong (content : List Inline)
  | strikethrough (content : List Inline)
  | link (target : Text) (content : List Inline)
  | image (target : Text) (content : List Inline)
  | autoLink (content : List Inline)
  | url (content : List Inline)
  | footnoteReference (label : Text)
  /-- An element with no form of its own: its contents are shown. -/
  | group (content : List Inline)

mutual

inductive Block where
  | heading (level : Int) (content : List Inline)
  /-- A task paragraph tells whether its box is checked. -/
  | paragraph (task : Option Bool) (tight : Bool) (content : List Inline)
  | list (ordered : Bool) (children : List ListChild)
  | quote (body : List Block)
  | alert (kind : Text) (body : List Block)
  | fencedCode (language text : Text)
  | indentedCode (text : Text)
  | html (text : Text)
  | thematicBreak
  | blankLine
  | linkDefinition
  | table
  | footnoteDefinition
  /-- A list item outside a list, or a part of a table: its blocks are written in its place. -/
  | group (body : List Block)
  /-- Inline content among blocks is not shown. -/
  | inline (content : Inline)

/-- A list may hold blocks that are not items; they are not written. -/
inductive ListChild where
  | item (body : List Block)
  | other (block : Block)

end

def ListChild.isItem : ListChild → Bool
  | item _ => true
  | other _ => false

end HelpFile
