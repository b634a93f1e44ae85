import HelpFile.Layout

/-!
# Heading outline and table of contents

Headings arrive in document order. The first is the root. A later heading that is deeper than the
current one becomes its child; any other becomes the current heading and is not linked to the tree,
so what follows below it is missing from the table of contents.
-/
namespace HelpFile

inductive Heading where
  | node (text : Text) (level : Int) (children : List Heading)

namespace Heading

def text : Heading → Text
  | node text _ _ => text

def level : Heading → Int
  | node _ level _ => level

def children : Heading → List Heading
  | node _ _ children => children

def addChild : (parent child : Heading) → Heading
  | node text level children, child => node text level (children ++ [child])

end Heading

/-- A heading that does not fit the hierarchy; it is placed all the same. -/
inductive HeadingProblem where
  | topLevel (text : Text) (level : Int)
  | notBelowRoot (text : Text) (level : Int) (root : Text) (rootLevel : Int)
  deriving DecidableEq

inductive Outline where
  | empty
  | rooted (root : Heading)
  | detached (root current : Heading)

namespace Outline

def root? : Outline → Option Heading
  | empty => none
  | rooted root => some root
  | detached root _ => some root

def current? : Outline → Option Heading
  | empty => none
  | rooted root => some root
  | detached _ current => some current

def place (heading : Heading) : Outline → Outline
  | empty => rooted heading
  | rooted root =>
    if heading.level ≤ root.level then detached root heading else rooted (root.addChild heading)
  | detached root current =>
    if heading.level ≤ current.level then detached root heading
    else detached root (current.addChild heading)

def problem? (text : Text) (level : Int) : Outline → Option HeadingProblem
  | empty => if level = 1 then none else some (.topLevel text level)
  | rooted root | detached root _ =>
    if level ≤ root.level then some (.notBelowRoot text level root.text root.level) else none

def add (o : Outline) (text : Text) (level : Int) : Outline × Option HeadingProblem :=
  (o.place (.node text level []), o.problem? text level)

end Outline

structure ContentsStyle where
  tagOf : Text → Text
  columnWidth : Int
  tabWidth : Int

namespace ContentsStyle

def entry (s : ContentsStyle) (depth : Int) (text : Text) : Text :=
  Layout.straddle (Layout.blanks (depth * s.tabWidth) ++ text) ('|' :: s.tagOf text ++ ['|'])
    s.columnWidth Layout.concealedTagWidth

mutual

def contents (s : ContentsStyle) (depth : Int) : Heading → Text
  | .node text _ children => s.entry depth text ++ s.contentsOf (depth + 1) children

def contentsOf (s : ContentsStyle) (depth : Int) : List Heading → Text
  | [] => []
  | h :: rest => s.contents depth h ++ s.contentsOf depth rest

end

end ContentsStyle
end HelpFile
