import HelpFile.Text.Basic

/-!
# Open lists

The lists being written, innermost last opened. A list keeps its number for life: its counter can
be read and advanced through that number after the list is closed.
-/
namespace HelpFile

inductive ListKind where
  | ordered
  | unordered
  deriving DecidableEq

inductive ListError where
  | closedNone
  | itemOutside
  deriving DecidableEq

def ListError.message : ListError → String
  | closedNone => "List closed while no list is open"
  | itemOutside => "List item rendered while no list is open"

structure ListContext where
  kind : ListKind
  nextIndex : Nat := 1
  deriving DecidableEq

namespace ListContext

def marker (c : ListContext) : Text :=
  match c.kind with
  | .unordered => ['*', ' ']
  | .ordered => Text.decimal c.nextIndex ++ ['.', ' ']

def advance (c : ListContext) : ListContext :=
  match c.kind with
  | .unordered => c
  | .ordered => { c with nextIndex := c.nextIndex + 1 }

end ListContext

/-- All lists in the order they were opened, and the numbers of the open ones, innermost first. -/
structure ListStack where
  contexts : List ListContext := []
  openLists : List Nat := []
  deriving DecidableEq

namespace ListStack

def depth (s : ListStack) : Nat := s.openLists.length

def openContexts (s : ListStack) : List ListContext := s.openLists.filterMap (s.contexts[·]?)

def push (s : ListStack) (kind : ListKind) : ListStack where
  contexts := s.contexts ++ [{ kind }]
  openLists := s.contexts.length :: s.openLists

def peek (s : ListStack) : Except ListError Nat :=
  match s.openLists with
  | [] => .error .itemOutside
  | i :: _ => .ok i

def pop (s : ListStack) : Except ListError (Nat × ListStack) :=
  match s.openLists with
  | [] => .error .closedNone
  | i :: rest => .ok (i, { s with openLists := rest })

def drawFrom (s : ListStack) (i : Nat) : Text × ListStack :=
  match s.contexts[i]? with
  | none => ([], s)
  | some c => (c.marker, { s with contexts := s.contexts.set i c.advance })

def draw (s : ListStack) : Except ListError (Text × ListStack) :=
  s.peek.map s.drawFrom

end ListStack
end HelpFile
