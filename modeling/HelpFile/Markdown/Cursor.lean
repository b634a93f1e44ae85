import HelpFile.Text.Blank

/-!
# Lines and cursors

A source is cut into lines at line feeds, carriage returns and pairs of the two. A cursor is what is
left of a line, with the column where it starts; a tab reaches to the next multiple of four columns.
-/
namespace HelpFile.Markdown

/-- The lines of a source. A line end at the very end starts no further line. -/
def sourceLines (source : Text) : List Text :=
  let lines := Text.lines (Text.unifyLineEnds source)
  if lines.getLast? = some [] then lines.dropLast else lines

def isSpace (c : Char) : Bool := c == ' ' || c == '\t'

def skipSpaces (text : Text) : Text := text.dropWhile isSpace

def trimSpaces (text : Text) : Text := ((skipSpaces text).reverse.dropWhile isSpace).reverse

def onlySpaces (text : Text) : Bool := text.all isSpace

structure Cursor where
  column : Nat := 0
  rest : Text

namespace Cursor

def tabWidth (column : Nat) : Nat := 4 - column % 4

def indentFrom (column : Nat) : Text → Nat
  | ' ' :: rest => 1 + indentFrom (column + 1) rest
  | '\t' :: rest => tabWidth column + indentFrom (column + tabWidth column) rest
  | _ => 0

def indent (c : Cursor) : Nat := indentFrom c.column c.rest

def isBlank (c : Cursor) : Bool := onlySpaces c.rest

/-- Past at most `n` columns of white space. What is left of a tab counts as spaces. -/
def skip (n : Nat) (c : Cursor) : Cursor :=
  match n, c.rest with
  | 0, _ => c
  | n + 1, ' ' :: rest => skip n ⟨c.column + 1, rest⟩
  | n + 1, '\t' :: rest =>
    skip n ⟨c.column + 1, Text.spaces (tabWidth c.column - 1) ++ rest⟩
  | _ + 1, _ => c

def advance (n : Nat) (c : Cursor) : Cursor := ⟨c.column + n, c.rest.drop n⟩

def atText (c : Cursor) : Cursor := c.skip c.indent

end Cursor
end HelpFile.Markdown
