import HelpFile.Text.Basic

/-!
# Fixed-width layout

Indented blocks, lines with a right-hand part, and rules. Widths count characters; one that is
negative counts as zero.
-/
namespace HelpFile.Layout

/-- A viewer hides the two delimiters around a tag, so lines that end in one may be this much
longer. -/
def concealedTagWidth : Int := 2

def blanks (width : Int) : Text := Text.spaces width.toNat

def indentLine (width : Int) : Text → Text
  | [] => []
  | line => blanks width ++ line ++ ['\n']

/-- Indents by `tabWidth`. The first line stands after a marker of width `trim` that is already
written, so it is indented by that much less. -/
def indentBlock (text : Text) (tabWidth trim : Int) : Text :=
  match Text.lines text with
  | [] => []
  | first :: rest =>
    indentLine (max (tabWidth - trim) 0) first ++ rest.flatMap (indentLine tabWidth)

def gap (left right : Text) (columnWidth trim : Int) : Int :=
  max (columnWidth - (left.length + right.length) + trim) 1

def straddle (left right : Text) (columnWidth trim : Int) : Text :=
  left ++ blanks (gap left right columnWidth trim) ++ right ++ ['\n']

def rule (mark : Text) (columnWidth : Int) : Text :=
  (List.replicate columnWidth.toNat mark).flatten ++ ['\n']

end HelpFile.Layout
