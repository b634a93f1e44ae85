import HelpFile.Path
import HelpFile.Text.Case

/-!
# Layout options
-/
namespace HelpFile

inductive WidthError where
  | columns (width : Int)
  | tabs (width : Int)
  deriving DecidableEq

def WidthError.message : WidthError → String
  | columns width => "Column width must be positive, got " ++ toString width
  | tabs width => "Tab width must not be negative, got " ++ toString width

structure OptionsRequest where
  filename : Text := "doc.txt".toList
  description : Text := []
  columnWidth : Int := 80
  tabWidth : Int := 4
  showContents : Bool := true
  showRules : Bool := true
  pascal : Bool := false

structure Options extends OptionsRequest where
  columnWidth_pos : 0 < columnWidth
  tabWidth_nonneg : 0 ≤ tabWidth

def OptionsRequest.check (r : OptionsRequest) : Except WidthError Options :=
  if hc : 0 < r.columnWidth then
    if ht : 0 ≤ r.tabWidth then
      .ok { r with columnWidth_pos := hc, tabWidth_nonneg := ht }
    else .error (.tabs r.tabWidth)
  else .error (.columns r.columnWidth)

/-- The part of a help file's tags that names the document: the file name up to its last dot, in
lower case unless `pascal`. A name without a dot is used as it is. -/
def helpTitle (filename : Text) (pascal : Bool) : Text :=
  let name := (Path.ofText filename).name
  match Path.beforeLastDot? name with
  | none => name
  | some base => if pascal then base else Text.lower base

namespace Options

def basename (o : Options) : Text := (Path.ofText o.filename).name

def title (o : Options) : Text := helpTitle o.filename o.pascal

end Options
end HelpFile
