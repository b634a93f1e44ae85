import HelpFile.Text.Case
import HelpFile.Text.Word

/-!
# Tags

A heading's tag is the document title, a dash and the slug of the heading. The body's `*tag*` and
the table of contents' `|tag|` use the same function. Punctuation is kept as it is.
-/
namespace HelpFile.Tag

/-- Raises the first character of every run of word characters; `before` tells whether the
character in front is one. -/
def capitalizeFrom (before : Bool) : Text → Text
  | [] => []
  | c :: rest =>
    (if !before && Text.isWord c then Text.upperMap.apply c else [c]) ++
      capitalizeFrom (Text.isWord c) rest

def capitalize (text : Text) : Text := capitalizeFrom false text

def slug (text : Text) (pascal : Bool) : Text :=
  if pascal then (capitalize text).filter (· != ' ')
  else (Text.lower text).map fun c => if c = ' ' then '_' else c

def ofHeading (title text : Text) (pascal : Bool) : Text := title ++ '-' :: slug text pascal

end HelpFile.Tag
