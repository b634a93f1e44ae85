import HelpFile.Text.CaseTable

/-!
# Upper and lower case

Case mapping by the full tables: a character may become several. The only mapping that looks at
its neighbours is the Greek capital sigma, which becomes a final sigma at the end of a word.
-/
namespace HelpFile.Text

def upper (text : Text) : Text := text.flatMap upperMap.apply

def fold (text : Text) : Text := text.flatMap foldMap.apply

/-- Whether the nearest character that is not ignorable has a case. -/
def nextIsCased : Text → Bool
  | [] => false
  | c :: rest => if inRanges caseIgnorableRanges c then nextIsCased rest else inRanges casedRanges c

/-- Lower case of the second text, where the first holds the characters before it, nearest first. -/
def lowerAfter (before : Text) : Text → Text
  | [] => []
  | c :: rest =>
    (if c = 'Σ' then
      if nextIsCased before && !nextIsCased rest then ['ς'] else ['σ']
    else lowerMap.apply c) ++ lowerAfter (c :: before) rest

def lower (text : Text) : Text := lowerAfter [] text

end HelpFile.Text
