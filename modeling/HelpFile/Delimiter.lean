import HelpFile.Text.Basic

/-!
# Block delimiters

A literal block stands between a line `>` and a line `<`. Nesting indents these lines, and a viewer
knows them only in column zero, so the finished text is swept once more. The sweep walks the text
from left to right; `flushLines` says the same line by line.
-/
namespace HelpFile.Delimiter

def isMark (c : Char) : Bool := c == '>' || c == '<'

def isPadding (c : Char) : Bool := c == ' ' || c == '\t'

/-- The mark at the start of a text whose first line holds one mark and padding only, with the
text after that line. -/
def markLine? (text : Text) : Option (Char × Text) :=
  match text.dropWhile isPadding with
  | [] => none
  | c :: rest =>
    if isMark c then
      match rest.dropWhile isPadding with
      | [] => some (c, [])
      | d :: more => if d = '\n' then some (c, d :: more) else none
    else none

theorem length_dropWhile_padding (text : Text) :
    (text.dropWhile isPadding).length ≤ text.length :=
  (List.dropWhile_sublist _).length_le

theorem markLine?_length {text after : Text} {mark : Char}
    (h : markLine? text = some (mark, after)) : after.length < text.length := by
  unfold markLine? at h
  split at h
  · simp at h
  next c rest hc =>
    have outer := length_dropWhile_padding text
    have inner := length_dropWhile_padding rest
    rw [hc, List.length_cons] at outer
    split at h
    · split at h
      · simp only [Option.some.injEq, Prod.mk.injEq] at h
        simp only [← h.2, List.length_nil]
        omega
      · next d more hd =>
        rw [hd] at inner
        split at h
        · simp only [Option.some.injEq, Prod.mk.injEq] at h
          rw [← h.2]
          omega
        · simp at h
    · simp at h

/-- The sweep from a position of the text; `atStart` tells whether a line starts there. -/
def sweep (atStart : Bool) (text : Text) : Text :=
  match text with
  | [] => []
  | c :: rest =>
    if atStart then
      match _h : markLine? (c :: rest) with
      | some (mark, after) => mark :: sweep false after
      | none => c :: sweep (c == '\n') rest
    else c :: sweep (c == '\n') rest
termination_by text.length
decreasing_by
  · exact markLine?_length ‹_›
  all_goals simp

def flushLeft (text : Text) : Text := sweep true text

def flushLine (line : Text) : Text :=
  match line.dropWhile isPadding with
  | c :: rest => if isMark c && rest.all isPadding then [c] else line
  | [] => line

def flushLines (text : Text) : Text := Text.unlines ((Text.lines text).map flushLine)

end HelpFile.Delimiter
