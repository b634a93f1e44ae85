import HelpFile.Text.Printable

/-!
# Quoted texts

A text as a message shows it: between quotes, with what cannot be printed written as escapes.
-/
namespace HelpFile.Text

/-- Single quotes, unless the text holds one and holds no double quote. -/
def quoteMark (text : Text) : Char :=
  if text.any (· == '\x27') && !text.any (· == '\x22') then '\x22' else '\x27'

def hex (width n : Nat) : Text :=
  let digits := Nat.toDigits 16 n
  List.replicate (width - digits.length) '0' ++ digits

def escapeChar (mark c : Char) : Text :=
  if c = mark || c = '\\' then ['\\', c]
  else if c = '\n' then ['\\', 'n']
  else if c = '\r' then ['\\', 'r']
  else if c = '\t' then ['\\', 't']
  else if isPrintable c then [c]
  else if c.toNat < 0x100 then '\\' :: 'x' :: hex 2 c.toNat
  else if c.toNat < 0x10000 then '\\' :: 'u' :: hex 4 c.toNat
  else '\\' :: 'U' :: hex 8 c.toNat

def quote (text : Text) : Text :=
  let mark := quoteMark text
  mark :: text.flatMap (escapeChar mark) ++ [mark]

def quoted (text : Text) : String := String.ofList (quote text)

end HelpFile.Text
