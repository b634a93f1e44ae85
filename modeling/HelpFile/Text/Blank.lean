import HelpFile.Text.Basic

/-!
# Blank characters

White space in the widest sense: ASCII blanks and separators, the next-line control, the no-break
space and the spaces of the typographic blocks. The zero-width space is not blank.
-/
namespace HelpFile.Text

def blankRanges : List (Nat × Nat) := [
  (0x9, 0xD), (0x1C, 0x20), (0x85, 0x85), (0xA0, 0xA0), (0x1680, 0x1680), (0x2000, 0x200A),
  (0x2028, 0x2029), (0x202F, 0x202F), (0x205F, 0x205F), (0x3000, 0x3000)]

def isBlank (c : Char) : Bool := inRanges blankRanges c

def isVoid (text : Text) : Bool := text.all isBlank

def trimStart (text : Text) : Text := text.dropWhile isBlank

def trimEnd (text : Text) : Text := (text.reverse.dropWhile isBlank).reverse

def trim (text : Text) : Text := trimEnd (trimStart text)

end HelpFile.Text
