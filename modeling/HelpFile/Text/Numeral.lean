import HelpFile.Text.Blank
import HelpFile.Text.Digit

/-!
# Whole numbers

Reading decimal numbers. A numeral may stand between blanks, have a sign and single underscores
between its digits, and use the digits of any script.
-/
namespace HelpFile.Text

/-- Blanks allowed around a numeral: all but the ASCII separators. -/
def isNumeralBlank (c : Char) : Bool := isBlank c && !inRanges [(0x1C, 0x1F)] c

def readDigits (value : Nat) : Text → Option Nat
  | [] => none
  | [c] => (digitValue? c).map (value * 10 + ·)
  | c :: '_' :: rest => (digitValue? c).bind fun d => readDigits (value * 10 + d) rest
  | c :: d :: rest => (digitValue? c).bind fun v => readDigits (value * 10 + v) (d :: rest)

def readInt? (text : Text) : Option Int :=
  let body := ((text.dropWhile isNumeralBlank).reverse.dropWhile isNumeralBlank).reverse
  match body with
  | '+' :: digits => (readDigits 0 digits).map Int.ofNat
  | '-' :: digits => (readDigits 0 digits).map fun n => -Int.ofNat n
  | digits => (readDigits 0 digits).map Int.ofNat

end HelpFile.Text
