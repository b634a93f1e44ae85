/-!
# Texts

A text is a list of characters. Line feeds separate its lines, so a text has one line more than
it has line feeds.
-/
namespace HelpFile

abbrev Text := List Char

namespace Text

def spaces (n : Nat) : Text := List.replicate n ' '

def lines : Text → List Text
  | [] => [[]]
  | c :: rest =>
    if c = '\n' then [] :: lines rest
    else match lines rest with
      | [] => [[c]]
      | line :: more => (c :: line) :: more

def unlines : List Text → Text
  | [] => []
  | [line] => line
  | line :: more => line ++ '\n' :: unlines more

/-- Carriage returns, alone or before a line feed, become line feeds. -/
def unifyLineEnds : Text → Text
  | '\r' :: '\n' :: rest => '\n' :: unifyLineEnds rest
  | c :: rest => (if c = '\r' then '\n' else c) :: unifyLineEnds rest
  | [] => []

def after? : (start text : Text) → Option Text
  | [], text => some text
  | _ :: _, [] => none
  | s :: start, c :: text => if s = c then after? start text else none

def startsWith (start text : Text) : Bool := (after? start text).isSome

def hasPart (part : Text) : Text → Bool
  | [] => part.isEmpty
  | c :: rest => startsWith part (c :: rest) || hasPart part rest

def splitOn (separator : Char) : Text → List Text
  | [] => [[]]
  | c :: rest =>
    if c = separator then [] :: splitOn separator rest
    else match splitOn separator rest with
      | [] => [[c]]
      | part :: more => (c :: part) :: more

def decimal (n : Nat) : Text := Nat.toDigits 10 n

def inRanges (ranges : List (Nat × Nat)) (c : Char) : Bool :=
  ranges.any fun r => r.1 ≤ c.toNat && c.toNat ≤ r.2

end Text
end HelpFile
