import HelpFile.Text.Basic

/-!
# File paths

A path is a root and the names between its slashes. Empty names and single dots are dropped; double
dots stay.
-/
namespace HelpFile

structure Path where
  root : Text := []
  names : List Text
  deriving DecidableEq

namespace Path

/-- Exactly two leading slashes are a root of their own; more count as one. -/
def rootOf : Text → Text
  | '/' :: '/' :: '/' :: _ => ['/']
  | '/' :: '/' :: _ => ['/', '/']
  | '/' :: _ => ['/']
  | _ => []

def ofText (text : Text) : Path where
  root := rootOf text
  names := (Text.splitOn '/' text).filter fun n => n ≠ [] && n ≠ ['.']

def isAbsolute (p : Path) : Bool := !p.root.isEmpty

def joinNames : List Text → Text
  | [] => []
  | [n] => n
  | n :: rest => n ++ '/' :: joinNames rest

def toText (p : Path) : Text :=
  match p.root ++ joinNames p.names with
  | [] => ['.']
  | text => text

def name (p : Path) : Text := p.names.getLast?.getD []

def parent (p : Path) : Path := { p with names := p.names.dropLast }

def beforeLastDot? (name : Text) : Option Text :=
  if name.any (· == '.') then some ((name.reverse.dropWhile (· != '.')).drop 1).reverse else none

/-- The name without its extension; a leading or a final dot starts none. -/
def stem (p : Path) : Text :=
  match beforeLastDot? p.name with
  | none | some [] => p.name
  | some base => if p.name = base ++ ['.'] then p.name else base

end Path
end HelpFile
