import HelpFile.Text.Basic

/-!
# Output buffers

A text with a write position. Truncating at a position beyond the end leaves the contents alone and
moves the position there; the next write fills the space between with null characters.
-/
namespace HelpFile

structure Buffer where
  contents : Text := []
  position : Nat := 0
  deriving DecidableEq

structure NegativePosition where
  position : Int
  deriving DecidableEq

def NegativePosition.message (e : NegativePosition) : String :=
  "Negative seek position " ++ toString e.position

namespace Buffer

/-- Writes at the position, over what may stand there; writing nothing does nothing. -/
def write (b : Buffer) (text : Text) : Buffer :=
  if text.isEmpty then b
  else
    { contents :=
        b.contents.take b.position ++ List.replicate (b.position - b.contents.length) '\x00' ++
          text ++ b.contents.drop (b.position + text.length)
      position := b.position + text.length }

def ofText (text : Text) : Buffer := ({} : Buffer).write text

def truncate (b : Buffer) (position : Nat) : Buffer where
  contents := b.contents.take position
  position := position

def truncateAt (b : Buffer) (position : Int) : Except NegativePosition Buffer :=
  if position < 0 then .error ⟨position⟩ else .ok (b.truncate position.toNat)

def since (b : Buffer) (position : Int) : Text :=
  b.contents.drop (if position < 0 then position + b.contents.length else position).toNat

def reset (b : Buffer) (text : Text) : Buffer := (b.truncate 0).write text

end Buffer
end HelpFile
