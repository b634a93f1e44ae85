import HelpFile.Proofs.Numbering

/-!
# Places in a document

A place is a document with one block left out, together with the containers that the block is in.
Every block that a document writes has a place, and any other block can be put there instead.
-/
namespace HelpFile

/-- What blocks can stand in. The items before and after theirs belong to the place of blocks in a
list item. -/
inductive Container where
  | quote
  | alert (kind : Text)
  | item (ordered : Bool) (earlier later : List ListChild)
  | group

namespace Container

def around (body : List Block) : Container → Block
  | quote => .quote body
  | alert kind => .alert kind body
  | item ordered earlier later => .list ordered (earlier ++ .item body :: later)
  | group => .group body

/-- A group writes its blocks as they are. -/
def levels : Container → Nat
  | quote | alert _ | item .. => 1
  | group => 0

end Container

inductive Place where
  | among (before after : List Block)
  | inside (before : List Block) (container : Container) (inner : Place) (after : List Block)

namespace Place

def fill (b : Block) : Place → List Block
  | among before after => before ++ b :: after
  | inside before container inner after => before ++ container.around (inner.fill b) :: after

def depth : Place → Nat
  | among .. => 0
  | inside _ container inner _ => inner.depth + container.levels

theorem exists_fill_cons {b : Block} {blocks : List Block} (h : ∃ place : Place, place.fill b = blocks)
    (first : Block) : ∃ place : Place, place.fill b = first :: blocks := by
  obtain ⟨place, rfl⟩ := h
  cases place with
  | among before after => exact ⟨among (first :: before) after, rfl⟩
  | inside before container inner after =>
    exact ⟨inside (first :: before) container inner after, rfl⟩

mutual

theorem mem_parts : (b : Block) → {c : Block} → c ∈ b.parts →
    c = b ∨ ∃ (k : Container) (inner : Place), k.around (inner.fill c) = b
  | .list ordered children, c, h => by
    rcases List.mem_cons.mp h with rfl | h
    · exact Or.inl rfl
    · obtain ⟨earlier, inner, later, hc⟩ := mem_partsOfItems children h
      exact Or.inr ⟨.item ordered earlier later, inner, congrArg (Block.list ordered) hc⟩
  | .quote body, c, h => by
    rcases List.mem_cons.mp h with rfl | h
    · exact Or.inl rfl
    · obtain ⟨inner, rfl⟩ := mem_partsOfAll body h
      exact Or.inr ⟨.quote, inner, rfl⟩
  | .alert kind body, c, h => by
    rcases List.mem_cons.mp h with rfl | h
    · exact Or.inl rfl
    · obtain ⟨inner, rfl⟩ := mem_partsOfAll body h
      exact Or.inr ⟨.alert kind, inner, rfl⟩
  | .group body, c, h => by
    rcases List.mem_cons.mp h with rfl | h
    · exact Or.inl rfl
    · obtain ⟨inner, rfl⟩ := mem_partsOfAll body h
      exact Or.inr ⟨.group, inner, rfl⟩
  | .heading .., _, h | .paragraph .., _, h | .fencedCode .., _, h | .indentedCode _, _, h
  | .html _, _, h | .thematicBreak, _, h | .blankLine, _, h | .linkDefinition, _, h
  | .table, _, h | .footnoteDefinition, _, h | .inline _, _, h =>
    Or.inl (List.mem_singleton.mp h)

/-- Every block that a document writes has its place in it. -/
theorem mem_partsOfAll : (blocks : List Block) → {c : Block} → c ∈ Block.partsOfAll blocks →
    ∃ place : Place, place.fill c = blocks
  | [], _, h => by simp [Block.partsOfAll] at h
  | b :: rest, c, h => by
    rcases List.mem_append.mp h with h | h
    · rcases mem_parts b h with rfl | ⟨k, inner, rfl⟩
      · exact ⟨among [] rest, rfl⟩
      · exact ⟨inside [] k inner rest, rfl⟩
    · exact exists_fill_cons (mem_partsOfAll rest h) b

theorem mem_partsOfItems : (children : List ListChild) → {c : Block} →
    c ∈ Block.partsOfItems children →
    ∃ (earlier : List ListChild) (inner : Place) (later : List ListChild),
      earlier ++ .item (inner.fill c) :: later = children
  | [], _, h => by simp [Block.partsOfItems] at h
  | .item body :: rest, c, h => by
    rcases List.mem_append.mp h with h | h
    · obtain ⟨inner, rfl⟩ := mem_partsOfAll body h
      exact ⟨[], inner, rest, rfl⟩
    · obtain ⟨earlier, inner, later, rfl⟩ := mem_partsOfItems rest h
      exact ⟨.item body :: earlier, inner, later, rfl⟩
  | .other b :: rest, c, h => by
    obtain ⟨earlier, inner, later, rfl⟩ := mem_partsOfItems rest h
    exact ⟨.other b :: earlier, inner, later, rfl⟩

end

end Place

end HelpFile
