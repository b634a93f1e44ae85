import HelpFile.Proofs.Writing

/-!
# What a document writes

A finished document is its header and the rows of its blocks, with a table of contents in between
the rows if one is asked for. The rows of a block do not depend on the blocks around it, and the
sweep over the finished text treats every row on its own.
-/
namespace HelpFile

namespace Row

def flush (r : Row) : Row where
  purpose := r.purpose
  text := Delimiter.flushLine r.text
  newline_not_mem := Delimiter.newline_not_mem_flushLine r.newline_not_mem

@[simp] theorem flush_text (r : Row) : r.flush.text = Delimiter.flushLine r.text := rfl

theorem flushLeft_textOf (rows : List Row) :
    Delimiter.flushLeft (textOf rows) = textOf (rows.map flush) := by
  have h : ∀ l ∈ rows.map text, '\n' ∉ l := by
    intro l hl
    obtain ⟨r, -, rfl⟩ := List.mem_map.mp hl
    exact r.newline_not_mem
  rw [textOf, Delimiter.flushLeft_ofLines h, textOf, List.map_map, List.map_map]
  rfl

end Row

namespace Block

theorem rowsOfAll_append (o : Options) (blocks more : List Block) :
    rowsOfAll o (blocks ++ more) = rowsOfAll o blocks ++ rowsOfAll o more := by
  induction blocks with
  | nil => rfl
  | cons b blocks ih => rw [List.cons_append, rowsOfAll, ih, rowsOfAll, List.append_assoc]

end Block

namespace Writer
open Block

def showing (w : Writer) (contents : Bool) : Writer :=
  { w with options := { w.options with showContents := contents } }

theorem rowsOfAll_showing (w : Writer) (contents : Bool) (blocks : List Block) :
    rowsOfAll (w.showing contents).options blocks = rowsOfAll w.options blocks := by
  delta rowsOfAll
  rfl

theorem headerText_ended (w : Writer) : ∃ before, w.headerText = before ++ ['\n'] := ⟨_, rfl⟩

def after (w : Writer) (blocks : List Block) : Writer where
  options := w.options
  contentsAt := if (headingsOfAll blocks).isEmpty then none else
    some (w.headerText.length + (Row.textOf (aheadOfAll w.options blocks)).length)
  outline := Outline.empty.placeAll (headingsOfAll blocks)
  lists := { contexts := openedOfAll blocks }
  notices := noticesOfAll .empty blocks
  reported := w.reported ++ noticesOfAll .empty blocks

theorem header_out (w : Writer) :
    (Page.header { writer := w }).out = Buffer.append {} w.headerText :=
  Buffer.write_of_atEnd (b := {}) (show Buffer.AtEnd {} from rfl) w.headerText

theorem writer_extend_header (w : Writer) (blocks : List Block) :
    ((Page.header { writer := w }).extend (stretchOfAll w.options blocks)).writer =
      w.after blocks := by
  have hposition : (Page.header { writer := w }).out.position = w.headerText.length := by
    rw [header_out]
    rfl
  simp [Page.extend, hposition, after, stretchOfAll]
  simp [Page.header, restart]

theorem document_eq (w : Writer) (blocks : List Block) :
    w.document blocks = .ok
      (Delimiter.flushLeft ((w.after blocks).withContents
        (w.headerText ++ Row.textOf (rowsOfAll w.options blocks))), w.after blocks) := by
  have hend : (Page.header { writer := w }).out.AtEnd := w.header_out ▸ Buffer.atEnd_append _ _
  have hcontents : ((Page.header { writer := w }).extend
      (stretchOfAll w.options blocks)).out.contents =
      w.headerText ++ Row.textOf (rowsOfAll w.options blocks) := by
    rw [Page.extend, header_out, Buffer.append_append]
    rfl
  rw [document, writeAll_eq blocks hend]
  refine congrArg Except.ok (Prod.ext ?_ (w.writer_extend_header blocks))
  rw [← writer_extend_header, ← hcontents]
  exact Buffer.contents_reset _ _

def left (w : Writer) (s : Stretch) : Writer where
  options := w.options
  contentsAt := if s.headings.isEmpty then none else
    some (w.headerText.length + (Row.textOf s.ahead).length)
  outline := Outline.empty.placeAll s.headings
  lists := { contexts := s.opened }
  notices := s.notices .empty
  reported := w.reported ++ s.notices .empty

def textFor (w : Writer) (s : Stretch) : Text :=
  Delimiter.flushLeft ((w.left s).withContents (w.headerText ++ Row.textOf s.rows))

/-- Of the blocks of a document nothing but their stretch matters. -/
theorem document_eq_stretch (w : Writer) (blocks : List Block) :
    w.document blocks = .ok
      (w.textFor (stretchOfAll w.options blocks), w.left (stretchOfAll w.options blocks)) :=
  w.document_eq blocks

/-- There is no table of contents if none is asked for, and none without headings. -/
theorem withContents_plain {w : Writer} {blocks : List Block}
    (h : w.options.showContents = false ∨ headingsOfAll blocks = []) (text : Text) :
    (w.after blocks).withContents text = text := by
  rcases h with h | h
  · unfold withContents
    split
    · next hc => exact absurd (h.symm.trans hc) Bool.false_ne_true
    · rfl
  · simp [withContents, after, h]

theorem document_plain {w : Writer} {blocks : List Block}
    (h : w.options.showContents = false ∨ headingsOfAll blocks = []) :
    w.document blocks = .ok
      (Delimiter.flushLeft w.headerText ++ Row.textOf ((rowsOfAll w.options blocks).map Row.flush),
        w.after blocks) := by
  rw [document_eq, withContents_plain h, Delimiter.flushLeft_append (Or.inr w.headerText_ended),
    Row.flushLeft_textOf]

theorem document_showing_false (w : Writer) (blocks : List Block) :
    (w.showing false).document blocks = .ok
      (Delimiter.flushLeft w.headerText ++ Row.textOf ((rowsOfAll w.options blocks).map Row.flush),
        (w.showing false).after blocks) := by
  have hs : (w.showing false).options.showContents = false := rfl
  rw [document_plain (Or.inl hs), rowsOfAll_showing]
  rfl

/-- What blocks render to does not depend on the blocks before and after them. -/
theorem document_append (w : Writer) : ∃ body : List Block → Text,
    (∀ blocks, ∃ left, (w.showing false).document blocks =
      .ok (Delimiter.flushLeft w.headerText ++ body blocks, left)) ∧
    (∀ blocks more, body (blocks ++ more) = body blocks ++ body more) ∧
    ∀ blocks, body blocks = [] ∨ ∃ before, body blocks = before ++ ['\n'] := by
  refine ⟨fun blocks => Row.textOf ((rowsOfAll w.options blocks).map Row.flush), ?_, ?_, ?_⟩
  · intro blocks
    exact ⟨_, w.document_showing_false blocks⟩
  · intro blocks more
    simp only [rowsOfAll_append, List.map_append, Row.textOf_append]
  · intro blocks
    exact Row.ended_textOf _

end Writer
end HelpFile
