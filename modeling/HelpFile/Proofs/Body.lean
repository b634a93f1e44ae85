import HelpFile.Proofs.Contents
import Mathlib.Data.List.Infix

/-!
# The body of a document

What blocks write behind the header, with a place in it that the first heading marks. A text put in
that place, such as a table of contents, parts the blocks in front from those behind and changes
neither.
-/
namespace HelpFile

namespace Block

def behindOfAll (o : Options) (blocks : List Block) : List Row :=
  (rowsOfAll o blocks).drop (aheadOfAll o blocks).length

theorem ahead_append_behind (o : Options) (blocks : List Block) :
    aheadOfAll o blocks ++ behindOfAll o blocks = rowsOfAll o blocks := by
  obtain ⟨hfirst, -⟩ := aheadOfAll_prefix o blocks
  exact (List.prefix_append_drop hfirst).symm

theorem headingsOfAll_append (blocks more : List Block) :
    headingsOfAll (blocks ++ more) = headingsOfAll blocks ++ headingsOfAll more := by
  induction blocks with
  | nil => rfl
  | cons b rest ih => rw [List.cons_append, headingsOfAll, ih, headingsOfAll, List.append_assoc]

theorem aheadOfAll_append_plain (o : Options) {blocks : List Block}
    (h : headingsOfAll blocks = []) (more : List Block) :
    aheadOfAll o (blocks ++ more) = rowsOfAll o blocks ++ aheadOfAll o more := by
  induction blocks with
  | nil => rfl
  | cons b rest ih =>
    obtain ⟨hb, hr⟩ := List.append_eq_nil_iff.mp h
    rw [List.cons_append, aheadOfAll, if_pos (List.isEmpty_iff.mpr hb), ih hr, rowsOfAll,
      List.append_assoc]

theorem aheadOfAll_append_headed (o : Options) {blocks : List Block}
    (h : headingsOfAll blocks ≠ []) (more : List Block) :
    aheadOfAll o (blocks ++ more) = aheadOfAll o blocks := by
  induction blocks with
  | nil => exact absurd rfl h
  | cons b rest ih =>
    rw [List.cons_append, aheadOfAll, aheadOfAll]
    by_cases hb : b.headings = []
    · have hr : headingsOfAll rest ≠ [] := by
        rw [headingsOfAll, hb] at h
        exact h
      rw [ih hr]
    · have he : ¬ b.headings.isEmpty = true := by simpa using hb
      rw [if_neg he, if_neg he]

theorem behindOfAll_append_plain (o : Options) {blocks : List Block}
    (h : headingsOfAll blocks = []) (more : List Block) :
    behindOfAll o (blocks ++ more) = behindOfAll o more := by
  have hboth := ahead_append_behind o (blocks ++ more)
  rw [aheadOfAll_append_plain o h, rowsOfAll_append, List.append_assoc,
    ← ahead_append_behind o more] at hboth
  exact List.append_cancel_left (List.append_cancel_left hboth)

theorem behindOfAll_append_headed (o : Options) {blocks : List Block}
    (h : headingsOfAll blocks ≠ []) (more : List Block) :
    behindOfAll o (blocks ++ more) = behindOfAll o blocks ++ rowsOfAll o more := by
  have hboth := ahead_append_behind o (blocks ++ more)
  rw [aheadOfAll_append_headed o h, rowsOfAll_append, ← ahead_append_behind o blocks,
    List.append_assoc] at hboth
  exact List.append_cancel_left hboth

end Block

namespace Writer
open Block Delimiter

def body (w : Writer) (blocks : List Block) : Text :=
  Row.textOf ((rowsOfAll w.options blocks).map Row.flush)

/-- What blocks write, with a text put in the place that their first heading marks. -/
def bodyAround (w : Writer) (text : Text) (blocks : List Block) : Text :=
  if (headingsOfAll blocks).isEmpty then w.body blocks
  else Row.textOf ((aheadOfAll w.options blocks).map Row.flush) ++ text ++
    Row.textOf ((behindOfAll w.options blocks).map Row.flush)

def contentsText (w : Writer) (blocks : List Block) : Text :=
  match w.options.showContents, (w.after blocks).outline.root? with
  | true, some root => flushLeft (w.contentsStyle.contents 0 root) ++ ['\n']
  | _, _ => []

theorem contentsText_eq {w : Writer} (hs : w.options.showContents) {blocks : List Block}
    {root : Heading} (hroot : (w.after blocks).outline.root? = some root) :
    w.contentsText blocks = flushLeft (w.contentsStyle.contents 0 root) ++ ['\n'] := by
  rw [contentsText, hs, hroot]

theorem ended_body (w : Writer) (blocks : List Block) : Text.Ended (w.body blocks) :=
  Row.ended_textOf _

theorem ended_contentsText (w : Writer) (blocks : List Block) :
    Text.Ended (w.contentsText blocks) := by
  unfold contentsText
  split
  · exact Text.ended_append_newline _
  · exact Or.inl rfl

theorem ended_bodyAround (w : Writer) {text : Text} (ht : Text.Ended text) (blocks : List Block) :
    Text.Ended (w.bodyAround text blocks) := by
  unfold bodyAround
  split
  · exact w.ended_body blocks
  · exact Text.ended_append (Text.ended_append (Row.ended_textOf _) ht) (Row.ended_textOf _)

theorem body_append (w : Writer) (blocks more : List Block) :
    w.body (blocks ++ more) = w.body blocks ++ w.body more := by
  rw [body, rowsOfAll_append, List.map_append, Row.textOf_append]
  rfl

theorem bodyAround_plain (w : Writer) {blocks : List Block} (h : headingsOfAll blocks = [])
    (text : Text) : w.bodyAround text blocks = w.body blocks := by
  rw [bodyAround, h]
  rfl

theorem bodyAround_headed (w : Writer) {blocks : List Block} (h : headingsOfAll blocks ≠ [])
    (text : Text) : w.bodyAround text blocks =
      Row.textOf ((aheadOfAll w.options blocks).map Row.flush) ++ text ++
        Row.textOf ((behindOfAll w.options blocks).map Row.flush) :=
  if_neg (by simpa using h)

theorem body_eq_ahead_append_behind (w : Writer) (blocks : List Block) :
    w.body blocks = Row.textOf ((aheadOfAll w.options blocks).map Row.flush) ++
      Row.textOf ((behindOfAll w.options blocks).map Row.flush) := by
  rw [← Row.textOf_append, ← List.map_append, ahead_append_behind]
  rfl

theorem bodyAround_nil (w : Writer) (blocks : List Block) :
    w.bodyAround [] blocks = w.body blocks := by
  by_cases h : headingsOfAll blocks = []
  · exact w.bodyAround_plain h []
  · rw [w.bodyAround_headed h, List.append_nil, ← body_eq_ahead_append_behind]

theorem bodyAround_append_plain (w : Writer) {blocks : List Block} (h : headingsOfAll blocks = [])
    (text : Text) (more : List Block) :
    w.bodyAround text (blocks ++ more) = w.body blocks ++ w.bodyAround text more := by
  have happend := headingsOfAll_append blocks more
  rw [h, List.nil_append] at happend
  by_cases hm : headingsOfAll more = []
  · rw [w.bodyAround_plain (happend.trans hm), w.bodyAround_plain hm, body_append]
  · rw [w.bodyAround_headed (happend ▸ hm), w.bodyAround_headed hm, aheadOfAll_append_plain _ h,
      behindOfAll_append_plain _ h, List.map_append, Row.textOf_append]
    simp only [List.append_assoc]
    rfl

theorem bodyAround_append_headed (w : Writer) {blocks : List Block} (h : headingsOfAll blocks ≠ [])
    (text : Text) (more : List Block) :
    w.bodyAround text (blocks ++ more) = w.bodyAround text blocks ++ w.body more := by
  have hboth : headingsOfAll (blocks ++ more) ≠ [] := by
    rw [headingsOfAll_append]
    exact List.append_ne_nil_of_left_ne_nil h _
  rw [w.bodyAround_headed hboth, w.bodyAround_headed h, aheadOfAll_append_headed _ h,
    behindOfAll_append_headed _ h, List.map_append, Row.textOf_append, ← List.append_assoc]
  rfl

/-- A block without headings is written whole, wherever the text goes. -/
theorem bodyAround_split (w : Writer) (text : Text) (before after : List Block) {b : Block}
    (hb : b.headings = []) : ∃ behind, w.bodyAround text (before ++ b :: after) =
      w.bodyAround text before ++ Row.textOf ((b.rows w.options).map Row.flush) ++ behind := by
  have hone : headingsOfAll [b] = [] := by simp [headingsOfAll, hb]
  have hrows : w.body [b] = Row.textOf ((b.rows w.options).map Row.flush) := by
    simp [body, rowsOfAll]
  by_cases h : headingsOfAll before = []
  · refine ⟨w.bodyAround text after, ?_⟩
    rw [bodyAround_append_plain w h, w.bodyAround_plain h, ← List.singleton_append,
      bodyAround_append_plain w hone, hrows, List.append_assoc]
  · refine ⟨w.body after, ?_⟩
    rw [bodyAround_append_headed w h, ← List.singleton_append, body_append, hrows,
      List.append_assoc]

/-- A document is its header and its body, around the table of contents if it has one. -/
theorem document_eq_bodyAround (w : Writer) (blocks : List Block) :
    w.document blocks = .ok
      (flushLeft w.headerText ++ w.bodyAround (w.contentsText blocks) blocks, w.after blocks) := by
  by_cases h : headingsOfAll blocks = []
  · rw [document_plain (Or.inr h), w.bodyAround_plain h]
    rfl
  · obtain ⟨first, rest, hh⟩ := List.exists_cons_of_ne_nil h
    have hroot := w.root?_after hh
    cases hs : w.options.showContents with
    | false =>
      have hnone : w.contentsText blocks = [] := by
        rw [contentsText, hs]
      rw [document_plain (Or.inl hs), hnone, bodyAround_nil]
      rfl
    | true =>
      rw [document_with_contents hs hroot (ahead_append_behind w.options blocks),
        contentsText_eq hs hroot, w.bodyAround_headed h]
      simp only [List.append_assoc, List.singleton_append]

theorem exists_document_eq {w : Writer} {blocks : List Block} {text : Text}
    (h : flushLines w.headerText ++ w.bodyAround (w.contentsText blocks) blocks = text) :
    ∃ left, w.document blocks = .ok (text, left) := by
  refine ⟨w.after blocks, ?_⟩
  rw [document_eq_bodyAround, flushLeft_eq_flushLines, h]

end Writer
end HelpFile
