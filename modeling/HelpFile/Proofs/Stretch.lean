import HelpFile.Document.Rendering
import HelpFile.Proofs.Row

/-!
# What a stretch of a document writes

A stretch is what some blocks add to a page: rows, headings for the outline, notices and the lists
that were opened. Writing blocks on a page whose position is at its end never fails and extends the
page by their stretch, which depends on the layout options only and not on what came before.
-/
namespace HelpFile

namespace Buffer

def AtEnd (b : Buffer) : Prop := b.position = b.contents.length

def append (b : Buffer) (text : Text) : Buffer where
  contents := b.contents ++ text
  position := (b.contents ++ text).length

theorem atEnd_append (b : Buffer) (text : Text) : (b.append text).AtEnd := rfl

theorem append_nil {b : Buffer} (h : b.AtEnd) : b.append [] = b := by
  unfold AtEnd at h
  cases b
  simp_all [append]

@[simp] theorem append_append (b : Buffer) (s t : Text) :
    (b.append s).append t = b.append (s ++ t) := by simp [append]

theorem write_of_atEnd {b : Buffer} (h : b.AtEnd) (text : Text) : b.write text = b.append text := by
  unfold AtEnd at h
  by_cases ht : text = []
  · rw [ht, append_nil h]
    rfl
  · simp [write, append, ht, h]

/-- What stands in front of a text that is written at the position. -/
def padded (b : Buffer) : Text :=
  b.contents.take b.position ++ List.replicate (b.position - b.contents.length) '\x00'

theorem length_padded (b : Buffer) : b.padded.length = b.position := by
  simp only [padded, List.length_append, List.length_take, List.length_replicate]
  omega

theorem write_of_ne_nil (b : Buffer) {text : Text} (h : text ≠ []) :
    b.write text = ⟨b.padded ++ text ++ b.contents.drop (b.position + text.length),
      b.position + text.length⟩ := by
  simp [write, h, padded]

theorem write_between (front behind text : Text) :
    write ⟨front ++ behind, front.length⟩ text =
      ⟨front ++ text ++ behind.drop text.length, front.length + text.length⟩ := by
  by_cases h : text = []
  · simp [write, h]
  · have hpadded : padded ⟨front ++ behind, front.length⟩ = front := by simp [padded]
    rw [write_of_ne_nil _ h, hpadded]
    simp

/-- Two texts in a row are written as one, wherever the position is. -/
theorem write_write (b : Buffer) (s t : Text) : (b.write s).write t = b.write (s ++ t) := by
  by_cases hs : s = []
  · rw [hs]
    rfl
  · have hst : s ++ t ≠ [] := List.append_ne_nil_of_left_ne_nil hs t
    have hlen : b.position + s.length = (b.padded ++ s).length := by
      rw [List.length_append, length_padded]
    rw [write_of_ne_nil b hs, hlen, write_between, write_of_ne_nil b hst, ← hlen, List.drop_drop]
    simp [Nat.add_assoc]

theorem truncate_append {b : Buffer} (h : b.AtEnd) (text : Text) :
    (b.append text).truncate b.position = b := by
  unfold AtEnd at h
  cases b
  simp_all [append, truncate]

theorem since_append {b : Buffer} (h : b.AtEnd) (text : Text) :
    (b.append text).since b.position = text := by
  have hp : ¬ ((b.position : Int) < 0) := by omega
  unfold AtEnd at h
  rw [since, if_neg hp, Int.toNat_natCast, h]
  simp [append]

theorem reset_eq (b : Buffer) (text : Text) : b.reset text = append {} text := by
  have h : (b.truncate 0).AtEnd := by simp [AtEnd, truncate]
  rw [reset, write_of_atEnd h]
  simp [append, truncate]

theorem contents_reset (b : Buffer) (text : Text) : (b.reset text).contents = text := by
  rw [reset_eq]
  rfl

end Buffer

def Options.standard : Options where
  columnWidth_pos := by decide
  tabWidth_nonneg := by decide

def Writer.fresh (o : Options) : Writer := { options := o }

def Outline.placeAll (o : Outline) (headings : List Heading) : Outline :=
  headings.foldl (fun o h => o.place h) o

structure Stretch where
  rows : List Row := []
  /-- The rows in front of which a table of contents would go, if there is a heading. -/
  ahead : List Row := []
  headings : List Heading := []
  notices : Outline → List Notice := fun _ => []
  opened : List ListContext := []

namespace Stretch

def append (s t : Stretch) : Stretch where
  rows := s.rows ++ t.rows
  ahead := if s.headings.isEmpty then s.rows ++ t.ahead else s.ahead
  headings := s.headings ++ t.headings
  notices o := s.notices o ++ t.notices (o.placeAll s.headings)
  opened := s.opened ++ t.opened

/-- A stretch in the course of a list that will be left as `c`. -/
def opening (s : Stretch) (c : ListContext) : Stretch := { s with opened := c :: s.opened }

/-- A container's rows in place of those of its contents. A table of contents goes in front. -/
def enclose (s : Stretch) (rows : List Row) : Stretch := { s with rows, ahead := [] }

end Stretch

namespace Fragment

def headingRows (o : Options) (content : Fragment) (level : Int) : List Row :=
  if content.shown then
    Row.ofEnded .rule ((Writer.fresh o).headingRule level) ++
      Row.ofEnded .title ((Writer.fresh o).headingLine content.text)
  else []

def headings (content : Fragment) (level : Int) : List Heading :=
  if content.shown then [.node content.text level []] else []

def headingNotices (content : Fragment) (level : Int) (outline : Outline) : List Notice :=
  content.notices ++
    if content.shown then ((outline.problem? content.text level).map Notice.heading).toList else []

def paragraphRows (content : Fragment) (tight : Bool) : List Row :=
  if content.shown then
    Row.ofEnded .plain (content.text ++ if tight then ['\n'] else ['\n', '\n'])
  else []

end Fragment

namespace Page

def extend (p : Page) (s : Stretch) : Page where
  writer := { p.writer with
    contentsAt := p.writer.contentsAt.or (if s.headings.isEmpty then none else
      some (p.landing.getD (p.out.position + (Row.textOf s.ahead).length)))
    outline := p.writer.outline.placeAll s.headings
    lists := { p.writer.lists with contexts := p.writer.lists.contexts ++ s.opened }
    notices := p.writer.notices ++ s.notices p.writer.outline
    reported := p.writer.reported ++ s.notices p.writer.outline }
  out := p.out.append (Row.textOf s.rows)
  landing := p.landing

theorem atEnd_extend (p : Page) (s : Stretch) : (p.extend s).out.AtEnd := Buffer.atEnd_append _ _

@[simp] theorem options_extend (p : Page) (s : Stretch) :
    (p.extend s).writer.options = p.writer.options := rfl

theorem extend_empty {p : Page} (h : p.out.AtEnd) : p.extend {} = p := by
  simp [extend, Buffer.append_nil h, Outline.placeAll]

theorem extend_extend {p : Page} (h : p.out.AtEnd) (s t : Stretch) :
    (p.extend s).extend t = p.extend (s.append t) := by
  unfold Buffer.AtEnd at h
  simp only [extend, Stretch.append, Buffer.append_append, Row.textOf_append, List.append_assoc,
    Outline.placeAll, List.foldl_append, mk.injEq, Writer.mk.injEq, and_true, true_and]
  by_cases hs : s.headings = []
  · simp [hs, Buffer.append, h, Nat.add_assoc]
  · simp [hs]

theorem write_of_atEnd {p : Page} (h : p.out.AtEnd) {rows : List Row} {text : Text}
    (ht : Row.textOf rows = text) : p.write text = p.extend { rows } := by
  simp [write, extend, Buffer.write_of_atEnd h, ht, Outline.placeAll]

theorem notify_eq_extend {p : Page} (h : p.out.AtEnd) (notices : List Notice) :
    p.notify notices = p.extend { notices := fun _ => notices } := by
  simp [notify, Writer.notify, extend, Buffer.append_nil h, Outline.placeAll]

theorem ended_headingRule (w : Writer) (level : Int) : Text.Ended (w.headingRule level) := by
  unfold Writer.headingRule
  split
  · exact Text.ended_append_newline _
  · exact Or.inl rfl

theorem heading_eq_extend {p : Page} (h : p.out.AtEnd) (content : Fragment) (level : Int) :
    p.heading content level = p.extend
      { rows := content.headingRows p.writer.options level
        headings := content.headings level
        notices := content.headingNotices level } := by
  -- The rule and the line depend on the options of the writer alone.
  have hrule : Row.textOf (Row.ofEnded .rule ((Writer.fresh p.writer.options).headingRule level)) =
      p.writer.headingRule level := Row.textOf_ofEnded _ (ended_headingRule _ level)
  have hline : Row.textOf
      (Row.ofEnded .title ((Writer.fresh p.writer.options).headingLine content.text)) =
      p.writer.headingLine content.text := Row.textOf_ofEnded _ (Text.ended_append_newline _)
  have hw : p.out.write (p.writer.headingRule level) = p.out.append (p.writer.headingRule level) :=
    Buffer.write_of_atEnd h _
  have ha := Buffer.atEnd_append p.out (p.writer.headingRule level)
  have ht := Buffer.write_of_atEnd ha content.text
  unfold Fragment.headingRows Fragment.headings Fragment.headingNotices
  cases hs : content.shown with
  | false =>
    simp only [heading, hs, Bool.not_false, if_true, write, notify, hw, ht, Buffer.append_append,
      Buffer.truncate_append h, Bool.false_eq_true, if_false, List.append_nil]
    exact notify_eq_extend h content.notices
  | true =>
    have hsince := Buffer.since_append ha content.text
    have htrunc := Buffer.truncate_append ha content.text
    simp only [heading, hs, Bool.not_true, Bool.false_eq_true, if_false, if_true, write, notify,
      hw, ht, hsince, htrunc, Outline.add, Buffer.write_of_atEnd ha]
    simp only [extend, Row.textOf_append, hrule, hline, Writer.notify, Outline.placeAll]
    simp [Writer.headingLine, Writer.tag]

theorem paragraph_eq_extend {p : Page} (h : p.out.AtEnd) (content : Fragment) (tight : Bool) :
    p.paragraph content tight = p.extend
      { rows := content.paragraphRows tight, notices := fun _ => content.notices } := by
  have hw : p.out.write content.text = p.out.append content.text := Buffer.write_of_atEnd h _
  unfold Fragment.paragraphRows
  cases hs : content.shown with
  | false =>
    simp only [paragraph, hs, Bool.not_false, if_true, write, notify, hw, Buffer.truncate_append h]
    exact notify_eq_extend h content.notices
  | true =>
    have ha := Buffer.atEnd_append p.out content.text
    have he : Text.Ended (content.text ++ if tight then ['\n'] else ['\n', '\n']) := by
      cases tight
      · exact Or.inr ⟨content.text ++ ['\n'], by simp⟩
      · exact Text.ended_append_newline _
    simp only [paragraph, hs, Bool.not_true, Bool.false_eq_true, if_false, if_true, write, notify,
      hw, Buffer.write_of_atEnd ha, Buffer.append_append, extend, Row.textOf_ofEnded _ he]
    simp [Writer.notify, Outline.placeAll]

theorem thematicBreak_eq_extend {p : Page} (h : p.out.AtEnd) : p.thematicBreak = p.extend
    { rows := Row.ofEnded .plain (Layout.rule ['-'] p.writer.options.columnWidth) } :=
  write_of_atEnd h (Row.textOf_ofEnded _ (Text.ended_append_newline _))

/-- A literal block around the rows of a text, the last of which may be an empty one. -/
theorem literalBlock_eq_extend {p : Page} (h : p.out.AtEnd) {text : Text} {rows : List Row}
    (ht : Text.lines text = rows.map Row.text ∨ Text.lines text = rows.map Row.text ++ [[]]) :
    p.literalBlock text = p.extend { rows := Row.literal p.writer.options.tabWidth rows } := by
  apply write_of_atEnd h
  have hi := Row.indentBlock_of_lines ht p.writer.options.tabWidth 0
  rw [Row.hung_zero p.writer.options.tabWidth_nonneg] at hi
  simp [Row.literal, Row.blank, Writer.literalBlock, hi]

theorem itemText_eq (w : Writer) (c : ListContext) (rows : List Row) :
    w.itemText c.marker (Row.textOf rows) =
      Row.textOf (Row.item w.options.tabWidth c rows) := by
  unfold Writer.itemText Row.item
  rw [Row.indentBlock_of_lines (Or.inr (Row.lines_textOf rows))]
  cases Row.hung w.options.tabWidth c.marker.length rows with
  | nil => simp
  | cons first rest =>
    split
    · next ht => simp at ht
    · simp [Row.behind]

theorem atEnd_inner (p : Page) : p.inner.out.AtEnd := rfl

/-- What a container's page is extended by reaches the outer page through the writer alone. -/
theorem resume_extend (p : Page) (s : Stretch) (rows : List Row) :
    (p.resume (p.inner.extend s)).extend { rows } = p.extend (s.enclose rows) := by
  simp [resume, inner, extend, Stretch.enclose, Outline.placeAll]

def setLists (p : Page) (lists : ListStack) : Page :=
  { p with writer := { p.writer with lists } }

/-- Closing a list undoes its opening, but the stack remembers the list as it was left. -/
theorem closeList_extend (p : Page) (ordered : Bool) (c : ListContext) (s : Stretch) :
    (((p.openList ordered).setLists ⟨p.writer.lists.contexts ++ [c],
      p.writer.lists.contexts.length :: p.writer.lists.openLists⟩).extend s).closeList =
      .ok (p.extend { s with opened := c :: s.opened }) := by
  simp [closeList, ListStack.pop, extend, setLists, openList, bind, Except.bind, pure, Except.pure]

/-- An item draws its marker from the innermost open list and from no other. -/
theorem listItem_eq_extend {p : Page} (h : p.out.AtEnd) {before after : List ListContext}
    {c : ListContext} {outer : List Nat}
    (hl : p.writer.lists = ⟨before ++ c :: after, before.length :: outer⟩) (rows : List Row)
    (last : Bool) :
    p.listItem (Row.textOf rows) last = .ok
      ((p.setLists ⟨before ++ c.advance :: after, before.length :: outer⟩).extend
        { rows := Row.item p.writer.options.tabWidth c rows ++
            if last then [Row.blank] else [] }) := by
  have hd : p.writer.lists.draw =
      .ok (c.marker, ⟨before ++ c.advance :: after, before.length :: outer⟩) := by
    simp [hl, ListStack.draw, ListStack.peek, ListStack.drawFrom, Except.map]
  have ho : (p.setLists ⟨before ++ c.advance :: after, before.length :: outer⟩).out.AtEnd := h
  simp only [listItem, hd, bind, Except.bind, itemText_eq, pure, Except.pure, Except.ok.injEq]
  change (let written := (p.setLists _).write _; if last then written.write ['\n'] else written) = _
  rw [write_of_atEnd ho rfl]
  cases last with
  | false => simp
  | true =>
    have hb : Row.textOf [Row.blank] = ['\n'] := rfl
    simp only [if_true]
    rw [write_of_atEnd (atEnd_extend _ _) hb, extend_extend ho]
    rfl

end Page
end HelpFile
