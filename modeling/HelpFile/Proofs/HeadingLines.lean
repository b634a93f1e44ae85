import HelpFile.Proofs.Writing

/-!
# Heading lines

Among the rows of a document, those for headings are the rules and titles of the headings that are
shown, in document order and each behind a lead. The rows ahead of a table of contents hold none.
-/
namespace HelpFile

namespace Text

def shownLines (text : Text) : List Text := (lines text).filter fun l => !l.isEmpty

theorem shownLines_append {a : Text} (ha : Ended a) (b : Text) :
    shownLines (a ++ b) = shownLines a ++ shownLines b := by
  rcases ha with rfl | ⟨s, rfl⟩
  · rfl
  · simp [shownLines, lines_append_newline, lines]

end Text

def Purpose.isHeading : Purpose → Bool
  | rule | title => true
  | opening | closing | plain => false

def Heading.lines (o : Options) (h : Heading) : List Text :=
  Text.shownLines ((Writer.fresh o).headingRule h.level ++ (Writer.fresh o).headingLine h.text)

namespace Row

def isHeading (r : Row) : Bool := r.purpose.isHeading && r.shows

/-- The rows for headings are the given lines, in order and each behind a lead. -/
def HeadingLines (rows : List Row) (ls : List Text) : Prop :=
  List.Forall₂ (fun r l => ∃ lead, Lead lead ∧ r.text = lead ++ l) (rows.filter isHeading) ls

theorem HeadingLines.append {rows others : List Row} {ls ms : List Text}
    (h : HeadingLines rows ls) (k : HeadingLines others ms) :
    HeadingLines (rows ++ others) (ls ++ ms) := by
  unfold HeadingLines
  rw [List.filter_append]
  exact List.rel_append h k

theorem HeadingLines.drop {rows others : List Row} {ls : List Text}
    (h : HeadingLines (rows ++ others) ls) (k : HeadingLines rows []) : HeadingLines others ls := by
  unfold HeadingLines at h k ⊢
  rwa [List.filter_append, List.forall₂_nil_right_iff.mp k, List.nil_append] at h

theorem headingLines_plain {rows : List Row} (h : ∀ r ∈ rows, r.purpose.isHeading = false) :
    HeadingLines rows [] := by
  have hf : rows.filter isHeading = [] :=
    List.filter_eq_nil_iff.mpr fun r hr => by simp [isHeading, h r hr]
  unfold HeadingLines
  rw [hf]
  exact .nil

theorem headingLines_ofLines_plain (text : Text) : HeadingLines (ofLines .plain text) [] := by
  apply headingLines_plain
  intro r hr
  rw [(mem_ofLines hr).1]
  rfl

theorem headingLines_ofEnded_plain (text : Text) : HeadingLines (ofEnded .plain text) [] := by
  apply headingLines_plain
  intro r hr
  rw [(mem_ofEnded hr).1]
  rfl

/-- A container keeps the heading lines of its contents. -/
theorem HeadingLines.framed {framed rows : List Row} {ls : List Text} (hf : Framed framed rows)
    (h : HeadingLines rows ls) : HeadingLines framed ls := by
  have hs := hf.select Purpose.isHeading
  unfold HeadingLines at h ⊢
  change List.Forall₂ Within (framed.filter isHeading) (rows.filter isHeading) at hs
  generalize framed.filter isHeading = rs, rows.filter isHeading = ss at h hs ⊢
  induction hs generalizing ls with
  | nil => exact h
  | @cons r s _ _ hrs _ ih =>
    obtain ⟨l, ls, ⟨lead, hlead, hl⟩, hrest, rfl⟩ := List.forall₂_cons_left_iff.mp h
    obtain ⟨-, outer, houter, hr⟩ := hrs
    refine .cons ⟨outer ++ lead, houter.append hlead, ?_⟩ (ih hrest)
    rw [hr, hl, List.append_assoc]

theorem HeadingLines.literal {rows : List Row} {ls : List Text} (h : HeadingLines rows ls)
    (width : Int) : HeadingLines (literal width rows) ls := by
  have hopen : HeadingLines [⟨.opening, ['>'], by simp⟩] [] := headingLines_plain (by simp; rfl)
  have hclose : HeadingLines [⟨.closing, ['<'], by simp⟩, blank] [] :=
    headingLines_plain (by simp [blank]; exact ⟨rfl, rfl⟩)
  have := (hopen.append (h.framed (framed_indented width rows))).append hclose
  simpa [Row.literal] using this

theorem HeadingLines.item {rows : List Row} {ls : List Text} (h : HeadingLines rows ls)
    (width : Int) (c : ListContext) : HeadingLines (item width c rows) ls := by
  rcases framed_item width c rows with hf | ⟨hnone, r, hr, hitem⟩
  · exact h.framed hf
  · have hnil : rows.filter isHeading = [] := by
      simp only [List.filter_eq_nil_iff, isHeading] at hnone ⊢
      intro s hs
      simp [hnone s hs]
    unfold HeadingLines at h
    rw [hnil] at h
    obtain rfl := List.forall₂_nil_left_iff.mp h
    rw [hitem]
    exact headingLines_plain (by simp [hr]; rfl)

theorem headingLines_ofEnded {purpose : Purpose} (hp : purpose.isHeading) {text : Text}
    (ht : Text.Ended text) : HeadingLines (ofEnded purpose text) (Text.shownLines text) := by
  have hrows : (ofEnded purpose text).filter isHeading = (ofEnded purpose text).filter shows :=
    List.filter_congr fun r hr => by simp [isHeading, (mem_ofEnded hr).1, hp]
  have hlines : Text.shownLines text = ((ofEnded purpose text).filter shows).map Row.text := by
    have : Text.shownLines text = Text.shownLines (textOf (ofEnded purpose text)) := by
      rw [textOf_ofEnded purpose ht]
    rw [this, Text.shownLines, lines_textOf, List.filter_append, List.filter_map]
    simp
    rfl
  unfold HeadingLines
  rw [hrows, hlines, List.forall₂_map_right_iff, List.forall₂_same]
  exact fun r _ => ⟨[], .nil, rfl⟩

theorem headingLines_headingRows (o : Options) (content : Fragment) (level : Int) :
    HeadingLines (content.headingRows o level)
      ((content.headings level).flatMap (Heading.lines o)) := by
  unfold Fragment.headingRows Fragment.headings
  cases content.shown with
  | false => exact .nil
  | true =>
    have hrule := Page.ended_headingRule (Writer.fresh o) level
    have hline : Text.Ended ((Writer.fresh o).headingLine content.text) :=
      Text.ended_append_newline _
    simp only [if_true, List.flatMap_cons, List.flatMap_nil, List.append_nil, Heading.lines,
      Heading.level, Heading.text, Text.shownLines_append hrule]
    exact (headingLines_ofEnded rfl hrule).append (headingLines_ofEnded rfl hline)

end Row

namespace Block
open Row

theorem headingLines_itemRows {o : Options} {rows : List Row} {ls : List Text}
    (h : HeadingLines rows ls) (c : ListContext) (rest : List ListChild) :
    HeadingLines (itemRows o c rows rest) ls := by
  have hblank : HeadingLines (if rest.any ListChild.isItem then [] else [blank]) [] :=
    headingLines_plain fun r hr => by
      split at hr
      · simp at hr
      · rw [List.mem_singleton.mp hr]
        rfl
  simpa [itemRows] using (h.item o.tabWidth c).append hblank

mutual

theorem headingLines_rows (o : Options) : (b : Block) →
    HeadingLines (b.rows o) (b.headings.flatMap (Heading.lines o))
  | heading level content => headingLines_headingRows o (fragment none content) level
  | paragraph task tight content => by
    rw [rows, Fragment.paragraphRows]
    split
    · exact headingLines_ofEnded_plain _
    · exact .nil
  | list ordered children => headingLines_rowsOfItems o (.start ordered) children
  | quote body => (headingLines_rowsOfAll o body).literal o.tabWidth
  | alert kind body =>
    ((headingLines_ofLines_plain (kind ++ [':'])).append
      (headingLines_rowsOfAll o body)).literal o.tabWidth
  | fencedCode _ text | indentedCode text | html text =>
    (headingLines_ofLines_plain text).literal o.tabWidth
  | thematicBreak => headingLines_ofEnded_plain _
  | blankLine | linkDefinition | table | footnoteDefinition | inline _ => .nil
  | group body => headingLines_rowsOfAll o body

theorem headingLines_rowsOfAll (o : Options) : (blocks : List Block) →
    HeadingLines (rowsOfAll o blocks) ((headingsOfAll blocks).flatMap (Heading.lines o))
  | [] => .nil
  | b :: rest => by
    rw [headingsOfAll, List.flatMap_append]
    exact (headingLines_rows o b).append (headingLines_rowsOfAll o rest)

theorem headingLines_rowsOfItems (o : Options) : (c : ListContext) → (children : List ListChild) →
    HeadingLines (rowsOfItems o c children)
      ((headingsOfItems children).flatMap (Heading.lines o))
  | _, [] => .nil
  | c, .item body :: rest => by
    rw [headingsOfItems, List.flatMap_append]
    exact (headingLines_itemRows (headingLines_rowsOfAll o body) c rest).append
      (headingLines_rowsOfItems o c.advance rest)
  | c, .other _ :: rest => headingLines_rowsOfItems o c rest

end

theorem headingLines_nil {o : Options} {rows : List Row} {headings : List Heading}
    (h : HeadingLines rows (headings.flatMap (Heading.lines o))) (he : headings.isEmpty) :
    HeadingLines rows [] := by
  rw [List.isEmpty_iff.mp he] at h
  exact h

mutual

theorem ahead_prefix (o : Options) : (b : Block) →
    b.ahead o <+: b.rows o ∧ HeadingLines (b.ahead o) []
  | list ordered children => aheadOfItems_prefix o (.start ordered) children
  | group body => aheadOfAll_prefix o body
  | heading .. | paragraph .. | quote _ | alert .. | fencedCode .. | indentedCode _ | html _
  | thematicBreak | blankLine | linkDefinition | table | footnoteDefinition | inline _ =>
    ⟨List.nil_prefix, .nil⟩

/-- The rows ahead of a table of contents come first and hold no heading line. -/
theorem aheadOfAll_prefix (o : Options) : (blocks : List Block) →
    aheadOfAll o blocks <+: rowsOfAll o blocks ∧ HeadingLines (aheadOfAll o blocks) []
  | [] => ⟨List.nil_prefix, .nil⟩
  | b :: rest => by
    rw [aheadOfAll, rowsOfAll]
    split
    · next he =>
      obtain ⟨hp, hh⟩ := aheadOfAll_prefix o rest
      exact ⟨(List.prefix_append_right_inj _).mpr hp,
        (headingLines_nil (headingLines_rows o b) he).append hh⟩
    · obtain ⟨hp, hh⟩ := ahead_prefix o b
      exact ⟨hp.trans (List.prefix_append _ _), hh⟩

theorem aheadOfItems_prefix (o : Options) : (c : ListContext) → (children : List ListChild) →
    aheadOfItems o c children <+: rowsOfItems o c children ∧
      HeadingLines (aheadOfItems o c children) []
  | _, [] => ⟨List.nil_prefix, .nil⟩
  | c, .item body :: rest => by
    rw [aheadOfItems, rowsOfItems]
    split
    · next he =>
      obtain ⟨hp, hh⟩ := aheadOfItems_prefix o c.advance rest
      have hbody := headingLines_nil (headingLines_rowsOfAll o body) he
      exact ⟨(List.prefix_append_right_inj _).mpr hp,
        (headingLines_itemRows hbody c rest).append hh⟩
    · exact ⟨List.nil_prefix, .nil⟩
  | c, .other _ :: rest => aheadOfItems_prefix o c rest

end

end Block
end HelpFile
