import HelpFile.Proofs.Contents
import HelpFile.Proofs.Unmarked
import Mathlib.Data.List.Flatten

/-!
# Links and anchors

A line of the table of contents links to the tag whose anchor is in the line of the heading. Links
and anchors are single lines unless a line feed hides in the file name or in a heading, and they
come in the same order.
-/
namespace HelpFile

namespace Layout

/-- `straddle` without its line feed. -/
def straddled (left right : Text) (columnWidth trim : Int) : Text :=
  left ++ blanks (gap left right columnWidth trim) ++ right

theorem newline_not_mem_straddled {left right : Text} (hl : '\n' ∉ left) (hr : '\n' ∉ right)
    (columnWidth trim : Int) : '\n' ∉ straddled left right columnWidth trim := by
  have hb : '\n' ∉ blanks (gap left right columnWidth trim) := (Lead.spaces _).newline_not_mem
  simp [straddled, hl, hb, hr]

end Layout

namespace Writer

def link (w : Writer) (indent text : Text) : Text :=
  Layout.straddled (indent ++ text) ('|' :: w.tag text ++ ['|']) w.options.columnWidth
    Layout.concealedTagWidth

def anchor (w : Writer) (text : Text) : Text :=
  Layout.straddled (Text.upper text) ('*' :: w.tag text ++ ['*']) w.options.columnWidth
    Layout.concealedTagWidth

theorem newline_not_mem_tag {w : Writer} (hname : '\n' ∉ w.options.basename) {text : Text}
    (ht : '\n' ∉ text) : '\n' ∉ w.tag text := by
  have hs : IsSign '\n' := by simp [IsSign]
  intro hm
  rcases Tag.mem_of_mem_ofHeading hs hm with h | h | h
  · exact hname (Options.mem_of_mem_title hs h)
  · simp at h
  · exact ht h

theorem newline_not_mem_link {w : Writer} (hname : '\n' ∉ w.options.basename) {indent text : Text}
    (hi : '\n' ∉ indent) (ht : '\n' ∉ text) : '\n' ∉ w.link indent text := by
  have htag := newline_not_mem_tag hname ht
  exact Layout.newline_not_mem_straddled (by simp [hi, ht]) (by simp [htag]) _ _

theorem newline_not_mem_anchor {w : Writer} (hname : '\n' ∉ w.options.basename) {text : Text}
    (ht : '\n' ∉ text) : '\n' ∉ w.anchor text := by
  have hs : IsSign '\n' := by simp [IsSign]
  have htag := newline_not_mem_tag hname ht
  have hup : '\n' ∉ Text.upper text := fun h => ht (Text.mem_of_mem_upper hs h)
  exact Layout.newline_not_mem_straddled hup (by simp [htag]) _ _

end Writer

namespace Writer
open Block Delimiter

def links (w : Writer) (first : Heading) (rest : List Heading) : List Text :=
  w.link [] first.text :: (rest.takeWhile fun h => first.level < h.level).map fun h =>
    w.link (Layout.blanks w.options.tabWidth) h.text

theorem mem_links {w : Writer} {first : Heading} {rest : List Heading} {l : Text}
    (hl : l ∈ w.links first rest) :
    ∃ n, ∃ h ∈ first :: rest, l = w.link (Text.spaces n) h.text := by
  rcases List.mem_cons.mp hl with rfl | hl
  · exact ⟨0, first, List.mem_cons_self, rfl⟩
  · obtain ⟨h, hm, rfl⟩ := List.mem_map.mp hl
    have hr : h ∈ rest := (List.takeWhile_sublist _).subset hm
    exact ⟨_, h, List.mem_cons_of_mem _ hr, rfl⟩

theorem contentsOf_leaves (w : Writer) {headings : List Heading}
    (hleaf : ∀ h ∈ headings, h.children = []) :
    w.contentsStyle.contentsOf 1 headings =
      Text.ofLines (headings.map fun h => w.link (Layout.blanks w.options.tabWidth) h.text) := by
  induction headings with
  | nil => rfl
  | cons h rest ih =>
    obtain ⟨text, level, children⟩ := h
    have hc : children = [] := hleaf _ List.mem_cons_self
    subst hc
    have hentry : w.contentsStyle.entry 1 text =
        w.link (Layout.blanks w.options.tabWidth) text ++ ['\n'] := by
      rw [ContentsStyle.entry, Int.one_mul]
      rfl
    rw [ContentsStyle.contentsOf, ContentsStyle.contents, ContentsStyle.contentsOf, hentry,
      ih fun h hm => hleaf h (List.mem_cons_of_mem _ hm)]
    simp [Heading.text]

theorem contents_eq_links (w : Writer) (first : Heading) {rest : List Heading}
    (hleaf : ∀ h ∈ first :: rest, h.children = []) :
    w.contentsStyle.contents 0 (first.over rest) = Text.ofLines (w.links first rest) := by
  have hentry : w.contentsStyle.entry 0 first.text = w.link [] first.text ++ ['\n'] := by
    rw [ContentsStyle.entry, Int.zero_mul]
    rfl
  have hrun : ∀ h ∈ rest.takeWhile fun h => first.level < h.level, h.children = [] :=
    fun h hm => hleaf h (List.mem_cons_of_mem _ ((List.takeWhile_sublist _).subset hm))
  rw [Heading.over, ContentsStyle.contents, hentry, hleaf first List.mem_cons_self, List.nil_append,
    Int.zero_add, w.contentsOf_leaves hrun, links, Text.ofLines_cons, List.append_assoc]
  rfl

theorem flushLine_link (w : Writer) (indent text : Text) :
    flushLine (w.link indent text) = w.link indent text :=
  flushLine_of_mem (c := '|') (by simp [link, Layout.straddled]) (by decide) (by decide)

theorem newline_not_mem_links {w : Writer} (hname : '\n' ∉ w.options.basename) {first : Heading}
    {rest : List Heading} (ht : ∀ h ∈ first :: rest, '\n' ∉ h.text) :
    ∀ l ∈ w.links first rest, '\n' ∉ l := by
  intro l hl
  obtain ⟨n, h, hm, rfl⟩ := mem_links hl
  exact newline_not_mem_link hname (Lead.spaces n).newline_not_mem (ht h hm)

theorem flushLeft_links (w : Writer) {first : Heading} {rest : List Heading}
    (h : ∀ l ∈ w.links first rest, '\n' ∉ l) :
    flushLeft (Text.ofLines (w.links first rest)) = Text.ofLines (w.links first rest) := by
  have hmap : (w.links first rest).map flushLine = w.links first rest := by
    simp [links, flushLine_link]
  rw [flushLeft_ofLines h, hmap]

theorem anchor_mem_lines {w : Writer} (hname : '\n' ∉ w.options.basename) {h : Heading}
    (ht : '\n' ∉ h.text) : w.anchor h.text ∈ h.lines w.options := by
  have hne : (w.anchor h.text).isEmpty = false := by simp [anchor, Layout.straddled]
  have hline : (Writer.fresh w.options).headingLine h.text = w.anchor h.text ++ '\n' :: ['\n'] := by
    rw [headingLine, Layout.straddle, List.append_assoc]
    rfl
  have hshown : Text.shownLines (w.anchor h.text ++ '\n' :: ['\n']) = [w.anchor h.text] := by
    rw [Text.shownLines, Text.lines_append_newline,
      Text.lines_of_not_mem (newline_not_mem_anchor hname ht)]
    simp [hne, Text.lines]
  rw [Heading.lines, Text.shownLines_append (Page.ended_headingRule _ _), hline, hshown]
  simp

/-- A list whose entries match those of another keeps matching when some of these are left out. -/
theorem sublistForall₂_of_sublist {α β : Type*} {R : α → β → Prop} {as bs : List α} {cs : List β}
    (hs : as.Sublist bs) (h : List.Forall₂ R bs cs) : List.SublistForall₂ R as cs := by
  induction hs generalizing cs with
  | slnil => exact .nil
  | cons b _ ih =>
    obtain ⟨c, cs, -, hr, rfl⟩ := List.forall₂_cons_left_iff.mp h
    exact .cons_right (ih hr)
  | cons_cons b _ ih =>
    obtain ⟨c, cs, hc, hr, rfl⟩ := List.forall₂_cons_left_iff.mp h
    exact .cons hc (ih hr)

theorem anchors_of_headingLines {w : Writer} (hname : '\n' ∉ w.options.basename)
    {headings : List Heading} (ht : ∀ h ∈ headings, '\n' ∉ h.text) {rows : List Row}
    (hrows : Row.HeadingLines rows (headings.flatMap (Heading.lines w.options))) :
    List.SublistForall₂ (fun h line => ∃ lead, Lead lead ∧ line = lead ++ w.anchor h.text)
      headings ((rows.map Row.flush).map Row.text) := by
  have hsub : (headings.map fun h => w.anchor h.text).Sublist
      (headings.flatMap (Heading.lines w.options)) := by
    rw [List.map_eq_flatMap]
    exact List.Sublist.flatMap_right _ fun h hm =>
      List.singleton_sublist.mpr (anchor_mem_lines hname (ht h hm))
  have hrows' : List.SublistForall₂ (fun line r => ∃ lead, Lead lead ∧ Row.text r = lead ++ line)
      (headings.map fun h => w.anchor h.text) (rows.filter Row.isHeading) :=
    sublistForall₂_of_sublist hsub hrows.flip
  obtain ⟨anchors, hall, hs⟩ :=
    List.sublistForall₂_iff.mp (List.sublistForall₂_map_left_iff.mp hrows')
  refine List.sublistForall₂_map_right_iff.mpr (List.sublistForall₂_map_right_iff.mpr
    (List.sublistForall₂_iff.mpr ⟨anchors, hall.imp ?_, hs.trans List.filter_sublist⟩))
  rintro h r ⟨lead, hlead, hr⟩
  refine ⟨lead, hlead, ?_⟩
  have hstar : '*' ∈ r.text := by simp [hr, anchor, Layout.straddled]
  change flushLine r.text = _
  rw [flushLine_of_mem hstar (by decide) (by decide), hr]

/-- The table of contents is exactly the links of the first heading and of the deeper ones behind
it: these and an empty line are all that the document has more than without a table of contents.
The document without one holds an anchor for every heading, in the same order. -/
theorem links_anchored {w : Writer} (hs : w.options.showContents)
    (hname : '\n' ∉ w.options.basename) {blocks : List Block} {first : Heading}
    {rest : List Heading} (hh : headingsOfAll blocks = first :: rest)
    (ht : ∀ h ∈ first :: rest, '\n' ∉ h.text) : ∃ before behind bare left,
    (w.showing false).document blocks = .ok (before ++ '\n' :: behind, bare) ∧
    w.document blocks =
      .ok (before ++ '\n' :: Text.ofLines (w.links first rest) ++ '\n' :: behind, left) ∧
    (∀ l ∈ w.links first rest, '\n' ∉ l) ∧
    List.SublistForall₂ (fun h line => ∃ lead, Lead lead ∧ line = lead ++ w.anchor h.text)
      (first :: rest) (Text.lines (before ++ '\n' :: behind)) := by
  obtain ⟨⟨behind, hb⟩, hahead⟩ := aheadOfAll_prefix w.options blocks
  have hleaf : ∀ h ∈ first :: rest, h.children = [] :=
    fun h hm => (mem_headingsOfAll blocks (hh ▸ hm)).1
  have hlinks := newline_not_mem_links hname ht
  obtain ⟨before, hbefore⟩ := w.flushLeft_headerText_append
    (Row.ended_textOf ((aheadOfAll w.options blocks).map Row.flush))
  have hbare := w.document_showing_false blocks
  rw [← hb, List.map_append, Row.textOf_append, ← List.append_assoc, hbefore, List.append_assoc,
    List.singleton_append] at hbare
  have hdocument := document_with_contents hs (w.root?_after hh) hb
  rw [w.contents_eq_links first hleaf, flushLeft_links w hlinks, hbefore, List.append_assoc before,
    List.singleton_append] at hdocument
  refine ⟨before, _, _, _, hbare, hdocument, hlinks, ?_⟩
  have hlines := headingLines_rowsOfAll w.options blocks
  rw [← hb, hh] at hlines
  -- No heading is ahead of the table of contents, so all anchors are in the rows behind it.
  have hanchors := anchors_of_headingLines hname ht (hlines.drop hahead)
  rw [Text.lines_append_newline, Row.lines_textOf]
  obtain ⟨anchors, hall, hsub⟩ := List.sublistForall₂_iff.mp hanchors
  refine List.sublistForall₂_iff.mpr ⟨anchors, hall, hsub.trans ?_⟩
  exact (List.sublist_append_left _ _).trans (List.sublist_append_right _ _)

theorem links_anchored_in_containers :
    let w := Writer.fresh .standard
    let blocks := [quote [heading 1 [.text ['a']]], list true [.item [heading 2 [.code ['b']]]]]
    let first := Heading.node ['a'] 1 []
    let rest := [Heading.node ['`', 'b', '`'] 2 []]
    (w.options.showContents ∧ '\n' ∉ w.options.basename ∧ headingsOfAll blocks = first :: rest ∧
      ∀ h ∈ first :: rest, '\n' ∉ h.text) ∧
    ∃ before behind bare left,
      (w.showing false).document blocks = .ok (before ++ '\n' :: behind, bare) ∧
      w.document blocks =
        .ok (before ++ '\n' :: Text.ofLines (w.links first rest) ++ '\n' :: behind, left) ∧
      (∀ l ∈ w.links first rest, '\n' ∉ l) ∧
      List.SublistForall₂ (fun h line => ∃ lead, Lead lead ∧ line = lead ++ w.anchor h.text)
        (first :: rest) (Text.lines (before ++ '\n' :: behind)) := by
  intro w blocks first rest
  have hname : '\n' ∉ w.options.basename := by decide
  have ht : ∀ h ∈ first :: rest, '\n' ∉ h.text := by simp [first, rest, Heading.text]
  exact ⟨⟨rfl, hname, rfl, ht⟩, links_anchored rfl hname rfl ht⟩

end Writer
end HelpFile
