import HelpFile.Proofs.Document
import HelpFile.Proofs.HeadingLines

/-!
# The table of contents

The root of the outline is the first heading with the run of deeper headings behind it. The table of
contents lists these and is inserted at a line boundary ahead of all heading lines; nothing else of
the document changes, and what it links to stands in the rest of the document in the same order.
-/
namespace HelpFile

/-- A first heading with the run of deeper headings that comes next. -/
def Heading.over (first : Heading) (rest : List Heading) : Heading :=
  .node first.text first.level
    (first.children ++ rest.takeWhile fun h => first.level < h.level)

namespace Outline

theorem placeAll_cons (o : Outline) (h : Heading) (rest : List Heading) :
    o.placeAll (h :: rest) = (o.place h).placeAll rest := rfl

/-- A detached heading is current from then on, and nothing is added to the root. -/
theorem root?_placeAll_detached (root current : Heading) (headings : List Heading) :
    ((detached root current).placeAll headings).root? = some root := by
  induction headings generalizing current with
  | nil => rfl
  | cons h rest ih =>
    rw [placeAll_cons, place]
    split <;> exact ih _

/-- The root collects headings up to the first that is not deeper. -/
theorem root?_placeAll_rooted (text : Text) (level : Int) (children headings : List Heading) :
    ((rooted (.node text level children)).placeAll headings).root? =
      some (.node text level (children ++ headings.takeWhile fun h => level < h.level)) := by
  induction headings generalizing children with
  | nil =>
    rw [List.takeWhile_nil, List.append_nil]
    rfl
  | cons h rest ih =>
    by_cases hl : h.level ≤ level
    · have hn : ¬ level < h.level := by omega
      rw [placeAll_cons, place, Heading.level, if_pos hl, root?_placeAll_detached,
        List.takeWhile_cons_of_neg (by simpa using hn), List.append_nil]
    · have hn : level < h.level := by omega
      rw [placeAll_cons, place, Heading.level, if_neg hl, Heading.addChild, ih,
        List.takeWhile_cons_of_pos (by simpa using hn), List.append_assoc]
      rfl

theorem root?_placeAll (first : Heading) (rest : List Heading) :
    (empty.placeAll (first :: rest)).root? = some (first.over rest) := by
  obtain ⟨text, level, children⟩ := first
  exact root?_placeAll_rooted text level children rest

end Outline

namespace ContentsStyle

mutual

theorem ended_contents (s : ContentsStyle) (depth : Int) : (h : Heading) →
    Text.Ended (s.contents depth h)
  | .node _ _ children =>
    Text.ended_append (Text.ended_append_newline _) (ended_contentsOf s (depth + 1) children)

theorem ended_contentsOf (s : ContentsStyle) (depth : Int) : (headings : List Heading) →
    Text.Ended (s.contentsOf depth headings)
  | [] => Or.inl rfl
  | h :: rest => Text.ended_append (ended_contents s depth h) (ended_contentsOf s depth rest)

end

end ContentsStyle

namespace Writer
open Block Delimiter

theorem root?_after (w : Writer) {blocks : List Block} {first : Heading} {rest : List Heading}
    (hh : headingsOfAll blocks = first :: rest) :
    (w.after blocks).outline.root? = some (first.over rest) := by
  rw [after, hh, Outline.root?_placeAll]

theorem withContents_after {w : Writer} (hs : w.options.showContents) {blocks : List Block}
    {root : Heading} (hroot : (w.after blocks).outline.root? = some root) {behind : List Row}
    (hb : aheadOfAll w.options blocks ++ behind = rowsOfAll w.options blocks) :
    (w.after blocks).withContents (w.headerText ++ Row.textOf (rowsOfAll w.options blocks)) =
      w.headerText ++ Row.textOf (aheadOfAll w.options blocks) ++
        w.contentsStyle.contents 0 root ++ '\n' :: Row.textOf behind := by
  let front := w.headerText ++ Row.textOf (aheadOfAll w.options blocks)
  have hat : (w.after blocks).contentsAt = some front.length := by
    have hne : headingsOfAll blocks ≠ [] := by
      intro he
      simp [after, he, Outline.placeAll, Outline.root?] at hroot
    simp [after, hne, front]
  have htext : w.headerText ++ Row.textOf (rowsOfAll w.options blocks) =
      front ++ Row.textOf behind := by
    rw [← hb, Row.textOf_append, List.append_assoc]
  have hshow : (w.after blocks).options.showContents = true := hs
  rw [withContents, hat, hroot, hshow, htext]
  simp only [List.take_left, List.drop_left]
  rfl

theorem flushLeft_headerText_append (w : Writer) {text : Text} (ht : Text.Ended text) :
    ∃ before, flushLeft w.headerText ++ text = before ++ ['\n'] := by
  obtain ⟨before, hheader⟩ := w.headerText_ended
  refine Text.append_ended ⟨flushLeft before, ?_⟩ ht
  rw [hheader, flushLeft_append_newline before [], flushLeft_nil]

theorem document_with_contents {w : Writer} (hs : w.options.showContents) {blocks : List Block}
    {root : Heading} (hroot : (w.after blocks).outline.root? = some root) {behind : List Row}
    (hb : aheadOfAll w.options blocks ++ behind = rowsOfAll w.options blocks) :
    w.document blocks = .ok
      (flushLeft w.headerText ++ Row.textOf ((aheadOfAll w.options blocks).map Row.flush) ++
        flushLeft (w.contentsStyle.contents 0 root) ++ '\n' :: Row.textOf (behind.map Row.flush),
        w.after blocks) := by
  have hheader : Text.Ended w.headerText := Or.inr w.headerText_ended
  have hfront : Text.Ended (w.headerText ++ Row.textOf (aheadOfAll w.options blocks)) :=
    Text.ended_append hheader (Row.ended_textOf _)
  have hcontents : Text.Ended (w.contentsStyle.contents 0 root) :=
    ContentsStyle.ended_contents _ 0 root
  have hline : flushLeft ('\n' :: Row.textOf behind) = '\n' :: flushLeft (Row.textOf behind) := by
    simpa [flushLeft_nil] using flushLeft_append_newline [] (Row.textOf behind)
  rw [document_eq, withContents_after hs hroot hb,
    flushLeft_append (Text.ended_append hfront hcontents), flushLeft_append hfront,
    flushLeft_append hheader, Row.flushLeft_textOf, hline, Row.flushLeft_textOf]

/-- A table of contents is inserted at a line boundary ahead of all heading lines, and nothing else
changes. -/
theorem contents_inserted (w : Writer) (blocks : List Block) : ∃ bare full left listed,
    (w.showing false).document blocks = .ok (bare, left) ∧
    (w.showing true).document blocks = .ok (full, listed) ∧
    listed.notices = left.notices ∧
    (headingsOfAll blocks = [] → full = bare) ∧
    (headingsOfAll blocks ≠ [] → ∃ root ahead behind front rest,
      listed.outline.root? = some root ∧
      rowsOfAll w.options blocks = ahead ++ behind ∧
      front = flushLeft w.headerText ++ Row.textOf (ahead.map Row.flush) ∧
      rest = Row.textOf (behind.map Row.flush) ∧
      (∃ before, front = before ++ ['\n']) ∧
      bare = front ++ rest ∧
      full = front ++ flushLeft (listed.contentsStyle.contents 0 root) ++ '\n' :: rest ∧
      Row.HeadingLines ahead [] ∧
      Row.HeadingLines behind ((headingsOfAll blocks).flatMap (Heading.lines w.options))) := by
  have hbare := w.document_showing_false blocks
  by_cases he : headingsOfAll blocks = []
  · have hfull := document_plain (w := w.showing true) (Or.inr he)
    rw [rowsOfAll_showing] at hfull
    exact ⟨_, _, _, _, hbare, hfull, rfl, fun _ => rfl, fun hne => absurd he hne⟩
  · let shown := w.showing true
    obtain ⟨⟨behind, hb⟩, hahead⟩ := aheadOfAll_prefix shown.options blocks
    obtain ⟨first, rest, hr⟩ := List.exists_cons_of_ne_nil he
    have hroot := shown.root?_after hr
    have hfull := document_with_contents (w := shown) rfl hroot hb
    have hlines := headingLines_rowsOfAll shown.options blocks
    rw [← hb] at hlines
    refine ⟨_, _, _, _, hbare, hfull, rfl, fun h => absurd h he, fun _ => ?_⟩
    rw [rowsOfAll_showing] at hb
    refine ⟨_, _, behind, _, _, hroot, hb.symm, rfl, rfl, ?_, ?_, rfl, hahead,
      hlines.drop hahead⟩
    · exact w.flushLeft_headerText_append (Row.ended_textOf _)
    · rw [← hb, List.map_append, Row.textOf_append, List.append_assoc]

end Writer
end HelpFile
