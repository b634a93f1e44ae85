import HelpFile.Proofs.Stretch

/-!
# What the sweep does to a text

The sweep replaces the lines that hold one mark and padding and keeps all others. Sweeping twice is
sweeping once, no line is lost or gained, and what the footer leaves is swept already.
-/
namespace HelpFile.Delimiter
open Text

theorem flushLine_flushLine (line : Text) : flushLine (flushLine line) = flushLine line := by
  by_cases hl : LoneMark line
  · obtain ⟨mark, hm, hf⟩ := flushLine_of_loneMark hl
    have hp : flushLine ([] ++ mark :: []) = [mark] := flushLine_padded hm (by simp) (by simp)
    rw [hf]
    exact hp
  · rw [flushLine_of_not_loneMark hl]
    exact flushLine_of_not_loneMark hl

theorem lines_flushLeft (text : Text) : lines (flushLeft text) = (lines text).map flushLine := by
  rw [flushLeft_eq_flushLines, flushLines]
  apply lines_unlines
  · intro hn
    exact lines_ne_nil text (List.map_eq_nil_iff.mp hn)
  · intro l hl
    obtain ⟨line, hline, rfl⟩ := List.mem_map.mp hl
    exact newline_not_mem_flushLine (newline_not_mem_of_mem_lines hline)

theorem length_lines_flushLeft (text : Text) :
    (lines (flushLeft text)).length = (lines text).length := by
  rw [lines_flushLeft, List.length_map]

theorem flushLeft_flushLeft (text : Text) : flushLeft (flushLeft text) = flushLeft text := by
  have hmap : ((lines text).map flushLine).map flushLine = (lines text).map flushLine := by
    rw [List.map_map]
    exact List.map_congr_left fun line _ => flushLine_flushLine line
  rw [flushLeft_eq_flushLines (flushLeft text), flushLines, lines_flushLeft, hmap,
    flushLeft_eq_flushLines, flushLines]

theorem flushLeft_footer (p : Page) :
    flushLeft p.footer.out.contents = p.footer.out.contents := by
  have hswept : p.footer.out.contents =
      flushLeft (p.writer.withContents p.out.contents) := Buffer.contents_reset _ _
  rw [hswept, flushLeft_flushLeft]

/-- The sweep treats each line on its own: one that is a mark between padding becomes the mark, any
other stays. -/
theorem sweep_by_line :
    (∀ text, flushLeft text = unlines ((lines text).map flushLine)) ∧
    (∀ before mark after, isMark mark → (∀ c ∈ before, isPadding c) → (∀ c ∈ after, isPadding c) →
      flushLine (before ++ mark :: after) = [mark]) ∧
    (∀ line, ¬ LoneMark line → flushLine line = line) ∧
    (∀ text, flushLeft (flushLeft text) = flushLeft text) ∧
    (∀ text, (lines (flushLeft text)).length = (lines text).length) ∧
    (∀ a b, Ended a → flushLeft (a ++ b) = flushLeft a ++ flushLeft b) ∧
    ∀ p : Page, flushLeft p.footer.out.contents = p.footer.out.contents := by
  refine ⟨flushLeft_eq_flushLines, ?_, ?_, flushLeft_flushLeft, length_lines_flushLeft, ?_,
    flushLeft_footer⟩
  · intro before mark after hm hb ha
    exact flushLine_padded hm hb ha
  · intro line hl
    exact flushLine_of_not_loneMark hl
  · intro a b ha
    exact flushLeft_append ha b

example : flushLeft " \t>\r\n > \n\n\t<".toList = " \t>\r\n>\n\n<".toList := by
  rw [flushLeft_eq_flushLines]
  decide

end HelpFile.Delimiter
