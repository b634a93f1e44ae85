import HelpFile.Proofs.CodeLines
import HelpFile.Proofs.ItemLines

/-!
# Indentation at several depths

A container indents what the containers inside it have indented before. What is written at the end
are the lines that show something, each behind all the widths in one, so indentations add up and
nothing but empty lines is lost. Room for a marker is taken from the first line alone.
-/
namespace HelpFile

namespace Text

theorem shownLines_append_newline (above below : Text) :
    shownLines (above ++ '\n' :: below) = shownLines above ++ shownLines below := by
  rw [shownLines, lines_append_newline, List.filter_append]
  rfl

theorem indentedLines_append_newline (n : Nat) (above below : Text) :
    indentedLines n (above ++ '\n' :: below) = indentedLines n above ++ indentedLines n below := by
  rw [indentedLines, shownLines_append_newline, List.map_append]
  rfl

theorem ne_nil_of_mem_indentedLines {n : Nat} {text l : Text} (h : l ∈ indentedLines n text) :
    l ≠ [] := by
  obtain ⟨line, hl, rfl⟩ := List.mem_map.mp h
  exact List.append_ne_nil_of_right_ne_nil _ (mem_shownLines.mp hl).2

theorem lines_ofLines_indentedLines (n : Nat) (text : Text) :
    lines (ofLines (indentedLines n text)) = indentedLines n text ++ [[]] := by
  have hbreak : ∀ l ∈ indentedLines n text, '\n' ∉ l := fun _ hl =>
    newline_not_mem_indentedLines hl
  have hlines := lines_ofLines_append hbreak []
  rwa [List.append_nil] at hlines

theorem shownLines_ofLines_indentedLines (n : Nat) (text : Text) :
    shownLines (ofLines (indentedLines n text)) = indentedLines n text := by
  have hshown : (indentedLines n text).filter (fun l => !l.isEmpty) = indentedLines n text := by
    apply List.filter_eq_self.mpr
    intro l hl
    simpa using ne_nil_of_mem_indentedLines hl
  rw [shownLines, lines_ofLines_indentedLines, List.filter_append, hshown]
  exact List.append_nil _

theorem indentedLines_ofLines_indentedLines (m n : Nat) (text : Text) :
    indentedLines n (ofLines (indentedLines m text)) = indentedLines (m + n) text := by
  rw [indentedLines, shownLines_ofLines_indentedLines, indentedLines, List.map_map, indentedLines]
  apply List.map_congr_left
  intro l _
  rw [Nat.add_comm, spaces_add, List.append_assoc]
  rfl

/-- Without their indentation the lines are those of the text again. -/
theorem map_drop_indentedLines (n : Nat) (text : Text) :
    (indentedLines n text).map (List.drop n) = shownLines text := by
  rw [indentedLines, List.map_map]
  apply List.map_id''
  intro l
  exact List.drop_left' List.length_replicate

end Text

namespace Layout
open Text

theorem indentBlock_zero (text : Text) (width : Nat) :
    indentBlock text width 0 = ofLines (indentedLines width text) := by
  obtain ⟨first, rest, hl⟩ := exists_lines text
  have hwidth : max ((width : Int) - 0) 0 = width := by omega
  rw [indentBlock_cons hl, hwidth, ← List.flatMap_cons, ← hl, flatMap_indentLine]
  rfl

theorem indentBlock_indentBlock (text : Text) (inner outer : Nat) :
    indentBlock (indentBlock text inner 0) outer 0 = indentBlock text (inner + outer) 0 := by
  rw [indentBlock_zero, indentBlock_zero, indentedLines_ofLines_indentedLines, ← Int.natCast_add,
    indentBlock_zero]

theorem indentBlock_append_newline (above below : Text) (width : Nat) :
    indentBlock (above ++ '\n' :: below) width 0 =
      indentBlock above width 0 ++ indentBlock below width 0 := by
  rw [indentBlock_zero, indentedLines_append_newline, ofLines_append, indentBlock_zero,
    indentBlock_zero]

theorem map_drop_lines_indentBlock (text : Text) (width : Nat) :
    (lines (indentBlock text width 0)).map (List.drop width) = shownLines text ++ [[]] := by
  rw [indentBlock_zero, lines_ofLines_indentedLines, List.map_append, map_drop_indentedLines,
    List.map_singleton, List.drop_nil]

/-- An empty first line takes the trim with it. -/
theorem indentBlock_trim_of_empty {text : Text} (h : (lines text).head? = some [])
    (width trim : Nat) : indentBlock text width trim = indentBlock text width 0 := by
  obtain ⟨rest, hl⟩ := List.head?_eq_some_iff.mp h
  rw [indentBlock_cons hl, indentBlock_cons hl]
  rfl

theorem indentBlock_trim_of_shown {text first : Text} (h : (lines text).head? = some first)
    (hne : first ≠ []) (width : Nat) : ∃ below, ∀ trim : Nat,
      indentBlock text width trim = spaces (width - trim) ++ first ++ '\n' :: below := by
  obtain ⟨rest, hl⟩ := List.head?_eq_some_iff.mp h
  refine ⟨rest.flatMap (indentLine width), fun trim => ?_⟩
  rw [indentBlock_cons hl, indentLine_of_ne_nil _ hne, blanks_sub, Int.toNat_natCast,
    List.append_assoc]
  rfl

/-- Indentation adds up over depths, goes through texts one below the other and can be taken off
again. A trim changes the first line, if that shows something, and no other. -/
theorem indentation_composes (text more : Text) (width outer trim : Nat) :
    indentBlock (indentBlock text width 0) outer 0 = indentBlock text (width + outer) 0 ∧
    indentBlock (text ++ '\n' :: more) width 0 =
      indentBlock text width 0 ++ indentBlock more width 0 ∧
    (lines (indentBlock text width 0)).map (List.drop width) = shownLines text ++ [[]] ∧
    ((lines text).head? = some [] → indentBlock text width trim = indentBlock text width 0) ∧
    ∀ first, (lines text).head? = some first → first ≠ [] → ∃ below,
      indentBlock text width 0 = spaces width ++ first ++ '\n' :: below ∧
      indentBlock text width trim = spaces (width - trim) ++ first ++ '\n' :: below := by
  refine ⟨indentBlock_indentBlock text width outer, indentBlock_append_newline text more width,
    map_drop_lines_indentBlock text width, fun h => indentBlock_trim_of_empty h width trim, ?_⟩
  intro first h hne
  obtain ⟨below, hbelow⟩ := indentBlock_trim_of_shown h hne width
  exact ⟨below, hbelow 0, hbelow trim⟩

end Layout
end HelpFile
