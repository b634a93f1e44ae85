import HelpFile.Layout
import HelpFile.Proofs.Delimiter

/-!
# Texts without their spaces

Taking out the spaces of a text keeps its lines apart, and the sweep for block delimiters does not
notice. What is laid out to a width loses the width with its spaces.
-/
namespace HelpFile.Text

def despaced (text : Text) : Text := text.filter (· ≠ ' ')

@[simp] theorem despaced_nil : despaced [] = [] := rfl

@[simp] theorem despaced_append (text more : Text) :
    despaced (text ++ more) = despaced text ++ despaced more := List.filter_append ..

theorem despaced_newline_cons (text : Text) : despaced ('\n' :: text) = '\n' :: despaced text :=
  List.filter_cons_of_pos (by decide)

@[simp] theorem despaced_spaces (n : Nat) : despaced (spaces n) = [] := by
  apply List.filter_eq_nil_iff.mpr
  intro c hc
  simp [List.eq_of_mem_replicate hc]

@[simp] theorem despaced_blanks (width : Int) : despaced (Layout.blanks width) = [] :=
  despaced_spaces _

theorem lines_despaced (text : Text) : lines (despaced text) = (lines text).map despaced := by
  induction text with
  | nil => rfl
  | cons c rest ih =>
    by_cases hc : c = '\n'
    · subst c
      rw [despaced_newline_cons, lines_newline, ih, lines_newline]
      rfl
    · obtain ⟨line, more, hl⟩ := exists_lines rest
      rw [hl, List.map_cons] at ih
      rw [lines_cons hc hl, List.map_cons]
      by_cases hs : c = ' '
      · subst c
        exact ih
      · have hrest : ∀ t : Text, despaced (c :: t) = c :: despaced t := fun t =>
          List.filter_cons_of_pos (by simpa using hs)
        rw [hrest, hrest, lines_cons hc ih]

theorem unlines_despaced (ls : List Text) : unlines (ls.map despaced) = despaced (unlines ls) := by
  induction ls with
  | nil => rfl
  | cons l ls ih =>
    cases ls with
    | nil => rfl
    | cons m ms =>
      rw [List.map_cons, unlines_cons _ (by simp), ih, unlines_cons l (List.cons_ne_nil m ms),
        despaced_append, despaced_newline_cons]

theorem despaced_ofLines (ls : List Text) : despaced (ofLines ls) = ofLines (ls.map despaced) := by
  induction ls with
  | nil => rfl
  | cons l ls ih =>
    rw [ofLines_cons, despaced_append, despaced_newline_cons, ih, List.map_cons, ofLines_cons]

end HelpFile.Text

namespace HelpFile.Delimiter
open Text

def unpadded (line : Text) : Text := line.filter fun c => !isPadding c

theorem unpadded_dropWhile (line : Text) : unpadded (line.dropWhile isPadding) = unpadded line := by
  induction line with
  | nil => rfl
  | cons c line ih =>
    by_cases hc : isPadding c
    · simpa [unpadded, hc] using ih
    · simp [hc]

theorem unpadded_eq_nil {line : Text} : unpadded line = [] ↔ line.all isPadding := by
  simp [unpadded]

theorem flushLine_eq_unpadded (line : Text) :
    flushLine line =
      match unpadded line with
      | [c] => if isMark c then [c] else line
      | _ => line := by
  rw [← unpadded_dropWhile, flushLine]
  cases h : line.dropWhile isPadding with
  | nil => rfl
  | cons c rest =>
    have hc : ¬ isPadding c := by
      have := List.head_dropWhile_not isPadding (l := line) (by simp [h])
      simpa [h] using this
    have hu : unpadded (c :: rest) = c :: unpadded rest :=
      List.filter_cons_of_pos (by simpa using hc)
    rw [hu]
    by_cases hr : rest.all isPadding
    · rw [unpadded_eq_nil.mpr hr]
      simp [hr]
    · have hne : unpadded rest ≠ [] := fun hn => hr (unpadded_eq_nil.mp hn)
      obtain ⟨d, more, hd⟩ := List.exists_cons_of_ne_nil hne
      simp [hd, hr]

theorem unpadded_despaced (line : Text) : unpadded (despaced line) = unpadded line := by
  rw [unpadded, despaced, List.filter_filter]
  apply List.filter_congr
  intro c _
  by_cases hs : c = ' '
  · simp [hs, isPadding]
  · simp [hs]

theorem flushLine_despaced (line : Text) : flushLine (despaced line) = despaced (flushLine line) := by
  rw [flushLine_eq_unpadded, flushLine_eq_unpadded, unpadded_despaced]
  split
  · next c _ =>
    split
    · next hm =>
      have hs : c ≠ ' ' := by
        rintro rfl
        simp [isMark] at hm
      simp [despaced, hs]
    · rfl
  · rfl

theorem flushLeft_despaced (text : Text) : flushLeft (despaced text) = despaced (flushLeft text) := by
  have hmap : ((lines text).map despaced).map flushLine =
      ((lines text).map flushLine).map despaced := by
    rw [List.map_map, List.map_map]
    exact List.map_congr_left fun line _ => flushLine_despaced line
  rw [flushLeft_eq_flushLines, flushLeft_eq_flushLines, flushLines, flushLines, lines_despaced,
    hmap, unlines_despaced]

end HelpFile.Delimiter

namespace HelpFile.Layout
open Text

theorem despaced_straddle (left right : Text) (columnWidth trim : Int) :
    despaced (straddle left right columnWidth trim) =
      despaced left ++ despaced right ++ ['\n'] := by
  have hnewline : despaced ['\n'] = ['\n'] := rfl
  simp [straddle, hnewline]

end HelpFile.Layout
