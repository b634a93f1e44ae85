import HelpFile.Proofs.Body

/-!
# Lines of code

A code block that is no part of another block stands in the help file between its two marks, line by
line and indented. The sweep takes a line of code that holds one mark and nothing else for the mark
of a block, so such a line loses its indentation and may end the block early. No other line does.
-/
namespace HelpFile

theorem Text.space_prefix_spaces {n : Nat} (hn : 0 < n) (line : Text) :
    [' '] <+: spaces n ++ line := by
  obtain ⟨m, rfl⟩ := Nat.exists_eq_succ_of_ne_zero hn.ne'
  exact ⟨spaces m ++ line, rfl⟩

namespace Delimiter

/-- Of the lines that an indentation precedes, the sweep moves those to column zero that hold a lone
mark. -/
theorem space_prefix_flushLine_iff {n : Nat} (hn : 0 < n) (line : Text) :
    [' '] <+: flushLine (Text.spaces n ++ line) ↔ ¬ LoneMark line := by
  constructor
  · intro hp hl
    obtain ⟨mark, hm, hf⟩ := flushLine_of_loneMark (loneMark_spaces_append.mpr hl)
    rw [hf] at hp
    obtain ⟨rfl, -⟩ := List.cons_prefix_cons.mp hp
    simp [isMark] at hm
  · intro hl
    rw [flushLine_of_not_loneMark fun h => hl (loneMark_spaces_append.mp h)]
    exact Text.space_prefix_spaces hn line

theorem not_loneMark_nil : ¬ LoneMark [] := by
  rintro ⟨before, mark, after, ht, -⟩
  simp at ht

end Delimiter

namespace Text
open Delimiter

def literal (ls : List Text) : Text := '>' :: '\n' :: ofLines ls ++ ['<', '\n', '\n']

theorem literal_inj {ls ms : List Text} (hlen : ls.length = ms.length) (hl : ∀ l ∈ ls, '\n' ∉ l)
    (hm : ∀ l ∈ ms, '\n' ∉ l) {s t : Text} (h : literal ls ++ s = literal ms ++ t) : ls = ms := by
  -- A shown line may read like the closing mark, so only the number of lines tells them apart.
  simp only [literal, List.append_assoc, List.cons_append, List.cons.injEq, true_and] at h
  have hlines := congrArg lines h
  rw [lines_ofLines_append hl, lines_ofLines_append hm] at hlines
  exact List.append_inj_left hlines hlen

theorem mem_shownLines {text l : Text} : l ∈ shownLines text ↔ l ∈ lines text ∧ l ≠ [] := by
  simp [shownLines]

def indentedLines (n : Nat) (text : Text) : List Text := (shownLines text).map (spaces n ++ ·)

theorem newline_not_mem_indentedLines {n : Nat} {text l : Text} (h : l ∈ indentedLines n text) :
    '\n' ∉ l := by
  obtain ⟨line, hl, rfl⟩ := List.mem_map.mp h
  have hs : '\n' ∉ spaces n := (Lead.spaces n).newline_not_mem
  have hline : '\n' ∉ line := newline_not_mem_of_mem_lines (mem_shownLines.mp hl).1
  simp [hs, hline]

theorem loneMark_shownLines {text : Text} :
    (∀ l ∈ shownLines text, ¬ LoneMark l) ↔ ∀ l ∈ lines text, ¬ LoneMark l := by
  constructor
  · intro h l hl
    by_cases hn : l = []
    · rw [hn]
      exact not_loneMark_nil
    · exact h l (mem_shownLines.mpr ⟨hl, hn⟩)
  · intro h l hl
    exact h l (mem_shownLines.mp hl).1

theorem flush_indentedLines_iff {n : Nat} (hn : 0 < n) (text : Text) :
    (∀ l ∈ (indentedLines n text).map flushLine, [' '] <+: l) ↔
      ∀ l ∈ lines text, ¬ LoneMark l := by
  rw [← loneMark_shownLines, indentedLines, List.map_map, List.forall_mem_map]
  exact forall₂_congr fun l _ => space_prefix_flushLine_iff hn l

theorem flush_indentedLines {text : Text} (h : ∀ l ∈ lines text, ¬ LoneMark l) (n : Nat) :
    (indentedLines n text).map flushLine = indentedLines n text := by
  rw [indentedLines, List.map_map]
  apply List.map_congr_left
  intro l hl
  have hline := h l (mem_shownLines.mp hl).1
  exact flushLine_of_not_loneMark fun hm => hline (loneMark_spaces_append.mp hm)

theorem flush_indentedLines_eq_iff {n : Nat} (hn : 0 < n) (text : Text) :
    (indentedLines n text).map flushLine = indentedLines n text ↔
      ∀ l ∈ lines text, ¬ LoneMark l := by
  constructor
  · intro h
    apply (flush_indentedLines_iff hn text).mp
    rw [h]
    intro l hl
    obtain ⟨line, -, rfl⟩ := List.mem_map.mp hl
    exact space_prefix_spaces hn line
  · intro h
    exact flush_indentedLines h n

end Text

namespace Row
open Text

theorem map_text_flush_code (n : Nat) (code : Text) :
    ((((ofLines .plain code).filter shows).map
      (·.behind (spaces n) (Lead.spaces n))).map flush).map text =
      (indentedLines n code).map Delimiter.flushLine := by
  have hshown : ((ofLines .plain code).filter shows).map text = shownLines code := by
    rw [shownLines, ← map_text_ofLines .plain code, List.filter_map]
    rfl
  rw [indentedLines, ← hshown]
  simp only [List.map_map]
  rfl

theorem textOf_flush_literal (width : Int) (code : Text) :
    textOf ((Row.literal width (ofLines .plain code)).map flush) =
      Text.literal ((indentedLines width.toNat code).map Delimiter.flushLine) := by
  have hcode : ((indented width (ofLines .plain code)).map flush).map text =
      (indentedLines width.toNat code).map Delimiter.flushLine :=
    map_text_flush_code width.toNat code
  have hopen : Delimiter.flushLine ['>'] = ['>'] := rfl
  have hclose : Delimiter.flushLine ['<'] = ['<'] := rfl
  have hblank : Delimiter.flushLine [] = [] := rfl
  rw [Row.literal, List.map_append, List.map_cons, List.cons_append, textOf_cons, textOf_append,
    textOf, hcode]
  simp [Text.literal, blank, hopen, hclose, hblank]

end Row

namespace Block

def code? : Block → Option Text
  | fencedCode _ text | indentedCode text => some text
  | _ => none

theorem rows_code {b : Block} {code : Text} (h : b.code? = some code) (o : Options) :
    b.rows o = Row.literal o.tabWidth (Row.ofLines .plain code) ∧ b.headings = [] := by
  cases b with
  | fencedCode _ text | indentedCode text =>
    obtain rfl := Option.some.inj h
    exact ⟨rfl, rfl⟩
  | _ => simp [code?] at h

end Block

namespace Writer
open Block Delimiter Text

/-- What stands in front of a block of a document: the header and what the blocks before it write,
with the table of contents if one of these has the first heading. -/
def front (w : Writer) (blocks before : List Block) : Text :=
  flushLeft w.headerText ++ w.bodyAround (w.contentsText blocks) before

theorem front_ended (w : Writer) (blocks before : List Block) :
    ∃ start, w.front blocks before = start ++ ['\n'] :=
  w.flushLeft_headerText_append (w.ended_bodyAround (w.ended_contentsText blocks) before)

theorem document_code (w : Writer) (before after : List Block) {b : Block} {code : Text}
    (hb : b.code? = some code) :
    let blocks := before ++ b :: after
    let kept := indentedLines w.options.tabWidth.toNat code
    ∃ text left, w.document blocks = .ok (text, left) ∧
      (∃ behind, text = w.front blocks before ++ literal (kept.map flushLine) ++ behind) ∧
      ((∃ behind, text = w.front blocks before ++ literal kept ++ behind) ↔
        kept.map flushLine = kept) := by
  intro blocks kept
  obtain ⟨hrows, hnone⟩ := rows_code hb w.options
  obtain ⟨behind, hsplit⟩ := w.bodyAround_split (w.contentsText blocks) before after hnone
  have hdocument : w.document blocks = .ok
      (w.front blocks before ++ literal (kept.map flushLine) ++ behind, w.after blocks) := by
    rw [document_eq_bodyAround, hsplit, hrows, Row.textOf_flush_literal, front]
    simp only [List.append_assoc]
    rfl
  have hkept : ∀ l ∈ kept, '\n' ∉ l := fun l hl => newline_not_mem_indentedLines hl
  have hflushed : ∀ l ∈ kept.map flushLine, '\n' ∉ l := by
    intro l hl
    obtain ⟨line, hline, rfl⟩ := List.mem_map.mp hl
    exact newline_not_mem_flushLine (hkept line hline)
  refine ⟨_, _, hdocument, ⟨behind, rfl⟩, ?_⟩
  constructor
  · rintro ⟨rest, hrest⟩
    rw [List.append_assoc, List.append_assoc] at hrest
    exact literal_inj (List.length_map _) hflushed hkept (List.append_cancel_left hrest)
  · intro hsame
    exact ⟨behind, by rw [hsame]⟩

/-- Between the marks of a code block stand its lines that are not empty, each behind the
indentation, if and only if no line of the code is a lone mark. One that is stands in column
zero. -/
theorem code_kept_iff {w : Writer} (ht : 0 < w.options.tabWidth) (before after : List Block)
    {b : Block} {code : Text} (hb : b.code? = some code) :
    let blocks := before ++ b :: after
    let kept := indentedLines w.options.tabWidth.toNat code
    ∃ text left, w.document blocks = .ok (text, left) ∧
      (∃ start, w.front blocks before = start ++ ['\n']) ∧
      (∃ behind, text = w.front blocks before ++ literal (kept.map flushLine) ++ behind) ∧
      ((∃ behind, text = w.front blocks before ++ literal kept ++ behind) ↔
        ∀ l ∈ lines code, ¬ LoneMark l) ∧
      ((∀ l ∈ kept.map flushLine, [' '] <+: l) ↔ ∀ l ∈ lines code, ¬ LoneMark l) := by
  intro blocks kept
  have hn : 0 < w.options.tabWidth.toNat := by omega
  obtain ⟨text, left, hd, hshown, hkept⟩ := w.document_code before after hb
  refine ⟨text, left, hd, w.front_ended blocks before, hshown, ?_, ?_⟩
  · exact hkept.trans (flush_indentedLines_eq_iff hn code)
  · exact flush_indentedLines_iff hn code

theorem code_kept_in_document :
    let w := Writer.fresh .standard
    let code := "if a <b>:\n\n  < c".toList
    (0 < w.options.tabWidth ∧ (fencedCode [] code).code? = some code) ∧
    let blocks := [heading 1 [.text ['T']]] ++ fencedCode [] code :: [quote [thematicBreak]]
    let kept := indentedLines w.options.tabWidth.toNat code
    ∃ text left, w.document blocks = .ok (text, left) ∧
      (∃ start, w.front blocks [heading 1 [.text ['T']]] = start ++ ['\n']) ∧
      (∃ behind, text = w.front blocks [heading 1 [.text ['T']]] ++ literal (kept.map flushLine) ++
        behind) ∧
      ((∃ behind, text = w.front blocks [heading 1 [.text ['T']]] ++ literal kept ++ behind) ↔
        ∀ l ∈ lines code, ¬ LoneMark l) ∧
      ((∀ l ∈ kept.map flushLine, [' '] <+: l) ↔ ∀ l ∈ lines code, ¬ LoneMark l) := by
  intro w code
  exact ⟨⟨by decide, rfl⟩, code_kept_iff (by decide) _ _ rfl⟩

/-- A line of code that holds a closing mark ends the block in front of the lines behind it. -/
theorem code_cut_short :
    let w := Writer.fresh .standard
    let code := ['a', '\n', ' ', '<', '\n', 'b']
    (∃ left, w.document [fencedCode [] code] =
      .ok ("doc.txt\n\n>\n    a\n<\n    b\n<\n\n".toList, left)) ∧
    ¬ ∃ text left behind, w.document [fencedCode [] code] = .ok (text, left) ∧
      text = w.front [fencedCode [] code] [] ++
        literal (indentedLines w.options.tabWidth.toNat code) ++ behind := by
  constructor
  · exact exists_document_eq rfl
  · rintro ⟨text, left, behind, hd, hkept⟩
    obtain ⟨_, _, hd', -, hiff⟩ := (Writer.fresh .standard).document_code [] []
      (b := fencedCode [] ['a', '\n', ' ', '<', '\n', 'b']) rfl
    obtain ⟨rfl, rfl⟩ := Prod.mk.inj (Except.ok.inj (hd.symm.trans hd'))
    exact absurd (hiff.mp ⟨behind, hkept⟩) (by decide)

end Writer
end HelpFile
